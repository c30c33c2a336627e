/-!
# Ordered maps

A map is the list of its entries, one per key, in the order in which the keys came first. Setting a
key that is present keeps its place.

## Contents
- `get?`, `put`, `update`, `ofList`, and the equations that say what a look-up finds after each.
-/

namespace DocLinks

/-- A map from `α` to `β` that remembers the order of its keys. -/
abbrev Assoc (α β : Type) := List (α × β)

namespace Assoc

variable {α β : Type} [DecidableEq α]

/-- The value of a key. -/
def get? (m : Assoc α β) (key : α) : Option β :=
  match m with
  | [] => none
  | (k, v) :: rest => if k = key then some v else get? rest key

/-- The map with one key set by a function of its present value. -/
def update (m : Assoc α β) (key : α) (f : Option β → β) : Assoc α β :=
  match m with
  | [] => [(key, f none)]
  | (k, v) :: rest => if k = key then (k, f (some v)) :: rest else (k, v) :: update rest key f

/-- The map with one key set. -/
def put (m : Assoc α β) (key : α) (value : β) : Assoc α β := update m key fun _ => value

/-- The map of a list of pairs, a later pair replacing the value of an earlier one. -/
def ofList (pairs : List (α × β)) : Assoc α β := pairs.foldl (fun m p => put m p.1 p.2) []

/-- The pairs grouped by key: each key with its values in order. -/
def group (pairs : List (α × β)) : Assoc α (List β) :=
  pairs.foldl (fun m p => update m p.1 fun old => old.getD [] ++ [p.2]) []

@[simp] theorem get?_nil (key : α) : get? ([] : Assoc α β) key = none := rfl

theorem get?_update (m : Assoc α β) (key other : α) (f : Option β → β) :
    get? (update m key f) other = if key = other then some (f (get? m key)) else get? m other := by
  induction m with
  | nil => simp [update, get?]
  | cons e rest ih =>
    obtain ⟨k, v⟩ := e
    by_cases hk : k = key
    · subst hk
      by_cases ho : k = other <;> simp [update, get?, ho]
    · by_cases ho : k = other
      · subst ho
        simp [update, get?, hk, Ne.symm hk]
      · simp [update, get?, hk, ho, ih]

theorem get?_put (m : Assoc α β) (key other : α) (value : β) :
    get? (put m key value) other = if key = other then some value else get? m other :=
  get?_update m key other _

end Assoc

end DocLinks
