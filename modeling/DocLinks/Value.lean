import DocLinks.Moment

/-!
# Configuration values

The values that configuration files hold. A mapping keeps its entries in the order in which their
keys came first; a later value for a key replaces the earlier one in place.

A file can name a list or a mapping and put it in a second time, also inside itself. Such a value
carries a label, and inside itself it stands as a mere reference to its label.

## Contents
- `Value`, with `Value.typeName` and `Value.isTruthy`.
- `Value.bare`: a value without the label on it.
- `Value.amend`: a value with a change in the mapping with a label.
- `Value.sameKey`: whether two keys are the same.
- `Dict`: `get?`, `contains`, `put`, `merge` on the entries of a mapping, with their lemmas.
-/

namespace DocLinks

/-- A value of a configuration file. A `shared` value stands in several places, or also in itself
if it `loops`; `again` refers to it there. -/
inductive Value where
  | null
  | bool (b : Bool)
  | int (n : Int)
  | real (x : Double)
  | text (s : String)
  | bytes (bs : List UInt8)
  | moment (m : Moment)
  | list (items : List Value)
  | tuple (items : List Value)
  | set (members : List Value)
  | dict (entries : List (Value × Value))
  | shared (label : Nat) (loops : Bool) (v : Value)
  | again (label : Nat) (isList : Bool)
  deriving Inhabited

/-- The entries of a mapping. -/
abbrev Dict := List (Value × Value)

namespace Value

/-! ## Labels -/

mutual

/-- The value with another one in place of the references to a label. -/
def refer (label : Nat) (whole : Value) : Value → Value
  | list items => list (referItems label whole items)
  | tuple items => tuple (referItems label whole items)
  | dict entries => dict (referEntries label whole entries)
  | shared n loops v => shared n loops (refer label whole v)
  | again n isList => if n = label then whole else again n isList
  | v => v

/-- `refer` in the items of a list. -/
def referItems (label : Nat) (whole : Value) : List Value → List Value
  | [] => []
  | v :: rest => refer label whole v :: referItems label whole rest

/-- `refer` in the entries of a mapping. -/
def referEntries (label : Nat) (whole : Value) : List (Value × Value) → List (Value × Value)
  | [] => []
  | (k, v) :: rest => (k, refer label whole v) :: referEntries label whole rest

end

/-- The value without the label on it. In a value that stands in itself, all of it takes the place
of the references. -/
def bare : Value → Value
  | shared label loops v => if loops then refer label (shared label loops v) v else v
  | v => v

mutual

/-- The value with the entries of the mapping with a label changed, wherever it stands. -/
def amend (label : Nat) (f : List (Value × Value) → List (Value × Value)) : Value → Value
  | list items => list (amendItems label f items)
  | tuple items => tuple (amendItems label f items)
  | dict entries => dict (amendEntries label f entries)
  | shared n loops v =>
    match amend label f v with
    | dict entries => shared n loops (dict (if n = label then f entries else entries))
    | v => shared n loops v
  | v => v

/-- `amend` in the items of a list. -/
def amendItems (label : Nat) (f : List (Value × Value) → List (Value × Value)) :
    List Value → List Value
  | [] => []
  | v :: rest => amend label f v :: amendItems label f rest

/-- `amend` in the entries of a mapping. -/
def amendEntries (label : Nat) (f : List (Value × Value) → List (Value × Value)) :
    List (Value × Value) → List (Value × Value)
  | [] => []
  | (k, v) :: rest => (k, amend label f v) :: amendEntries label f rest

end

mutual

/-- Whether the value, or a value in it, stands in itself. -/
def hasLoop : Value → Bool
  | list items | tuple items => anyLoop items
  | dict entries => anyEntryLoop entries
  | shared _ loops v => loops || hasLoop v
  | _ => false

/-- `hasLoop` of an item. -/
def anyLoop : List Value → Bool
  | [] => false
  | v :: rest => hasLoop v || anyLoop rest

/-- `hasLoop` of an entry. -/
def anyEntryLoop : List (Value × Value) → Bool
  | [] => false
  | (_, v) :: rest => hasLoop v || anyEntryLoop rest

end

/-! ## Kinds -/

/-- The name of a value's type in messages. -/
def typeName : Value → String
  | null => "NoneType"
  | bool _ => "bool"
  | int _ => "int"
  | real _ => "float"
  | text _ => "str"
  | bytes _ => "bytes"
  | moment m => m.typeName
  | list _ => "list"
  | tuple _ => "tuple"
  | set _ => "set"
  | dict _ => "dict"
  | shared _ _ v => v.typeName
  | again _ isList => if isList then "list" else "dict"

/-- Whether a value counts as given: nothing, false, zero and everything empty do not. -/
def isTruthy : Value → Bool
  | null => false
  | bool b => b
  | int n => n != 0
  | real x => !x.isZero
  | text s => s != ""
  | bytes bs => !bs.isEmpty
  | moment _ => true
  | list items | tuple items | set items => !items.isEmpty
  | dict entries => !entries.isEmpty
  | shared _ _ v => v.isTruthy
  | again _ _ => true

/-- A value that can be a key of a mapping or a member of a set. -/
def isHashable : Value → Bool
  | list _ | set _ | dict _ | shared _ _ _ | again _ _ => false
  | _ => true

/-! ## Keys -/

/-- The integer that a truth value is. -/
def boolInt (b : Bool) : Int := if b then 1 else 0

/-- Whether two keys are the same key. Truth values are the numbers zero and one, and a whole number
is the same key in either spelling. -/
def sameKey : Value → Value → Bool
  | null, null => true
  | text s, text t => s == t
  | bytes s, bytes t => s == t
  | moment a, moment b => a.same b
  | bool a, bool b => a == b
  | int m, int n => m == n
  | real x, real y => x.equals y
  | bool a, int n | int n, bool a => n == boolInt a
  | bool a, real x | real x, bool a => x.int? == some (boolInt a)
  | int n, real x | real x, int n => x.int? == some n
  | _, _ => false

@[simp] theorem sameKey_text (s t : String) : sameKey (text s) (text t) = (s == t) := rfl

/-- The entries of a mapping, if the value is one. -/
def dict? : Value → Option Dict
  | dict entries => some entries
  | _ => none

end Value

namespace Dict

/-- The value of a textual key. -/
def get? (d : Dict) (key : String) : Option Value :=
  (List.find? (fun e => e.1.sameKey (.text key)) d).map Prod.snd

/-- Whether a textual key is present. -/
def contains (d : Dict) (key : String) : Bool := (get? d key).isSome

/-- The mapping with one entry set: in its place if the key is present, at the end if not. -/
def put : Dict → Value → Value → Dict
  | [], key, v => [(key, v)]
  | (k, old) :: rest, key, v =>
    if k.sameKey key then (k, v) :: rest else (k, old) :: put rest key v

/-- The mapping with the entries of another one set in their order. -/
def merge (d other : Dict) : Dict := other.foldl (fun acc e => put acc e.1 e.2) d

/-- The mapping that a sequence of entries builds up. -/
def ofEntries (entries : List (Value × Value)) : Dict := merge [] entries

@[simp] theorem get?_nil (key : String) : get? [] key = none := rfl

/-- The entries whose keys are text. -/
def textEntries (d : Dict) : List (String × Value) :=
  d.filterMap fun e => match e.1 with
    | .text s => some (s, e.2)
    | _ => none

/-- The keys that are text. -/
def textKeys (d : Dict) : List String := (textEntries d).map Prod.fst

end Dict

end DocLinks
