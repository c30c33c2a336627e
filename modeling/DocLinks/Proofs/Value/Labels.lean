import DocLinks.Proofs.Value.Dicts

/-!
# Labels

A label stands for a whole that a value is part of, and what is in that whole depends on it. Some
values do not: those that hold nothing and lists of texts (`IsSettled`). Putting the whole in the
place of its label leaves a settled value as it is and settles no other one, and so it does not
matter to a settled value which whole it is part of.

## Contents
- `refer_dict`, `amend_dict`: `refer` and `amend` change the values of a mapping in place.
- `bare_shared_ne_dict`, `eq_null_of_bare_shared`: what stands behind a label.
- `IsSettled`, with `refer_of_isSettled`, `amend_of_isSettled`, `isSettled_of_refer`,
  `isSettled_of_bare`.
-/

namespace DocLinks.Value

variable {label : Nat} {f : Dict → Dict} {whole v : Value}

attribute [local simp] refer amend

/-! ## Mappings -/

theorem referEntries_eq_map (label : Nat) (whole : Value) (d : Dict) :
    referEntries label whole d = d.map fun e => (e.1, refer label whole e.2) := by
  induction d with
  | nil => rfl
  | cons e rest ih => rw [referEntries, ih, List.map_cons]

theorem amendEntries_eq_map (label : Nat) (f : Dict → Dict) (d : Dict) :
    amendEntries label f d = d.map fun e => (e.1, amend label f e.2) := by
  induction d with
  | nil => rfl
  | cons e rest ih => rw [amendEntries, ih, List.map_cons]

theorem refer_dict (label : Nat) (whole : Value) (d : Dict) :
    refer label whole (dict d) = dict (d.map fun e => (e.1, refer label whole e.2)) := by
  rw [refer, referEntries_eq_map]

theorem refer_shared_dict (label n : Nat) (loops : Bool) (whole : Value) (d : Dict) :
    refer label whole (shared n loops (dict d))
      = shared n loops (dict (d.map fun e => (e.1, refer label whole e.2))) := by
  rw [refer, refer_dict]

theorem amend_dict (label : Nat) (f : Dict → Dict) (d : Dict) :
    amend label f (dict d) = dict (d.map fun e => (e.1, amend label f e.2)) := by
  rw [amend, amendEntries_eq_map]

/-- The mapping of a label is changed, with all that it holds. -/
theorem amend_shared_dict (label n : Nat) (loops : Bool) (f : Dict → Dict) (d : Dict) :
    amend label f (shared n loops (dict d)) = shared n loops (dict
      (if n = label then f (d.map fun e => (e.1, amend label f e.2))
        else d.map fun e => (e.1, amend label f e.2))) := by
  rw [amend, amend_dict]

/-- Only a mapping is one after the change. -/
theorem amend_ne_dict (h : ∀ d, v ≠ dict d) (d : Dict) : amend label f v ≠ dict d := by
  cases v with
  | dict e => exact absurd rfl (h e)
  | shared n loops u =>
    intro hd
    rw [amend] at hd
    split at hd <;> cases hd
  | _ => exact nofun

theorem amend_shared_of_ne {n : Nat} {loops : Bool} (h : ∀ d, v ≠ dict d) :
    amend label f (shared n loops v) = shared n loops (amend label f v) := by
  rw [amend]
  split
  · rename_i d hd
    exact absurd hd (amend_ne_dict h d)
  · rfl

/-- Only a mapping is one in a whole that is none. -/
theorem refer_ne_dict (hw : ∀ d, whole ≠ dict d) (h : ∀ d, v ≠ dict d) (d : Dict) :
    refer label whole v ≠ dict d := by
  cases v with
  | dict e => exact absurd rfl (h e)
  | again n isList =>
    rw [refer]
    split
    · exact hw d
    · exact nofun
  | _ => exact nofun

theorem eq_null_of_refer (hw : whole ≠ null) (h : refer label whole v = null) : v = null := by
  cases v with
  | null => rfl
  | again n isList =>
    rw [refer] at h
    split at h
    · exact absurd h hw
    · cases h
  | _ => cases h

/-- What has a label and is no mapping, is none without the label. -/
theorem bare_shared_ne_dict {n : Nat} {loops : Bool} (h : ∀ d, v ≠ dict d) (d : Dict) :
    (shared n loops v).bare ≠ dict d := by
  rw [bare]
  split
  · refine refer_ne_dict ?_ h d
    exact nofun
  · exact h d

theorem eq_null_of_bare_shared {n : Nat} {loops : Bool} (h : (shared n loops v).bare = null) :
    v = null := by
  rw [bare] at h
  split at h
  · refine eq_null_of_refer ?_ h
    exact nofun
  · exact h

/-! ## Settled values -/

/-- A value that holds no labels: nothing, a truth value, an integer, a text, or a list of texts. The
value may have a label of its own. -/
inductive IsSettled : Value → Prop where
  | null : IsSettled .null
  | bool (b : Bool) : IsSettled (.bool b)
  | int (n : Int) : IsSettled (.int n)
  | text (s : String) : IsSettled (.text s)
  | texts (ss : List String) : IsSettled (.list (ss.map .text))
  | shared (n : Nat) (loops : Bool) {v : Value} (h : IsSettled v) : IsSettled (.shared n loops v)

theorem not_isSettled_dict (d : Dict) : ¬IsSettled (.dict d) := nofun

theorem not_isSettled_shared_dict (n : Nat) (loops : Bool) (d : Dict) :
    ¬IsSettled (.shared n loops (.dict d)) := by
  rintro (_ | _ | _ | _ | _ | ⟨_, _, h⟩)
  exact not_isSettled_dict d h

theorem referItems_texts (label : Nat) (whole : Value) (ss : List String) :
    referItems label whole (ss.map text) = ss.map text := by
  induction ss with
  | nil => rfl
  | cons s ss ih =>
    rw [List.map_cons, referItems, ih]
    simp

theorem amendItems_texts (label : Nat) (f : Dict → Dict) (ss : List String) :
    amendItems label f (ss.map text) = ss.map text := by
  induction ss with
  | nil => rfl
  | cons s ss ih =>
    rw [List.map_cons, amendItems, ih]
    simp

/-- A settled value is part of every whole in the same way. -/
theorem refer_of_isSettled (h : IsSettled v) : refer label whole v = v := by
  induction h with
  | texts ss => simp [referItems_texts]
  | shared n loops _ ih => simp [ih]
  | _ => simp

theorem amend_of_isSettled (h : IsSettled v) : amend label f v = v := by
  induction h with
  | texts ss => rw [amend, amendItems_texts]
  | @shared n loops v h ih =>
    rw [amend_shared_of_ne fun d hd => not_isSettled_dict d (hd ▸ h), ih]
  | _ => simp

/-- A whole that is not settled is no text. -/
theorem eq_text_of_refer {s : String} (hw : ¬IsSettled whole) (h : refer label whole v = text s) :
    v = text s := by
  cases v with
  | again n isList =>
    rw [refer] at h
    split at h
    · exact absurd (h ▸ IsSettled.text s) hw
    · cases h
  | text t => exact h
  | _ => cases h

theorem eq_texts_of_referItems {ss : List String} (hw : ¬IsSettled whole) {items : List Value}
    (h : referItems label whole items = ss.map text) : items = ss.map text := by
  induction items generalizing ss with
  | nil => exact h
  | cons v rest ih =>
    rw [referItems] at h
    cases ss with
    | nil => cases h
    | cons s ss =>
      obtain ⟨hv, hrest⟩ := List.cons.inj h
      rw [List.map_cons, eq_text_of_refer hw hv, ih hrest]

/-- Only settled values are settled in a whole that is not settled itself. -/
theorem isSettled_of_refer (hw : ¬IsSettled whole) : ∀ {v : Value},
    IsSettled (refer label whole v) → IsSettled v
  | .list items, h => by
    rw [refer] at h
    generalize hitems : referItems label whole items = items' at h
    obtain _ | _ | _ | _ | ss | _ := h
    rw [eq_texts_of_referItems hw hitems]
    exact .texts ss
  | .shared n loops v, h => by
    rw [refer] at h
    obtain _ | _ | _ | _ | _ | ⟨_, _, h⟩ := h
    exact .shared n loops (isSettled_of_refer hw h)
  | .again n isList, h => by
    rw [refer] at h
    split at h
    · exact absurd h hw
    · exact h
  | .null, h | .bool _, h | .int _, h | .real _, h | .text _, h | .bytes _, h | .moment _, h => h
  | .tuple _, h | .set _, h | .dict _, h => nomatch h

/-- A value is settled if it is without its label. -/
theorem isSettled_of_bare (h : IsSettled v.bare) : IsSettled v := by
  cases v with
  | shared n loops v =>
    rw [bare] at h
    split at h
    · by_cases hw : IsSettled (.shared n loops v)
      · exact hw
      · exact .shared n loops (isSettled_of_refer hw h)
    · exact .shared n loops h
  | _ => exact h

end DocLinks.Value
