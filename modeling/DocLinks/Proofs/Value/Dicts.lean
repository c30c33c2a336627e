import DocLinks.Config.Defaults

/-!
# Mappings

What a look-up of a textual key finds after the operations on mappings. Other keys than texts never
stand in its way, so the look-ups need no more of a mapping than that its textual keys are distinct.

## Contents
- `sameKey_text_right`, `sameKey_text_left`: only a text is the same key as a text.
- `get?_put`, `get?_map`: look-ups after setting an entry, and after changing the values in place.
- `IsKeyed`, `get?_merge`: look-ups after setting all entries of another mapping.
- `get?_overlay`: look-ups in a configuration with its defaults.
-/

namespace DocLinks

/-! ## Textual keys -/

namespace Value

theorem sameKey_text_right {k : Value} {s : String} : k.sameKey (text s) = true ↔ k = text s := by
  cases k <;> simp [sameKey]

theorem sameKey_text_left {k : Value} {s : String} : (text s).sameKey k = true ↔ k = text s := by
  cases k with
  | text t =>
    rw [sameKey_text, beq_iff_eq, text.injEq]
    exact eq_comm
  | _ => simp [sameKey]

end Value

namespace Dict

open Value

theorem get?_cons_self (s : String) (v : Value) (rest : Dict) :
    get? ((text s, v) :: rest) s = some v := by
  simp [get?]

theorem get?_cons_of_ne {k : Value} {s : String} (h : k ≠ text s) (v : Value) (rest : Dict) :
    get? ((k, v) :: rest) s = get? rest s := by
  simp [get?, mt sameKey_text_right.1 h]

theorem textKeys_cons_text (s : String) (v : Value) (rest : Dict) :
    textKeys ((text s, v) :: rest) = s :: textKeys rest := rfl

theorem textKeys_cons_of_ne {k : Value} (h : ∀ s, k ≠ text s) (v : Value) (rest : Dict) :
    textKeys ((k, v) :: rest) = textKeys rest := by
  unfold textKeys textEntries
  rw [List.filterMap_cons]
  cases k with
  | text s => exact absurd rfl (h s)
  | _ => rfl

/-- A key is a text or looks like none. -/
theorem text_or_ne (k : Value) : (∃ s, k = text s) ∨ ∀ s, k ≠ text s := by
  by_cases h : ∃ s, k = text s
  · exact .inl h
  · exact .inr (not_exists.1 h)

/-- Exactly the textual keys are found. -/
theorem get?_eq_none_iff {d : Dict} {name : String} : get? d name = none ↔ name ∉ textKeys d := by
  induction d with
  | nil => simp [textKeys, textEntries]
  | cons e rest ih =>
    obtain ⟨k, v⟩ := e
    rcases text_or_ne k with ⟨s, rfl⟩ | hk
    · rw [textKeys_cons_text, List.mem_cons, not_or, ← ih]
      by_cases hs : name = s
      · subst hs
        simp [get?_cons_self]
      · rw [get?_cons_of_ne (by simpa using Ne.symm hs)]
        simp [hs]
    · rw [textKeys_cons_of_ne hk, get?_cons_of_ne (hk name), ih]

theorem get?_isSome_iff {d : Dict} {name : String} :
    (get? d name).isSome = true ↔ name ∈ textKeys d := by
  rw [Option.isSome_iff_ne_none, ne_eq, get?_eq_none_iff, Decidable.not_not]

/-! ## Operations -/

/-- Setting an entry gives its key the new value, and no other key. -/
theorem get?_put (d : Dict) (key v : Value) (name : String) :
    get? (put d key v) name = if key.sameKey (text name) then some v else get? d name := by
  induction d with
  | nil => simp [put, get?]
  | cons e rest ih =>
    obtain ⟨k, old⟩ := e
    by_cases hk : k.sameKey key = true
    · rw [put, if_pos hk]
      by_cases hname : k = text name
      · subst hname
        rw [get?_cons_self, if_pos (sameKey_text_right.2 (sameKey_text_left.1 hk))]
      · have hkey : ¬key.sameKey (text name) = true := fun h => by
          rw [sameKey_text_right.1 h, sameKey_text_right] at hk
          exact hname hk
        rw [get?_cons_of_ne hname, if_neg hkey, get?_cons_of_ne hname]
    · rw [put, if_neg hk]
      by_cases hname : k = text name
      · subst hname
        have hkey : ¬key.sameKey (text name) = true := fun h =>
          hk (sameKey_text_left.2 (sameKey_text_right.1 h))
        rw [get?_cons_self, if_neg hkey, get?_cons_self]
      · rw [get?_cons_of_ne hname, ih, get?_cons_of_ne hname]

theorem get?_put_self (d : Dict) (name : String) (v : Value) :
    get? (put d (text name) v) name = some v := by
  rw [get?_put, if_pos (by simp)]

theorem get?_put_of_ne (d : Dict) {name other : String} (h : other ≠ name) (v : Value) :
    get? (put d (text name) v) other = get? d other := by
  rw [get?_put, if_neg (by simpa using Ne.symm h)]

/-- Setting a key that is present adds none. -/
theorem textKeys_put {d : Dict} {name : String} {old : Value} (h : get? d name = some old)
    (v : Value) : textKeys (put d (text name) v) = textKeys d := by
  induction d with
  | nil => cases h
  | cons e rest ih =>
    obtain ⟨k, w⟩ := e
    by_cases hk : k = text name
    · subst hk
      rw [put, if_pos (by simp)]
      rfl
    · rw [put, if_neg (mt sameKey_text_right.1 hk)]
      have ih := ih (by rwa [get?_cons_of_ne hk] at h)
      rcases text_or_ne k with ⟨s, rfl⟩ | hs
      · rw [textKeys_cons_text, textKeys_cons_text, ih]
      · rw [textKeys_cons_of_ne hs, textKeys_cons_of_ne hs, ih]

/-- A key that is not present comes last. -/
theorem textKeys_put_of_none {d : Dict} {name : String} (h : get? d name = none) (v : Value) :
    textKeys (put d (text name) v) = textKeys d ++ [name] := by
  induction d with
  | nil => rfl
  | cons e rest ih =>
    obtain ⟨k, w⟩ := e
    have hk : k ≠ text name := by
      rintro rfl
      rw [get?_cons_self] at h
      cases h
    rw [put, if_neg (mt sameKey_text_right.1 hk)]
    have ih := ih (by rwa [get?_cons_of_ne hk] at h)
    rcases text_or_ne k with ⟨s, rfl⟩ | hs
    · rw [textKeys_cons_text, textKeys_cons_text, ih, List.cons_append]
    · rw [textKeys_cons_of_ne hs, textKeys_cons_of_ne hs, ih]

/-- A key that is no text adds no textual one. -/
theorem textKeys_put_of_ne {key : Value} (h : ∀ s, key ≠ text s) (d : Dict) (v : Value) :
    textKeys (put d key v) = textKeys d := by
  induction d with
  | nil => exact textKeys_cons_of_ne h v []
  | cons e rest ih =>
    obtain ⟨k, w⟩ := e
    unfold put
    rcases text_or_ne k with ⟨s, rfl⟩ | hs
    · rw [if_neg (mt sameKey_text_left.1 (h s)), textKeys_cons_text, textKeys_cons_text, ih]
    · split
      · rw [textKeys_cons_of_ne hs, textKeys_cons_of_ne hs]
      · rw [textKeys_cons_of_ne hs, textKeys_cons_of_ne hs, ih]

/-- No textual key comes twice. -/
def IsKeyed (d : Dict) : Prop := (textKeys d).Nodup

instance (d : Dict) : Decidable (IsKeyed d) := inferInstanceAs (Decidable (textKeys d).Nodup)

theorem IsKeyed.put {d : Dict} (h : IsKeyed d) (key v : Value) : IsKeyed (d.put key v) := by
  unfold IsKeyed
  rcases text_or_ne key with ⟨name, rfl⟩ | hkey
  · rcases hold : get? d name with _ | old
    · rw [textKeys_put_of_none hold, List.nodup_append]
      refine ⟨h, by simp, fun a ha b hb => ?_⟩
      rw [List.mem_singleton.1 hb]
      rintro rfl
      exact get?_eq_none_iff.1 hold ha
    · rwa [textKeys_put hold]
  · rwa [textKeys_put_of_ne hkey]

theorem IsKeyed.merge {d : Dict} (h : IsKeyed d) (other : Dict) : IsKeyed (d.merge other) := by
  unfold Dict.merge
  induction other generalizing d with
  | nil => exact h
  | cons e rest ih => exact ih (h.put e.1 e.2)

/-- **Look-ups in merged mappings**: what the second one has comes before what the first one has. -/
theorem get?_merge (d : Dict) {other : Dict} (h : IsKeyed other) (name : String) :
    get? (merge d other) name = (get? other name).or (get? d name) := by
  unfold merge
  induction other generalizing d with
  | nil => simp
  | cons e rest ih =>
    obtain ⟨k, v⟩ := e
    rw [List.foldl_cons]
    rcases text_or_ne k with ⟨s, rfl⟩ | hk
    · obtain ⟨hs, hnd⟩ := List.nodup_cons.1 h
      rw [ih _ hnd]
      by_cases hname : name = s
      · subst hname
        rw [get?_eq_none_iff.2 hs, get?_put_self, get?_cons_self]
        rfl
      · rw [get?_put_of_ne _ hname, get?_cons_of_ne (by simpa using Ne.symm hname)]
    · have h : IsKeyed rest := by rwa [IsKeyed, textKeys_cons_of_ne hk] at h
      rw [ih _ h, get?_put, if_neg (mt sameKey_text_right.1 (hk name)), get?_cons_of_ne (hk name)]

theorem get?_map (d : Dict) (g : Value → Value) (name : String) :
    get? (d.map fun e => (e.1, g e.2)) name = (get? d name).map g := by
  induction d with
  | nil => rfl
  | cons e rest ih =>
    obtain ⟨k, v⟩ := e
    rw [List.map_cons]
    by_cases hk : k = text name
    · subst hk
      rw [get?_cons_self, get?_cons_self]
      rfl
    · rw [get?_cons_of_ne hk, get?_cons_of_ne hk, ih]

theorem textKeys_map (d : Dict) (g : Value → Value) :
    textKeys (d.map fun e => (e.1, g e.2)) = textKeys d := by
  induction d with
  | nil => rfl
  | cons e rest ih =>
    obtain ⟨k, v⟩ := e
    rw [List.map_cons]
    rcases text_or_ne k with ⟨s, rfl⟩ | hk
    · rw [textKeys_cons_text, textKeys_cons_text, ih]
    · rw [textKeys_cons_of_ne hk, textKeys_cons_of_ne hk, ih]

end Dict

/-! ## Defaults -/

namespace Config

open Value Dict

/-- What a section becomes over the default section, if there is one. -/
def mergedSection (old : Option Value) (v : Value) : Value :=
  match v.bare, old with
  | .dict settings, some (.dict defaults) => .dict (Dict.merge defaults settings)
  | _, _ => v

theorem mergedSection_mapping {v : Value} {defaults settings : Dict} (h : v.bare = .dict settings) :
    mergedSection (some (.dict defaults)) v = .dict (Dict.merge defaults settings) := by
  unfold mergedSection
  rw [h]

theorem mergedSection_null {v : Value} (h : v.bare = .null) (old : Option Value) :
    mergedSection old v = v := by
  unfold mergedSection
  rw [h]

theorem mergedSection_of_not {v : Value} {old : Option Value}
    (h : ∀ settings defaults, v.bare = .dict settings → old = some (.dict defaults) → False) :
    mergedSection old v = v := by
  unfold mergedSection
  split
  · rename_i hv
    exact (h _ _ hv rfl).elim
  · rfl

theorem mergeSection_eq (d : Dict) (name v : Value) :
    mergeSection d name v
      = put d name (mergedSection ((List.find? (fun e => e.1.sameKey name) d).map Prod.snd) v) := by
  unfold mergeSection
  split
  · rename_i hv hold
    rw [hold, mergedSection_mapping hv]
  · rename_i hnot
    rw [mergedSection_of_not hnot]

theorem get?_mergeSection_self (d : Dict) (name : String) (v : Value) :
    get? (mergeSection d (text name) v) name = some (mergedSection (get? d name) v) := by
  rw [mergeSection_eq, get?_put_self]
  rfl

theorem get?_mergeSection_of_ne (d : Dict) {key : Value} {name : String} (h : key ≠ text name)
    (v : Value) : get? (mergeSection d key v) name = get? d name := by
  rw [mergeSection_eq, get?_put, if_neg (mt sameKey_text_right.1 h)]

/-- **Look-ups in a configuration with its defaults.** A section that is not set is the default one,
another one is merged with it. -/
theorem get?_overlay {config : Dict} (h : IsKeyed config) (name : String) :
    get? (overlay config) name
      = ((get? config name).map (mergedSection (get? defaultConfig name))).or
          (get? defaultConfig name) := by
  unfold overlay
  generalize defaultConfig = d
  induction config generalizing d with
  | nil => simp
  | cons e rest ih =>
    obtain ⟨k, v⟩ := e
    rw [List.foldl_cons]
    rcases text_or_ne k with ⟨s, rfl⟩ | hk
    · obtain ⟨hs, hnd⟩ := List.nodup_cons.1 h
      rw [ih hnd]
      by_cases hname : name = s
      · subst hname
        rw [get?_eq_none_iff.2 hs, get?_mergeSection_self, get?_cons_self]
        rfl
      · have hne : text s ≠ text name := by simpa using Ne.symm hname
        rw [get?_mergeSection_of_ne _ hne, get?_cons_of_ne hne]
    · have h : IsKeyed rest := by rwa [IsKeyed, textKeys_cons_of_ne hk] at h
      rw [ih h, get?_mergeSection_of_ne _ (hk name), get?_cons_of_ne (hk name)]

theorem isKeyed_overlay (config : Dict) : IsKeyed (overlay config) := by
  have hdefault : IsKeyed defaultConfig := by decide
  unfold overlay
  generalize defaultConfig = d at hdefault ⊢
  induction config generalizing d with
  | nil => exact hdefault
  | cons e rest ih =>
    rw [List.foldl_cons, mergeSection_eq]
    exact ih _ (hdefault.put _ _)

end Config

end DocLinks
