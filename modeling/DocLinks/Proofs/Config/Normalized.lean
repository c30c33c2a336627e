import DocLinks.Config.Check
import DocLinks.Proofs.Value.Labels

/-!
# Normalized configurations

A check puts a list in the place of a text that stands for a list of folders, wherever the section of
the link checker stands. What else a section sets is the same before and after (`SameSection`): the
keys, and all settled values.

Sections can be the same mapping, or the configuration itself. So a change of one of them may show in
all of them, and what is compared is what is seen of a section in its whole.

## Contents
- `SameSettings`, `SameSection`: what stays the same.
- `SameSection.refer_amend`: it stays the same under all changes of labelled mappings.
- `entriesOf`, `afterCheck_sameSection`: before and after a check.
-/

namespace DocLinks.Config

open Value Dict

/-! ## What stays the same -/

/-- A settled value and what a check may leave in its place. -/
inductive Normalized (key : String) : Value → Value → Prop where
  | same (v : Value) : Normalized key v v
  | listed (h : key = "exclude_dirs") (s : String) : Normalized key (.text s) (.list [.text s])

/-- The second mapping sets what the first one sets, and has its settled values. Only the place of
the section of the link checker may be taken by something else. -/
structure SameSettings (d e : Dict) : Prop where
  keyed : IsKeyed d → IsKeyed e
  absent : ∀ key, key ≠ "link_checker" → get? d key = none → get? e key = none
  settled : ∀ key, key ≠ "link_checker" → ∀ v, get? d key = some v → IsSettled v →
    ∃ v', get? e key = some v' ∧ Normalized key v v'

/-- The second value is a section if the first one is, with the same settings, and nothing at all if
the first one is. -/
structure SameSection (v w : Value) : Prop where
  settings : ∀ d, v.bare = .dict d → ∃ e, w.bare = .dict e ∧ SameSettings d e
  null : v.bare = .null → w.bare = .null

namespace Normalized

variable {key : String} {u v w : Value}

theorem isSettled (h : Normalized key v w) (hv : IsSettled v) : IsSettled w := by
  cases h with
  | same => exact hv
  | listed _ s => exact .texts [s]

theorem trans (h : Normalized key u v) (h' : Normalized key v w) : Normalized key u w := by
  cases h with
  | same => exact h'
  | listed hkey s =>
    cases h'
    exact .listed hkey s

end Normalized

namespace SameSettings

variable {label : Nat} {f : Dict → Dict} {whole whole' : Value} {d e e' : Dict}

theorem refl (d : Dict) : SameSettings d d :=
  ⟨id, fun _ _ => id, fun _ _ v h _ => ⟨v, h, .same v⟩⟩

theorem trans (h : SameSettings d e) (h' : SameSettings e e') : SameSettings d e' := by
  refine ⟨h'.keyed ∘ h.keyed, fun key hkey => h'.absent key hkey ∘ h.absent key hkey,
    fun key hkey v hv hs => ?_⟩
  obtain ⟨v', hv', hn⟩ := h.settled key hkey v hv hs
  obtain ⟨v'', hv'', hn'⟩ := h'.settled key hkey v' hv' (hn.isSettled hs)
  exact ⟨v'', hv'', hn.trans hn'⟩

/-- Changing values in place, but no settled ones. -/
theorem map {g : Value → Value} (hg : ∀ v, IsSettled v → g v = v) (d : Dict) :
    SameSettings d (d.map fun e => (e.1, g e.2)) := by
  refine ⟨by rw [IsKeyed, IsKeyed, textKeys_map]; exact id, fun key _ hnone => ?_,
    fun key _ v hv hs => ⟨v, ?_, .same v⟩⟩
  · rw [get?_map, hnone, Option.map_none]
  · rw [get?_map, hv, Option.map_some, hg v hs]

theorem amend (label : Nat) (f : Dict → Dict) (d : Dict) :
    SameSettings d (d.map fun e => (e.1, Value.amend label f e.2)) :=
  map (fun _ => amend_of_isSettled) d

/-- Mappings seen in a whole each. -/
theorem refer (h : SameSettings d e) (hw : ¬IsSettled whole) (label : Nat) (whole' : Value) :
    SameSettings (d.map fun e => (e.1, Value.refer label whole e.2))
      (e.map fun e => (e.1, Value.refer label whole' e.2)) := by
  refine ⟨by rw [IsKeyed, IsKeyed, textKeys_map, textKeys_map]; exact h.keyed, fun key hkey hnone => ?_,
    fun key hkey v hv hs => ?_⟩
  · rw [get?_map, Option.map_eq_none_iff] at hnone ⊢
    exact h.absent key hkey hnone
  · rw [get?_map] at hv
    obtain ⟨u, hu, rfl⟩ := Option.map_eq_some_iff.1 hv
    have hsu := isSettled_of_refer hw hs
    obtain ⟨v', hv', hn⟩ := h.settled key hkey u hu hsu
    refine ⟨v', ?_, ?_⟩
    · rw [get?_map, hv', Option.map_some, refer_of_isSettled (hn.isSettled hsu)]
    · rwa [refer_of_isSettled hsu]

/-- Setting the section of the link checker. -/
theorem put (d : Dict) (v : Value) : SameSettings d (Dict.put d (.text "link_checker") v) :=
  ⟨fun h => h.put _ v, fun key hkey hnone => by rw [get?_put_of_ne _ hkey, hnone],
    fun key hkey v' hv' _ => ⟨v', by rw [get?_put_of_ne _ hkey, hv'], .same v'⟩⟩

/-- Putting a list in the place of a text that stands for it. -/
theorem normalize (d : Dict) : SameSettings d (normalizeExcludeDirs d) := by
  unfold normalizeExcludeDirs
  split
  · rename_i s hs
    refine ⟨fun h => h.put _ _, fun key _ hnone => ?_, fun key _ v hv _ => ?_⟩
    · have hkey : key ≠ "exclude_dirs" := by
        rintro rfl
        rw [hs] at hnone
        cases hnone
      rw [get?_put_of_ne _ hkey, hnone]
    · by_cases hkey : key = "exclude_dirs"
      · subst hkey
        rw [hs] at hv
        cases hv
        exact ⟨_, get?_put_self _ _ _, .listed rfl s⟩
      · exact ⟨v, by rw [get?_put_of_ne _ hkey, hv], .same v⟩
  · exact .refl d

end SameSettings

/-! ## Changes of labelled mappings -/

namespace SameSection

variable {label : Nat} {f : Dict → Dict} {whole whole' v : Value}

theorem refl (v : Value) : SameSection v v :=
  ⟨fun d h => ⟨d, h, .refl d⟩, id⟩

theorem of_settings {d e : Dict} (h : SameSettings d e) : SameSection (.dict d) (.dict e) :=
  ⟨fun _ hd => ⟨e, rfl, by cases hd; exact h⟩, nofun⟩

/-- A mapping with a label, seen in itself. -/
theorem of_shared {n : Nat} {loops : Bool} {d e : Dict} (h : SameSettings d e) :
    SameSection (.shared n loops (.dict d)) (.shared n loops (.dict e)) := by
  refine ⟨fun d' hd => ?_, fun hd => ?_⟩
  · rw [bare] at hd ⊢
    cases loops with
    | true =>
      rw [if_pos rfl, refer_dict] at hd ⊢
      cases hd
      exact ⟨_, rfl, h.refer (not_isSettled_shared_dict n true d) _ _⟩
    | false =>
      cases hd
      exact ⟨_, rfl, h⟩
  · rw [bare] at hd
    cases loops with
    | true => rw [if_pos rfl, refer_dict] at hd; cases hd
    | false => cases hd

/-- Values that are no mappings. -/
theorem of_ne_dict {w : Value} (hv : ∀ d, v.bare ≠ .dict d) (hnull : v.bare = .null → w.bare = .null) :
    SameSection v w :=
  ⟨fun d hd => absurd hd (hv d), hnull⟩

/-- A section in which the mapping of a label is changed. -/
theorem amend (hf : ∀ d, SameSettings d (f d)) (label : Nat) (v : Value) :
    SameSection v (Value.amend label f v) := by
  cases v with
  | dict d =>
    rw [amend_dict]
    exact of_settings (.amend label f d)
  | shared n loops u =>
    by_cases hu : ∃ d, u = .dict d
    · obtain ⟨d, rfl⟩ := hu
      rw [amend_shared_dict]
      refine of_shared ?_
      split
      · exact (SameSettings.amend label f d).trans (hf _)
      · exact .amend label f d
    · refine of_ne_dict (bare_shared_ne_dict (not_exists.1 hu)) fun hnull => ?_
      rw [eq_null_of_bare_shared hnull]
      cases loops <;> rfl
  | list items | tuple items => exact of_ne_dict nofun nofun
  | _ => exact .refl _

/-- Sections seen in the mapping that they are part of: before the change of a labelled mapping, and
after it. -/
theorem refer_amend {n : Nat} {loops : Bool} {d e : Dict} (hf : ∀ d, SameSettings d (f d))
    (h : SameSettings d e) (label : Nat) (v : Value) :
    SameSection (Value.refer n (.shared n loops (.dict d)) v)
      (Value.refer n (.shared n loops (.dict e)) (Value.amend label f v)) := by
  have hw := not_isSettled_shared_dict n loops d
  cases v with
  | dict s =>
    rw [amend_dict, refer_dict, refer_dict]
    exact of_settings ((SameSettings.amend label f s).refer hw n _)
  | again m isList =>
    -- The section may be the mapping that it is part of.
    show SameSection (if m = n then _ else _) (if m = n then _ else _)
    split
    · exact of_shared h
    · exact .refl _
  | shared m loops' u =>
    by_cases hu : ∃ s, u = .dict s
    · obtain ⟨s, rfl⟩ := hu
      rw [amend_shared_dict, refer_shared_dict, refer_shared_dict]
      refine of_shared (SameSettings.refer ?_ hw n _)
      split
      · exact (SameSettings.amend label f s).trans (hf _)
      · exact .amend label f s
    · have hu := not_exists.1 hu
      have hu' : ∀ s, Value.refer n (.shared n loops (.dict d)) u ≠ .dict s := by
        refine refer_ne_dict ?_ hu
        exact nofun
      refine of_ne_dict (bare_shared_ne_dict hu') fun hnull => ?_
      have hnull : u = .null := by
        refine eq_null_of_refer ?_ (eq_null_of_bare_shared hnull)
        exact nofun
      rw [hnull]
      cases loops' <;> rfl
  | list items | tuple items => exact of_ne_dict nofun nofun
  | _ => exact .refl _

end SameSection

/-! ## Before and after a check -/

/-- The sections of a configuration. -/
def entriesOf (config : Value) : Dict := (config.bare.dict?).getD []

/-- The sections of the second mapping are those of the first one, with the same settings. The name
that a list of folders has is not that of a section. -/
structure SameSections (d e : Dict) : Prop where
  keys : textKeys e = textKeys d
  sections : ∀ name, name ≠ "exclude_dirs" → ∀ v, get? d name = some v →
    ∃ w, get? e name = some w ∧ SameSection v w

theorem SameSections.refl (d : Dict) : SameSections d d :=
  ⟨rfl, fun _ _ v h => ⟨v, h, .refl v⟩⟩

/-- A section in which the mapping of a label is changed, or one that is put in its place. -/
inductive Replaced (label : Nat) (f : Dict → Dict) : Value → Value → Prop where
  | amended (v : Value) : Replaced label f v (v.amend label f)
  | put {d e : Dict} (h : SameSettings d e) : Replaced label f (.dict d) (.dict e)

theorem Replaced.sameSection {label : Nat} {f : Dict → Dict} {v w : Value}
    (h : Replaced label f v w) (hf : ∀ d, SameSettings d (f d)) : SameSection v w := by
  cases h with
  | amended => exact .amend hf label v
  | put h => exact .of_settings h

theorem entriesOf_dict (d : Dict) : entriesOf (.dict d) = d := rfl

theorem entriesOf_of_ne_dict {config : Value} (h : ∀ d, config.bare ≠ .dict d) :
    entriesOf config = [] := by
  unfold entriesOf
  generalize config.bare = v at h
  cases v with
  | dict d => exact absurd rfl (h d)
  | _ => rfl

theorem entriesOf_shared (n : Nat) (loops : Bool) (d : Dict) :
    entriesOf (.shared n loops (.dict d))
      = if loops then d.map fun e => (e.1, refer n (.shared n loops (.dict d)) e.2) else d := by
  cases loops with
  | true => rw [entriesOf, bare, if_pos rfl, refer_dict]; rfl
  | false => rfl

/-- A configuration that has a label of its own, if its sections are replaced. -/
theorem sameSections_shared (label : Nat) {n : Nat} {loops : Bool} {d e : Dict} {f : Dict → Dict}
    (hf : ∀ d, SameSettings d (f d)) (h : SameSettings d e) (hkeys : textKeys e = textKeys d)
    (hsections : ∀ name, name ≠ "exclude_dirs" → ∀ v, get? d name = some v →
      ∃ w, get? e name = some w ∧ Replaced label f v w) :
    SameSections (entriesOf (.shared n loops (.dict d))) (entriesOf (.shared n loops (.dict e))) := by
  rw [entriesOf_shared, entriesOf_shared]
  cases loops with
  | false =>
    refine ⟨hkeys, fun name hname v hv => ?_⟩
    obtain ⟨w, hw, hr⟩ := hsections name hname v hv
    exact ⟨w, hw, hr.sameSection hf⟩
  | true =>
    rw [if_pos rfl, if_pos rfl]
    refine ⟨by rw [textKeys_map, textKeys_map, hkeys], fun name hname v hv => ?_⟩
    rw [get?_map] at hv
    obtain ⟨u, hu, rfl⟩ := Option.map_eq_some_iff.1 hv
    obtain ⟨w, hw, hr⟩ := hsections name hname u hu
    refine ⟨_, by rw [get?_map, hw, Option.map_some], ?_⟩
    cases hr with
    | amended => exact .refer_amend hf h label u
    | put hput =>
      rw [refer_dict, refer_dict]
      exact .of_settings (hput.refer (not_isSettled_shared_dict _ _ d) _ _)

theorem get?_normalizeExcludeDirs {name : String} (h : name ≠ "exclude_dirs") (d : Dict) :
    get? (normalizeExcludeDirs d) name = get? d name := by
  unfold normalizeExcludeDirs
  split
  · exact get?_put_of_ne _ h _
  · rfl

theorem textKeys_normalizeExcludeDirs (d : Dict) :
    textKeys (normalizeExcludeDirs d) = textKeys d := by
  unfold normalizeExcludeDirs
  split
  · rename_i s hs
    exact textKeys_put hs _
  · rfl

/-- Normalizing the mapping of a label. -/
theorem sameSections_normalize (label : Nat) (config : Value) :
    SameSections (entriesOf config) (entriesOf (config.amend label normalizeExcludeDirs)) := by
  have hf := SameSettings.normalize
  cases config with
  | dict d =>
    rw [amend_dict, entriesOf_dict, entriesOf_dict]
    refine ⟨textKeys_map d _, fun name _ v hv => ⟨_, ?_, .amend hf label v⟩⟩
    rw [get?_map, hv, Option.map_some]
  | shared n loops u =>
    by_cases hu : ∃ d, u = .dict d
    · obtain ⟨d, rfl⟩ := hu
      rw [amend_shared_dict]
      refine sameSections_shared label hf ?_ ?_ fun name hname v hv => ⟨_, ?_, .amended v⟩
      · split
        · exact (SameSettings.amend label _ d).trans (hf _)
        · exact .amend label _ d
      · split
        · rw [textKeys_normalizeExcludeDirs, textKeys_map]
        · exact textKeys_map d _
      · split
        · rw [get?_normalizeExcludeDirs hname, get?_map, hv, Option.map_some]
        · rw [get?_map, hv, Option.map_some]
    · have hu := not_exists.1 hu
      rw [amend_shared_of_ne hu, entriesOf_of_ne_dict (bare_shared_ne_dict hu),
        entriesOf_of_ne_dict (bare_shared_ne_dict (amend_ne_dict hu))]
      exact .refl _
  | _ => exact .refl _

/-- Putting a normalized section in the place of one that has no label. -/
theorem sameSections_put {d settings : Dict} (h : get? d "link_checker" = some (.dict settings)) :
    SameSections d
      (Dict.put d (.text "link_checker") (.dict (normalizeExcludeDirs settings))) := by
  refine ⟨textKeys_put h _, fun name _ v hv => ?_⟩
  by_cases hname : name = "link_checker"
  · subst hname
    rw [h] at hv
    cases hv
    exact ⟨_, get?_put_self _ _ _, .of_settings (.normalize settings)⟩
  · exact ⟨v, by rw [get?_put_of_ne _ hname, hv], .refl v⟩

/-- Putting it there in a configuration that has a label of its own. -/
theorem sameSections_put_shared {label : Nat} {loops : Bool} {d settings : Dict}
    (h : get? d "link_checker" = some (.dict settings)) :
    SameSections (entriesOf (.shared label loops (.dict d)))
      (entriesOf (amend label
        (fun e => Dict.put e (.text "link_checker") (.dict (normalizeExcludeDirs settings)))
        (.shared label loops (.dict d)))) := by
  have hf := fun e => SameSettings.put e (.dict (normalizeExcludeDirs settings))
  rw [amend_shared_dict, if_pos rfl]
  refine sameSections_shared label hf ((SameSettings.amend label _ d).trans (hf _)) ?_
    fun name _ v hv => ?_
  · rw [textKeys_put (by rw [get?_map, h, Option.map_some]), textKeys_map]
  · by_cases hname : name = "link_checker"
    · subst hname
      rw [h] at hv
      cases hv
      exact ⟨_, get?_put_self _ _ _, .put (.normalize settings)⟩
    · exact ⟨_, by rw [get?_put_of_ne _ hname, get?_map, hv, Option.map_some], .amended v⟩

/-- **What a check leaves of a configuration.** All sections are there as before, with the same
settled settings, up to a list of folders that a text stood for. -/
theorem sameSections_afterCheck (config : Value) :
    SameSections (entriesOf config) (entriesOf (afterCheck config)) := by
  unfold afterCheck
  split
  · rename_i d
    simp only
    split
    · rename_i settings hsettings
      exact sameSections_put hsettings
    · exact sameSections_normalize _ _
    · exact sameSections_normalize _ _
    · exact .refl _
  · rename_i label loops d
    simp only
    split
    · rename_i settings hsettings
      exact sameSections_put_shared hsettings
    · exact sameSections_normalize _ _
    · exact sameSections_normalize _ _
    · exact .refl _
  · exact .refl _

/-- What has a mapping for its value still has one. -/
theorem exists_bare_amend {label : Nat} {f : Dict → Dict} {v : Value} {d : Dict}
    (h : v.bare = .dict d) : ∃ e, (v.amend label f).bare = .dict e := by
  cases v with
  | dict d' => exact ⟨_, by rw [amend_dict]; rfl⟩
  | shared n loops u =>
    by_cases hu : ∃ d', u = .dict d'
    · obtain ⟨d', rfl⟩ := hu
      rw [amend_shared_dict, bare]
      split
      · exact ⟨_, by rw [refer_dict]⟩
      · exact ⟨_, rfl⟩
    · exact absurd h (bare_shared_ne_dict (not_exists.1 hu) d)
  | _ => cases h

theorem exists_bare_afterCheck {config : Value} {d : Dict} (h : config.bare = .dict d) :
    ∃ e, (afterCheck config).bare = .dict e := by
  unfold afterCheck
  simp only
  split
  · split
    · exact exists_bare_amend h
    · exact ⟨_, rfl⟩
  · exact exists_bare_amend h
  · exact exists_bare_amend h
  · exact ⟨d, h⟩

end DocLinks.Config
