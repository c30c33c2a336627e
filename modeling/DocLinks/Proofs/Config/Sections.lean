import DocLinks.Proofs.Config.Normalized
import DocLinks.Proofs.Config.Rules

/-!
# Sections with their defaults

What becomes of a section that the rules accept when a configuration, after its check, is given its
defaults: a section that is null stays null, and any other one is a mapping with all default keys in
which the settings are what the rules accepted (`section_overlay`).

## Contents
- `get?_overlay_absent`, `get?_overlay_null`, `get?_overlay_mapping`: one section with its defaults.
- `Permits.merge`, `Permits.normalized`: what a rule accepted stays accepted.
- `section_overlay`.
-/

namespace DocLinks.Config

open Value Dict

variable {config d e defaults settings : Dict} {name key : String} {v : Value}

/-! ## One section -/

theorem get?_overlay_absent (h : IsKeyed config) (hv : get? config name = none) :
    get? (overlay config) name = get? defaultConfig name := by
  rw [get?_overlay h, hv]
  rfl

theorem get?_overlay_null (h : IsKeyed config) (hv : get? config name = some v)
    (hnull : v.bare = .null) : get? (overlay config) name = some v := by
  rw [get?_overlay h, hv, Option.map_some, Option.some_or, mergedSection_null hnull]

theorem get?_overlay_mapping (h : IsKeyed config)
    (hdefaults : get? defaultConfig name = some (.dict defaults))
    (hv : get? config name = some v) (hs : v.bare = .dict settings) :
    get? (overlay config) name = some (.dict (Dict.merge defaults settings)) := by
  rw [get?_overlay h, hv, Option.map_some, Option.some_or, hdefaults,
    mergedSection_mapping hs]

/-- A merged section has all keys of the defaults. -/
theorem isSome_get?_merge (h : IsKeyed settings) (hkey : (get? defaults key).isSome = true) :
    (get? (Dict.merge defaults settings) key).isSome = true := by
  rw [get?_merge _ h]
  rcases get? settings key with _ | v
  · exact hkey
  · rfl

/-! ## Settings -/

theorem Permits.mono {P Q : Value → Prop} (h : Permits d name P) (hPQ : ∀ v, P v → Q v) :
    Permits d name Q :=
  fun v hv => hPQ v (h v hv)

/-- What holds of a default and of a setting, holds of the two merged. -/
theorem Permits.merge {P : Value → Prop} (hdefaults : Permits defaults key P)
    (h : Permits settings key P) (hkeyed : IsKeyed settings) :
    Permits (Dict.merge defaults settings) key P := by
  intro v hv
  rw [get?_merge _ hkeyed, Option.or_eq_some_iff] at hv
  rcases hv with hv | ⟨_, hv⟩
  · exact h v hv
  · exact hdefaults v hv

/-- A setting that is accepted is still there after the check, or a list in its place. -/
theorem Permits.normalized {P Q : Value → Prop} (h : Permits d key P) (hsame : SameSettings d e)
    (hkey : key ≠ "link_checker") (hsettled : ∀ v, P v → IsSettled v)
    (hQ : ∀ v v', P v → Normalized key v v' → Q v') : Permits e key Q := by
  intro v' hv'
  rcases hget : get? d key with _ | v
  · rw [hsame.absent key hkey hget] at hv'
    cases hv'
  · obtain ⟨v'', hv'', hn⟩ := hsame.settled key hkey v hget (hsettled v (h v hget))
    rw [hv'] at hv''
    cases hv''
    exact hQ v v' (h v hget) hn

/-- So is one that no list can stand for. -/
theorem Permits.kept {P : Value → Prop} (h : Permits d key P) (hsame : SameSettings d e)
    (hkey : key ≠ "link_checker") (hkey' : key ≠ "exclude_dirs")
    (hsettled : ∀ v, P v → IsSettled v) : Permits e key P :=
  h.normalized hsame hkey hsettled fun v v' hv hn => by
    cases hn with
    | same => exact hv
    | listed h => exact absurd h hkey'

/-! ## All sections -/

theorem SameSections.isKeyed (h : SameSections d e) (hd : IsKeyed d) : IsKeyed e := by
  rwa [IsKeyed, h.keys]

theorem SameSections.absent (h : SameSections d e) (hd : get? d name = none) :
    get? e name = none := by
  rwa [get?_eq_none_iff, h.keys, ← get?_eq_none_iff]

/-- **A section with its defaults.** After the check, a section that was null is null still, and any
other one has the accepted settings over the defaults. -/
theorem section_overlay (hkeyed : IsKeyed d) (hsame : SameSections d e)
    (hname : name ≠ "exclude_dirs") (hdefaults : get? defaultConfig name = some (.dict defaults))
    (hform : SectionForm d name settings) :
    (IsNullSection d name ∧ IsNullSection (overlay e) name) ∨
      (¬IsNullSection d name ∧ ∃ settings',
        get? (overlay e) name = some (.dict (Dict.merge defaults settings')) ∧
        SameSettings settings settings') := by
  have hkeyed' := hsame.isKeyed hkeyed
  cases hform with
  | absent h =>
    refine .inr ⟨fun ⟨v, hv, _⟩ => ?_, [], ?_, .refl []⟩
    · rw [h] at hv
      cases hv
    · rw [get?_overlay_absent hkeyed' (hsame.absent h), hdefaults]
      rfl
  | null h =>
    obtain ⟨v, hv, hnull⟩ := h
    obtain ⟨w, hw, hvw⟩ := hsame.sections name hname v hv
    exact .inl ⟨⟨v, hv, hnull⟩, w, get?_overlay_null hkeyed' hw (hvw.null hnull), hvw.null hnull⟩
  | mapping h hv =>
    rename_i v
    obtain ⟨w, hw, hvw⟩ := hsame.sections name hname v h
    obtain ⟨settings', hw', hs⟩ := hvw.settings _ hv
    refine .inr ⟨fun ⟨u, hu, hnull⟩ => ?_, settings', ?_, hs⟩
    · rw [h] at hu
      cases hu
      rw [hv] at hnull
      cases hnull
    · exact get?_overlay_mapping hkeyed' hdefaults hw hw'

end DocLinks.Config
