import DocLinks.Config.Check
import DocLinks.Proofs.Value.Labels

/-!
# The rules of settings

For the rules of a configuration two facts: when one answers at all (`…_answers`), and what it accepts
(`…_accepts`). A rule accepts a value if it finds no error in it (`IsClean`). What is accepted is
settled, so that it does not depend on labels.

## Contents
- `IsClean`: findings without errors.
- `checkContained`, `checkRoot`, `checkExcludeDirs`, `positiveInt`, `checkTier`, `checkLevel`: the
  rules of single settings.
- `Permits`: all that a mapping may have for a key.
-/

namespace DocLinks.Config

open Value Dict

/-! ## Findings -/

/-- Findings among which there is no error. -/
def IsClean (found : List Finding) : Prop := ∀ x ∈ found, x.error? = none

theorem isClean_append {as bs : List Finding} : IsClean (as ++ bs) ↔ IsClean as ∧ IsClean bs :=
  List.forall_mem_append

/-- An error is not clean. -/
theorem not_isClean_error (s : String) (rest : List Finding) : ¬IsClean (.error s :: rest) :=
  fun h => nomatch h (.error s) (List.mem_cons_self ..)

theorem isClean_iff {found : List Finding} :
    IsClean found ↔ (found.any fun x => x.error?.isSome) = false := by
  unfold IsClean
  rw [List.any_eq_false]
  exact forall₂_congr fun x _ => by cases x.error? <;> simp

theorem ok_bind {ε α β : Type} (a : α) (f : α → Except ε β) : (Except.ok a >>= f) = f a := rfl

theorem error_bind {ε α β : Type} (e : ε) (f : α → Except ε β) :
    (Except.error e >>= f) = .error e := rfl

/-- A sequence of rules answers if each of them does. -/
theorem bind_eq_ok_iff {ε α β : Type} {x : Except ε α} {f : α → Except ε β} {b : β} :
    (x >>= f) = .ok b ↔ ∃ a, x = .ok a ∧ f a = .ok b := by
  cases x with
  | error e => exact ⟨nofun, nofun⟩
  | ok a => exact ⟨fun h => ⟨a, rfl, h⟩, fun ⟨_, ha, h⟩ => by cases ha; exact h⟩

theorem exists_bind_eq_ok_iff {ε α β : Type} {x : Except ε α} {f : α → Except ε β} :
    (∃ b, (x >>= f) = .ok b) ↔ ∃ a, x = .ok a ∧ ∃ b, f a = .ok b :=
  ⟨fun ⟨b, h⟩ => have ⟨a, ha, hb⟩ := bind_eq_ok_iff.1 h; ⟨a, ha, b, hb⟩,
    fun ⟨a, ha, b, hb⟩ => ⟨b, bind_eq_ok_iff.2 ⟨a, ha, hb⟩⟩⟩

/-- What a mapping has for a key is as told. -/
def Permits (d : Dict) (name : String) (P : Value → Prop) : Prop := ∀ v, get? d name = some v → P v

/-- A rule for a setting that may be absent answers if it answers for the value. -/
theorem checkSetting_answers {settings : Dict} {name : String}
    {rule : Value → Except Fault (List Finding)} :
    (∃ fs, checkSetting settings name rule = .ok fs) ↔
      Permits settings name fun v => ∃ fs, rule v = .ok fs := by
  unfold checkSetting Permits
  rcases get? settings name with _ | v
  · exact ⟨fun _ _ hv => (nomatch hv), fun _ => ⟨[], rfl⟩⟩
  · exact ⟨fun h _ hv => Option.some.inj hv ▸ h, fun h => h v rfl⟩

theorem Permits.congr {d : Dict} {name : String} {P Q : Value → Prop} (h : ∀ v, P v ↔ Q v) :
    Permits d name P ↔ Permits d name Q :=
  forall₂_congr fun v _ => h v

theorem checkSetting_accepts {settings : Dict} {name : String}
    {rule : Value → Except Fault (List Finding)} {fs : List Finding} {P : Value → Prop}
    (h : checkSetting settings name rule = .ok fs) (hclean : IsClean fs)
    (hP : ∀ v fs, rule v = .ok fs → IsClean fs → P v) : Permits settings name P := by
  intro v hv
  unfold checkSetting at h
  rw [hv] at h
  exact hP v fs h hclean

/-! ## Paths -/

variable {t : FileTree} {root : FilePath} {key : String} {v : Value} {fs : List Finding}

theorem validateContained_of_hasNull {path : FilePath}
    (h : root.hasNull = true ∨ path.hasNull = true) :
    validateContained t path root = .error (.file .nullByte) := if_pos h

/-- Without null characters it is known whether a path stays inside. -/
theorem validateContained_of_not_hasNull {path : FilePath}
    (h : ¬(root.hasNull = true ∨ path.hasNull = true)) :
    (∃ p, validateContained t path root = .ok p) ∨
      ∃ f, validateContained t path root = .error (.path f) := by
  unfold validateContained
  simp only [if_neg h]
  split
  · exact .inl ⟨_, rfl⟩
  · exact .inr ⟨_, rfl⟩

/-- A value is no text, or a path without a null character in a root without one. -/
def CanBeContained (root : FilePath) (v : Value) : Prop :=
  ∀ s, v = .text s → root.hasNull = false ∧ (FilePath.ofString s).hasNull = false

theorem checkContained_answers :
    (∃ fs, checkContained t root key v = .ok fs) ↔ CanBeContained root v := by
  unfold CanBeContained
  cases v with
  | text s =>
    unfold checkContained
    by_cases hnull : root.hasNull = true ∨ (FilePath.ofString s).hasNull = true
    · simp only [validateContained_of_hasNull hnull]
      refine ⟨fun ⟨_, h⟩ => (nomatch h), fun h => ?_⟩
      obtain ⟨hroot, hpath⟩ := h s rfl
      simp [hroot, hpath] at hnull
    · refine ⟨fun _ s' hs => ?_, fun _ => ?_⟩
      · cases hs
        simpa using hnull
      · rcases validateContained_of_not_hasNull (t := t) hnull with ⟨p, hp⟩ | ⟨f, hf⟩
        · exact ⟨[], by simp only [hp]⟩
        · simp only [hf]
          exact ⟨_, rfl⟩
  | _ => exact ⟨fun _ _ hv => (nomatch hv), fun _ => ⟨_, rfl⟩⟩

/-- An accepted path is a text, and stays inside the root. -/
theorem checkContained_accepts (h : checkContained t root key v = .ok fs) (hclean : IsClean fs) :
    ∃ s p, v = .text s ∧ validateContained t (.ofString s) root = .ok p := by
  cases v with
  | text s =>
    unfold checkContained at h
    simp only at h
    split at h
    · rename_i p hp
      exact ⟨s, p, rfl, hp⟩
    · cases h
      exact absurd hclean (not_isClean_error _ _)
    · cases h
  | _ =>
    cases h
    exact absurd hclean (not_isClean_error _ _)

/-- A value is no text, or a path of which it can be found out where it leads, if that matters. -/
def CanBeLookedUp (t : FileTree) (base : FilePath) (checkPaths : Bool) (v : Value) : Prop :=
  checkPaths = true → ∀ s, v = .text s → ∃ n, t.probe (base.join (expandHome t s.toList)) = .ok n

theorem checkRoot_answers {base : FilePath} {checkPaths : Bool} {project : Dict} :
    (∃ r, checkRoot t base checkPaths project = .ok r) ↔
      Permits project "root" (CanBeLookedUp t base checkPaths) := by
  unfold checkRoot Permits CanBeLookedUp
  rcases get? project "root" with _ | v
  · exact ⟨fun _ _ hv => (nomatch hv), fun _ => ⟨_, rfl⟩⟩
  · cases v with
    | text s =>
      simp only
      cases checkPaths with
      | false => exact ⟨fun _ _ _ h => (nomatch h), fun _ => ⟨_, rfl⟩⟩
      | true =>
        rw [if_pos rfl]
        rcases hprobe : t.probe (base.join (expandHome t s.toList)) with c | n
        · refine ⟨fun ⟨_, h⟩ => (nomatch h), fun h => ?_⟩
          obtain ⟨n, hn⟩ := h _ rfl rfl s rfl
          rw [hprobe] at hn
          cases hn
        · refine ⟨fun _ v hv _ s' hs => ?_, fun _ => ?_⟩
          · cases hv
            cases hs
            exact ⟨n, hprobe⟩
          · rcases n with _ | _ | _ <;> exact ⟨_, rfl⟩
    | _ =>
      refine ⟨fun _ v hv _ s hs => ?_, fun _ => ⟨_, rfl⟩⟩
      cases hs.symm.trans (Option.some.inj hv).symm

/-! ## Single values -/

/-- What a rule does not take can be shown in a message. -/
def CanBeQuoted {α : Type} (rule : Value → Except KeyFault α) (v : Value) : Prop :=
  ∀ f, rule v = .error f → f.value.isShowable = true

theorem findingsOf_answers {α : Type} {r : Except KeyFault α} {rule : α → List Finding} :
    (∃ fs, findingsOf key r rule = .ok fs) ↔ ∀ f, r = .error f → f.value.isShowable = true := by
  unfold findingsOf
  cases r with
  | ok a => exact ⟨fun _ _ h => (nomatch h), fun _ => ⟨_, rfl⟩⟩
  | error f =>
    simp only
    split
    · rename_i hf
      exact ⟨fun _ f' h => by cases h; exact hf, fun _ => ⟨_, rfl⟩⟩
    · rename_i hf
      exact ⟨fun ⟨_, h⟩ => (nomatch h), fun h => absurd (h f rfl) hf⟩

theorem findingsOf_accepts {α : Type} {r : Except KeyFault α} {rule : α → List Finding}
    (h : findingsOf key r rule = .ok fs) (hclean : IsClean fs) : ∃ a, r = .ok a ∧ IsClean (rule a) := by
  unfold findingsOf at h
  cases r with
  | ok a =>
    cases h
    exact ⟨a, rfl, hclean⟩
  | error f =>
    simp only at h
    split at h
    · cases h
      exact absurd hclean (not_isClean_error _ _)
    · cases h

theorem positiveInt_eq_ok {n : Int} : positiveInt v key = .ok n ↔ v = .int n ∧ 0 < n := by
  cases v with
  | int m =>
    unfold positiveInt
    simp only [keyFault]
    split
    · refine ⟨nofun, fun ⟨h, hn⟩ => ?_⟩
      cases h
      omega
    · rename_i hm
      refine ⟨fun h => ?_, fun ⟨h, _⟩ => by cases h; rfl⟩
      cases h
      exact ⟨rfl, by omega⟩
  | _ => exact ⟨nofun, fun h => (nomatch h.1)⟩

theorem checkTier_accepts (hclean : IsClean (checkTier v)) :
    ∃ s c, v = .text s ∧ Confidence.ofValue v = .ok c := by
  unfold checkTier at hclean
  split at hclean
  · rename_i c hc
    cases v with
    | text s => exact ⟨s, c, rfl, hc⟩
    | _ => cases hc
  · exact absurd hclean (not_isClean_error _ _)

/-- Values that name folders: nothing, one text, or a list of texts. -/
inductive NamesFolders : Value → Prop where
  | null : NamesFolders .null
  | text (s : String) : NamesFolders (.text s)
  | texts (ss : List String) : NamesFolders (.list (ss.map .text))

theorem eq_map_text {items : List Value} (h : ∀ v ∈ items, ∃ s, v = .text s) :
    ∃ ss : List String, items = ss.map .text := by
  induction items with
  | nil => exact ⟨[], rfl⟩
  | cons v rest ih =>
    obtain ⟨s, hs⟩ := h v (List.mem_cons_self ..)
    obtain ⟨ss, hss⟩ := ih fun v hv => h v (List.mem_cons_of_mem _ hv)
    exact ⟨s :: ss, by rw [hs, hss, List.map_cons]⟩

theorem checkExcludeDirs_accepts (h : checkExcludeDirs v = .ok fs) (hclean : IsClean fs) :
    NamesFolders v.bare := by
  obtain ⟨items, hitems, hrule⟩ := findingsOf_accepts h hclean
  unfold ensureList at hitems
  split at hitems
  · rename_i hv
    rw [hv]
    exact .null
  · rename_i s hv
    rw [hv]
    exact .text s
  · rename_i items' hv
    rw [hv]
    split at hitems
    · cases hitems
    · cases hitems
      obtain ⟨ss, hss⟩ : ∃ ss : List String, items = ss.map .text := by
        refine eq_map_text fun v hmem => ?_
        obtain ⟨i, hi⟩ := List.getElem?_of_mem hmem
        cases v with
        | text s => exact ⟨s, rfl⟩
        | _ =>
          exact nomatch hrule _ (List.mem_filterMap.2
            ⟨(_, i), List.mk_mem_zipIdx_iff_getElem?.2 hi, rfl⟩)
      rw [hss]
      exact .texts ss
  · cases hitems

theorem checkLevel_answers : (∃ fs, checkLevel v = .ok fs) ↔ v.isShowable = true := by
  unfold checkLevel
  cases v with
  | text s =>
    refine ⟨fun _ => rfl, fun _ => ?_⟩
    simp only
    split
    · exact ⟨_, rfl⟩
    · exact ⟨_, rfl⟩
  | _ =>
    simp only [Bool.false_eq_true, if_false]
    split
    · rename_i h
      exact ⟨fun _ => h, fun _ => ⟨_, rfl⟩⟩
    · rename_i h
      exact ⟨fun ⟨_, hv⟩ => (nomatch hv), fun hv => absurd hv h⟩

/-! ## Sections -/

/-- A section is given as null. -/
def IsNullSection (config : Dict) (name : String) : Prop :=
  ∃ v, get? config name = some v ∧ v.bare = .null

/-- What an accepted section is: absent, null, or a mapping. -/
inductive SectionForm (config : Dict) (name : String) : Dict → Prop where
  | absent (h : get? config name = none) : SectionForm config name []
  | null (h : IsNullSection config name) : SectionForm config name []
  | mapping {v : Value} {settings : Dict} (h : get? config name = some v)
      (hv : v.bare = .dict settings) : SectionForm config name settings

theorem settingsOf_accepts {config : Dict} {name : String}
    (hclean : IsClean (settingsOf config name).2) :
    SectionForm config name (settingsOf config name).1 := by
  unfold settingsOf at hclean ⊢
  rcases hget : get? config name with _ | v
  · exact .absent hget
  · rw [hget] at hclean
    simp only [Option.map_some] at hclean ⊢
    rcases hv : v.bare with _ | _ | _ | _ | _ | _ | _ | _ | _ | _ | d | _ | _
    case null => exact .null ⟨v, hget, hv⟩
    case dict => exact .mapping hget hv
    all_goals
      rw [hv] at hclean
      exact absurd hclean (not_isClean_error _ _)

end DocLinks.Config
