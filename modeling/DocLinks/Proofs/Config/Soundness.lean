import DocLinks.Proofs.Check.Creating

/-!
# Checking configurations is sound

A check of a configuration answers unless there is a setting of which nothing can be said, and it is
valid exactly if there are no errors. What is valid can be used: the sections are mappings with all
default keys, and a checker and a tier come of them. The exception is null. A section may be null,
and so may the list of excluded folders, and both are valid: they take the place of the defaults,
and then there is no mapping to look into. A null project section even stops the check itself.

## Contents
- `checkConfig_run`, `IsAnswerable`, `checkConfig_answers`: when a check answers.
- `ConfigCheck.IsSound`, `checkConfig_isSound`: what it answers.
-/

namespace DocLinks.Config

open Value Dict

variable {σ : Type} {t : FileTree} {base : FilePath} {checkPaths : Bool} {d e : Dict}
  {root : FilePath} {found : List Finding}

/-! ## When a check answers -/

/-- The answer is made of the findings, and of the configuration as the check leaves it. -/
theorem checkConfig_run (base : FilePath) (checkPaths : Bool) {config : Value}
    (hconfig : config.bare = .dict d) (w : Workspace σ) :
    ∃ log, checkConfig base checkPaths config w
      = ((partsOf w.tree base checkPaths d) >>= fun p =>
          conclude w.tree (entriesOf (afterCheck config)) p.root (p.all d), { w with log }) := by
  unfold checkConfig
  simp only [hconfig]
  -- Only finding needs the tree; what follows is told by the findings.
  obtain ⟨log, hlog⟩ := findings_run base checkPaths d w
  refine ⟨log, ?_⟩
  show (findings base checkPaths d >>= _) w = _
  rw [Work.bind_run, hlog]
  rcases partsOf w.tree base checkPaths d with e | p
  · rfl
  · rfl

theorem conclude_of_clean (hclean : IsClean found) :
    conclude t e root found
      = if root.hasNull then .error (.file .nullByte)
        else (withRoot e (root.resolve t.cwd).text).map fun merged =>
          ⟨true, [], found.filterMap Finding.warning?, merged⟩ := by
  unfold conclude
  rw [if_neg]
  rw [isClean_iff.1 hclean]
  exact Bool.false_ne_true

theorem conclude_of_not_clean (hclean : ¬IsClean found) :
    conclude t e root found = .ok (.invalid found) := by
  unfold conclude
  rw [if_pos]
  rwa [isClean_iff, Bool.not_eq_false] at hclean

/-- There is something to be said about every setting; and if nothing is wrong, then the root can
be set. -/
structure IsAnswerable (t : FileTree) (base : FilePath) (checkPaths : Bool) (d : Dict) : Prop
    extends CanBeSaid t base checkPaths d where
  rootSet : ∀ p, partsOf t base checkPaths d = .ok p → IsClean (p.all d) →
    p.root.hasNull = false ∧ ¬IsNullSection d "project"

variable {config : Value} {w : Workspace σ} {r : ConfigCheck}

theorem sameSections_entriesOf (hconfig : config.bare = .dict d) :
    SameSections d (entriesOf (afterCheck config)) := by
  have h := sameSections_afterCheck config
  rwa [entriesOf, hconfig] at h

/-- Nothing wrong is found only if the root can be set. -/
theorem conclude_ok (hclean : IsClean found) (h : conclude t e root found = .ok r) :
    root.hasNull = false ∧ ∃ c, withRoot e (root.resolve t.cwd).text = .ok c ∧
      r = ⟨true, [], found.filterMap Finding.warning?, c⟩ := by
  rw [conclude_of_clean hclean] at h
  split at h
  · cases h
  · rename_i hnull
    rcases hc : withRoot e (root.resolve t.cwd).text with f | c
    · rw [hc] at h
      cases h
    · rw [hc] at h
      cases h
      exact ⟨by simpa using hnull, c, rfl, rfl⟩

/-- **When a check answers.** -/
theorem checkConfig_answers (hconfig : config.bare = .dict d) (hkeys : HasDistinctKeys d) :
    (∃ r, (checkConfig base checkPaths config w).1 = .ok r) ↔
      IsAnswerable w.tree base checkPaths d := by
  have hsame := sameSections_entriesOf hconfig
  obtain ⟨log, hrun⟩ := checkConfig_run base checkPaths hconfig w
  rw [hrun, exists_bind_eq_ok_iff]
  constructor
  · rintro ⟨p, hp, r, hr⟩
    refine ⟨partsOf_answers.1 ⟨p, hp⟩, fun p' hp' hclean => ?_⟩
    rw [hp] at hp'
    cases hp'
    obtain ⟨hnull, c, hc, -⟩ := conclude_ok hclean hr
    exact ⟨hnull, (usable_of_withRoot hkeys hsame (accepted_of_isClean hp hclean) hc).project⟩
  · rintro ⟨hsaid, hroot⟩
    obtain ⟨p, hp⟩ := partsOf_answers.2 hsaid
    refine ⟨p, hp, ?_⟩
    by_cases hclean : IsClean (p.all d)
    · obtain ⟨hnull, hproject⟩ := hroot p hp hclean
      obtain ⟨c, hc⟩ := exists_withRoot (p.root.resolve w.tree.cwd).text hkeys hsame
        (accepted_of_isClean hp hclean) hproject
      rw [conclude_of_clean hclean, hnull, hc]
      exact ⟨_, rfl⟩
    · exact ⟨_, conclude_of_not_clean hclean⟩

/-- What has errors is not valid, and what has none is usable. -/
theorem checkConfig_ok (hconfig : config.bare = .dict d) (hkeys : HasDistinctKeys d)
    (h : (checkConfig base checkPaths config w).1 = .ok r) :
    (r.isValid = false ∧ r.errors ≠ []) ∨
      (r.isValid = true ∧ r.errors = [] ∧ Accepted d ∧ Usable d r.config) := by
  obtain ⟨log, hrun⟩ := checkConfig_run base checkPaths hconfig w
  rw [hrun] at h
  obtain ⟨p, hp, h⟩ := bind_eq_ok_iff.1 h
  by_cases hclean : IsClean (p.all d)
  · obtain ⟨-, c, hc, rfl⟩ := conclude_ok hclean h
    have haccepted := accepted_of_isClean hp hclean
    exact .inr ⟨rfl, rfl, haccepted,
      usable_of_withRoot hkeys (sameSections_entriesOf hconfig) haccepted hc⟩
  · rw [conclude_of_not_clean hclean] at h
    cases h
    refine .inl ⟨rfl, fun hnone => hclean fun x hx => ?_⟩
    exact List.filterMap_eq_nil_iff.1 hnone x hx

/-! ## What it answers -/

/-- What is to be expected of the result of a check, of which `d` is the configuration as it was
given. -/
structure ConfigCheck.IsSound (r : ConfigCheck) (d : Dict) : Prop where
  valid_iff : r.isValid = true ↔ r.errors = []
  /-- The sections of a valid configuration are mappings with all default keys, but for those that
  are null. -/
  sections : r.isValid = true → ∀ s ∈ defaultSections,
    (∃ m, get? r.config s.1 = some (.dict m) ∧ HasKeys s.2 m) ↔ ¬IsNullSection d s.1
  /-- Whether there is a checker for it, is for the tree to say. -/
  checker : r.isValid = true → ¬IsNullSection d "link_checker" →
    ¬IsNullSection (sectionOf d "link_checker") "exclude_dirs" →
    ∀ {σ : Type} (w : Workspace σ) f, (Checker.create (.dict r.config) w).1 ≠ .error (.shape f)
  /-- With null in the place of its settings there is none. -/
  noChecker : r.isValid = true →
    IsNullSection d "link_checker" ∨ IsNullSection (sectionOf d "link_checker") "exclude_dirs" →
    ∀ {σ : Type} (w : Workspace σ) s, (Checker.create (.dict r.config) w).1 ≠ .ok s
  threshold : r.isValid = true →
    ((∃ tier, autoFixThreshold (.dict r.config) = .ok tier) ↔ ¬IsNullSection d "fixes")

/-- A section is a mapping with all default keys unless it was null. -/
theorem Filled.exists_iff {c : Dict} {name : String} {P : Dict → Prop} (h : Filled d c name P) :
    (∃ m, get? c name = some (.dict m) ∧ HasKeys (defaultsOf name) m) ↔ ¬IsNullSection d name := by
  rcases h with ⟨hnull, v, hv, hbare⟩ | ⟨hnull, m, hm, -, hkeys, -⟩
  · refine ⟨fun ⟨m, hm, _⟩ => ?_, fun h => absurd hnull h⟩
    rw [hv] at hm
    cases hm
    cases hbare
  · exact ⟨fun _ => hnull, fun _ => ⟨m, hm, hkeys⟩⟩

/-- The tier of a usable configuration is known unless the section of the fixes is null. -/
theorem autoFixThreshold_answers {c : Dict} (h : Filled d c "fixes" FixesSettings) :
    (∃ tier, autoFixThreshold (.dict c) = .ok tier) ↔ ¬IsNullSection d "fixes" := by
  show (∃ tier, (((get? c "fixes").getD (.dict [])).member? "auto_fix_confidence" >>= _)
    = .ok tier) ↔ _
  rcases h with ⟨hnull, v, hv, hbare⟩ | ⟨hnull, m, hm, -, hkeys, hp⟩
  · have hmember : v.member? "auto_fix_confidence" = .error (.shape .noAttribute) := by
      unfold Value.member?
      rw [hbare]
    rw [hv, Option.getD_some, hmember]
    exact ⟨fun ⟨_, h⟩ => (nomatch h), fun h => absurd hnull h⟩
  · obtain ⟨v, hv⟩ := Option.isSome_iff_exists.1 (hkeys ("auto_fix_confidence", .text "high")
      (List.mem_cons_self ..))
    have hmember : (Value.dict m).member? "auto_fix_confidence" = .ok (some v) := congrArg _ hv
    rw [hm, Option.getD_some, hmember]
    exact ⟨fun _ => hnull, fun _ => hp v hv⟩

theorem Usable.isSound (h : Usable d r.config) (hvalid : r.isValid = true) (herrors : r.errors = []) :
    r.IsSound d where
  valid_iff := ⟨fun _ => herrors, fun _ => hvalid⟩
  sections := by
    intro _ s hs
    simp only [defaultSections, List.mem_cons, List.not_mem_nil, or_false] at hs
    rcases hs with rfl | rfl | rfl | rfl
    · exact h.projectSettings.exists_iff
    · exact h.checker.exists_iff
    · exact h.fixes.exists_iff
    · exact h.logging.exists_iff
  checker := by
    intro _ hchecker hdirs σ w f
    obtain ⟨log, hrun⟩ := Checker.create_run (v := .dict r.config) rfl w
    rw [hrun]
    exact Checker.isWellShaped_createdIn h.overlay hchecker hdirs w.tree f
  noChecker := by
    intro _ hnull σ w s
    obtain ⟨log, hrun⟩ := Checker.create_run (v := .dict r.config) rfl w
    rw [hrun]
    exact Checker.createdIn_of_null h.overlay.checker hnull w.tree s
  threshold := fun _ => autoFixThreshold_answers h.fixes

theorem isSound_of_invalid (hvalid : r.isValid = false) (herrors : r.errors ≠ []) : r.IsSound d where
  valid_iff := by simp [hvalid, herrors]
  sections h := absurd h (by simp [hvalid])
  checker h := absurd h (by simp [hvalid])
  noChecker h := absurd h (by simp [hvalid])
  threshold h := absurd h (by simp [hvalid])

/-- **Checking configurations is sound, up to null.** A check of a mapping answers exactly if there is
something to be said about every setting, and if the project section is not null when nothing is
wrong. Its result is valid exactly if there are no errors. A valid result has all sections, as
mappings with all default keys, but for those that are null; a checker and a tier come of it unless
what they are made from is null. -/
theorem checkConfig_isSound (base : FilePath) (checkPaths : Bool) {config : Value}
    (hconfig : config.bare = .dict d) (hkeys : HasDistinctKeys d) (w : Workspace σ) :
    ((∃ r, (checkConfig base checkPaths config w).1 = .ok r) ↔
      IsAnswerable w.tree base checkPaths d) ∧
      ∀ r, (checkConfig base checkPaths config w).1 = .ok r → r.IsSound d := by
  refine ⟨checkConfig_answers hconfig hkeys, fun r hr => ?_⟩
  rcases checkConfig_ok hconfig hkeys hr with ⟨hvalid, herrors⟩ | ⟨hvalid, herrors, -, husable⟩
  · exact isSound_of_invalid hvalid herrors
  · exact husable.isSound hvalid herrors

/-- A configuration that sets a folder to pass over, without a list. -/
def oneFolderConfig : Dict :=
  [(.text "project", textDict [("navigation_file", .text "nav.md")]),
    (.text "link_checker", textDict [("exclude_dirs", .text "old"), ("path", .null)])]

/-- A file system in which there is one folder, and nobody at work. -/
def oneFolder : Workspace Unit := ⟨⟨[(["docs"], .folder)], [], []⟩, (), []⟩

theorem checkConfig_isSound_oneFolder :
    ∃ r, (checkConfig (.absolute ["docs"]) true (.dict oneFolderConfig) oneFolder).1 = .ok r ∧
      r.isValid = true ∧ r.IsSound oneFolderConfig := by
  obtain ⟨r, hr, hvalid⟩ : ∃ r, (checkConfig (.absolute ["docs"]) true (.dict oneFolderConfig)
      oneFolder).1 = .ok r ∧ r.isValid = true := ⟨_, rfl, rfl⟩
  exact ⟨r, hr, hvalid,
    (checkConfig_isSound (.absolute ["docs"]) true rfl ⟨by decide, by decide⟩ oneFolder).2 r hr⟩

/-- A null project section stops the check. The other sections may be null, and are no mappings
then: no checker and no tier come of them. -/
theorem nullSections_are_valid :
    (checkConfig (.absolute ["docs"]) true (.dict [(.text "project", .null)]) oneFolder).1
      = .error (.shape .wrongType) ∧
    ∃ r, (checkConfig (.absolute ["docs"]) true (.dict [(.text "link_checker", .null),
        (.text "fixes", .null), (.text "logging", .null)]) oneFolder).1 = .ok r ∧
      r.isValid = true ∧ get? r.config "link_checker" = some .null ∧
      get? r.config "fixes" = some .null ∧ get? r.config "logging" = some .null ∧
      (Checker.create (.dict r.config) oneFolder).1 = .error (.shape .noAttribute) ∧
      autoFixThreshold (.dict r.config) = .error (.shape .noAttribute) :=
  ⟨rfl, _, rfl, rfl, rfl, rfl, rfl, rfl, rfl⟩

end DocLinks.Config
