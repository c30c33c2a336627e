import DocLinks.Proofs.Config.Rules
import DocLinks.Proofs.Runs

/-!
# When a check of a configuration answers

A check collects all problems, and ends with a fault only where there is nothing to be said about one:
a path with a null character, a root that cannot be looked up, or a value that no message can show.

## Contents
- `Parts`, `partsOf`, `findings_run`: what the rules of the sections find, apart from the log.
- `CanBeSaid`, `partsOf_answers`: when the rules of all sections answer.
-/

namespace DocLinks.Config

open Value Dict

variable {σ : Type} {t : FileTree} {base root : FilePath} {checkPaths : Bool}
  {d project settings : Dict}

/-! ## The findings of the sections -/

/-- The settings that a section is checked for. -/
def sectionOf (d : Dict) (name : String) : Dict := (settingsOf d name).1

/-- What the rules of the sections find, and the root that the project section sets. -/
structure Parts where
  root : FilePath
  project : List Finding
  path : List Finding
  checker : List Finding
  logging : List Finding
  unknown : List Finding

/-- All findings in their order. -/
def Parts.all (p : Parts) (d : Dict) : List Finding :=
  (settingsOf d "project").2 ++ p.project ++ (settingsOf d "link_checker").2 ++ p.path ++
    p.checker ++ (settingsOf d "fixes").2 ++ checkFixes (sectionOf d "fixes") ++
    (settingsOf d "logging").2 ++ p.logging ++ p.unknown

/-- What the rules of the sections find. -/
def partsOf (t : FileTree) (base : FilePath) (checkPaths : Bool) (d : Dict) :
    Except Fault Parts := do
  let (root, project) ← checkProject t base checkPaths (sectionOf d "project")
  let path ← checkPath t root (sectionOf d "link_checker")
  let checker ← checkLinkChecker (sectionOf d "link_checker")
  let logging ← checkLogging (sectionOf d "logging")
  let unknown ← checkUnknown d
  return ⟨root, project, path, checker, logging, unknown⟩

/-- The findings are those of the sections, and finding them changes the log only. -/
theorem findings_run (base : FilePath) (checkPaths : Bool) (d : Dict) (w : Workspace σ) :
    ∃ log, findings base checkPaths d w
      = ((partsOf w.tree base checkPaths d).map fun p => (p.root, p.all d), { w with log }) := by
  unfold findings partsOf
  rw [Work.bind_run_of_ok (Work.tree_run w)]
  simp only [sectionOf]
  rcases checkProject w.tree base checkPaths (settingsOf d "project").1 with e | ⟨root, inProject⟩
  · exact ⟨w.log, by rw [Work.bind_run, Work.ofExcept_run]; rfl⟩
  rw [Work.bind_ofExcept_run rfl, ok_bind]
  simp only
  rcases checkPath w.tree root (settingsOf d "link_checker").1 with e | ofPath
  · exact ⟨w.log, by rw [Work.bind_run, Work.ofExcept_run]; rfl⟩
  rw [Work.bind_ofExcept_run rfl, ok_bind, Work.bind_run_of_ok (Work.forM_report_run _ w)]
  refine ⟨w.log ++ checkRecords (settingsOf d "link_checker").1, ?_⟩
  rcases checkLinkChecker (settingsOf d "link_checker").1 with e | inChecker
  · rw [Work.bind_run, Work.ofExcept_run]
    rfl
  rw [Work.bind_ofExcept_run rfl, ok_bind]
  rcases checkLogging (settingsOf d "logging").1 with e | inLogging
  · rw [Work.bind_run, Work.ofExcept_run]
    rfl
  rw [Work.bind_ofExcept_run rfl, ok_bind]
  rcases checkUnknown d with e | unknown
  · rw [Work.bind_run, Work.ofExcept_run]
    rfl
  rfl

/-! ## When the rules answer -/

/-- The root that the other paths are checked against. -/
def rootOf (t : FileTree) (base : FilePath) (checkPaths : Bool) (project : Dict) : FilePath :=
  match checkRoot t base checkPaths project with
  | .ok r => r.1
  | .error _ => base

/-- Whether a key names a section that has defaults. -/
def isKnown (key : Value) : Bool := defaultSections.any fun s => key.sameKey (.text s.1)

/-- There is something to be said about every setting. -/
structure CanBeSaid (t : FileTree) (base : FilePath) (checkPaths : Bool) (d : Dict) : Prop where
  root : Permits (sectionOf d "project") "root" (CanBeLookedUp t base checkPaths)
  navigation : Permits (sectionOf d "project") "navigation_file"
    (CanBeContained (rootOf t base checkPaths (sectionOf d "project")))
  redirects : Permits (sectionOf d "project") "redirects_file"
    (CanBeContained (rootOf t base checkPaths (sectionOf d "project")))
  path : Permits (sectionOf d "link_checker") "path"
    (CanBeContained (rootOf t base checkPaths (sectionOf d "project")))
  excludeDirs : Permits (sectionOf d "link_checker") "exclude_dirs"
    (CanBeQuoted fun v => ensureList v excludeDirsKey true)
  maxFileSize : Permits (sectionOf d "link_checker") "max_file_size"
    (CanBeQuoted fun v => positiveInt v "link_checker.max_file_size")
  level : Permits (sectionOf d "logging") "level" fun v => v.isShowable = true
  unknown : ∀ key ∈ d.map Prod.fst, isKnown key = false → key.isShowable = true

theorem checkProject_answers :
    (∃ r, checkProject t base checkPaths project = .ok r) ↔
      Permits project "root" (CanBeLookedUp t base checkPaths) ∧
      Permits project "navigation_file" (CanBeContained (rootOf t base checkPaths project)) ∧
      Permits project "redirects_file" (CanBeContained (rootOf t base checkPaths project)) := by
  have hcontained : ∀ name key root,
      (∃ fs, checkSetting project name (checkContained t root key) = .ok fs) ↔
        Permits project name (CanBeContained root) := fun name key root =>
    checkSetting_answers.trans (Permits.congr fun v => checkContained_answers)
  unfold checkProject
  rw [exists_bind_eq_ok_iff, ← checkRoot_answers]
  constructor
  · rintro ⟨⟨root, ofRoot⟩, hroot, h⟩
    obtain ⟨navigation, hnavigation, h⟩ := exists_bind_eq_ok_iff.1 h
    obtain ⟨redirects, hredirects, _⟩ := exists_bind_eq_ok_iff.1 h
    have heq : rootOf t base checkPaths project = root := by rw [rootOf, hroot]
    rw [heq]
    exact ⟨⟨_, hroot⟩, (hcontained _ _ _).1 ⟨_, hnavigation⟩, (hcontained _ _ _).1 ⟨_, hredirects⟩⟩
  · rintro ⟨⟨⟨root, ofRoot⟩, hroot⟩, hnavigation, hredirects⟩
    have heq : rootOf t base checkPaths project = root := by rw [rootOf, hroot]
    rw [heq] at hnavigation hredirects
    obtain ⟨navigation, hnavigation⟩ := (hcontained _ "project.navigation_file" _).2 hnavigation
    obtain ⟨redirects, hredirects⟩ := (hcontained _ "project.redirects_file" _).2 hredirects
    exact ⟨_, hroot, _, bind_eq_ok_iff.2 ⟨_, hnavigation, bind_eq_ok_iff.2 ⟨_, hredirects, rfl⟩⟩⟩

theorem checkPath_answers :
    (∃ fs, checkPath t root settings = .ok fs) ↔ Permits settings "path" (CanBeContained root) := by
  refine checkSetting_answers.trans (Permits.congr fun v => ?_)
  cases v with
  | null => exact ⟨fun _ _ h => (nomatch h), fun _ => ⟨_, rfl⟩⟩
  | _ => exact checkContained_answers

theorem checkLinkChecker_answers :
    (∃ fs, checkLinkChecker settings = .ok fs) ↔
      Permits settings "exclude_dirs" (CanBeQuoted fun v => ensureList v excludeDirsKey true) ∧
      Permits settings "max_file_size"
        (CanBeQuoted fun v => positiveInt v "link_checker.max_file_size") := by
  have hdirs : (∃ fs, checkSetting settings "exclude_dirs" checkExcludeDirs = .ok fs) ↔
      Permits settings "exclude_dirs" (CanBeQuoted fun v => ensureList v excludeDirsKey true) :=
    checkSetting_answers.trans (Permits.congr fun v => findingsOf_answers)
  have hsize : (∃ fs, (checkSetting settings "max_file_size" fun v =>
        findingsOf "link_checker.max_file_size" (positiveInt v "link_checker.max_file_size")
          fun _ => []) = .ok fs) ↔
      Permits settings "max_file_size"
        (CanBeQuoted fun v => positiveInt v "link_checker.max_file_size") :=
    checkSetting_answers.trans (Permits.congr fun v => findingsOf_answers)
  have hanchors : ∃ fs, (checkSetting settings "check_anchors" fun v =>
      .ok (checkBool "link_checker.check_anchors" v)) = .ok fs :=
    checkSetting_answers.2 fun v _ => ⟨_, rfl⟩
  unfold checkLinkChecker
  rw [exists_bind_eq_ok_iff, ← hdirs, ← hsize]
  constructor
  · rintro ⟨dirs, hd, h⟩
    obtain ⟨anchors, -, h⟩ := exists_bind_eq_ok_iff.1 h
    obtain ⟨size, hs, -⟩ := exists_bind_eq_ok_iff.1 h
    exact ⟨⟨_, hd⟩, _, hs⟩
  · rintro ⟨⟨dirs, hd⟩, size, hs⟩
    obtain ⟨anchors, ha⟩ := hanchors
    exact ⟨_, hd, _, bind_eq_ok_iff.2 ⟨_, ha, bind_eq_ok_iff.2 ⟨_, hs, rfl⟩⟩⟩

theorem checkLogging_answers :
    (∃ fs, checkLogging settings = .ok fs) ↔
      Permits settings "level" fun v => v.isShowable = true := by
  have hlevel : (∃ fs, checkSetting settings "level" checkLevel = .ok fs) ↔
      Permits settings "level" fun v => v.isShowable = true :=
    checkSetting_answers.trans (Permits.congr fun v => checkLevel_answers)
  have hfile : ∃ fs, (checkSetting settings "log_file" fun v => .ok (checkLogFile v)) = .ok fs :=
    checkSetting_answers.2 fun v _ => ⟨_, rfl⟩
  unfold checkLogging
  rw [exists_bind_eq_ok_iff, ← hlevel]
  constructor
  · rintro ⟨level, hl, -⟩
    exact ⟨_, hl⟩
  · rintro ⟨level, hl⟩
    obtain ⟨file, hf⟩ := hfile
    exact ⟨_, hl, _, bind_eq_ok_iff.2 ⟨_, hf, rfl⟩⟩

theorem checkUnknown_answers :
    (∃ fs, checkUnknown d = .ok fs) ↔
      ∀ key ∈ d.map Prod.fst, isKnown key = false → key.isShowable = true := by
  unfold checkUnknown
  have hall : (((d.map Prod.fst).filter fun key => !isKnown key).all isShowable = true) ↔
      ∀ key ∈ d.map Prod.fst, isKnown key = false → key.isShowable = true := by
    rw [List.all_eq_true]
    refine forall_congr' fun key => ?_
    rw [List.mem_filter, and_imp, Bool.not_eq_true']
  rw [← hall]
  unfold isKnown
  simp only
  split
  · rename_i h
    exact ⟨fun _ => h, fun _ => ⟨_, rfl⟩⟩
  · rename_i h
    exact ⟨fun ⟨_, hv⟩ => (nomatch hv), fun hv => absurd hv h⟩

theorem rootOf_eq {found : List Finding}
    (h : checkProject t base checkPaths project = .ok (root, found)) :
    rootOf t base checkPaths project = root := by
  obtain ⟨⟨root', ofRoot⟩, hroot, h⟩ := bind_eq_ok_iff.1 h
  obtain ⟨navigation, -, h⟩ := bind_eq_ok_iff.1 h
  obtain ⟨redirects, -, h⟩ := bind_eq_ok_iff.1 h
  cases h
  rw [rootOf, hroot]

/-- **When the rules of all sections answer.** -/
theorem partsOf_answers :
    (∃ p, partsOf t base checkPaths d = .ok p) ↔ CanBeSaid t base checkPaths d := by
  unfold partsOf
  constructor
  · rintro ⟨p, h⟩
    obtain ⟨⟨root, ofProject⟩, hproject, h⟩ := bind_eq_ok_iff.1 h
    obtain ⟨path, hpath, h⟩ := bind_eq_ok_iff.1 h
    obtain ⟨checker, hchecker, h⟩ := bind_eq_ok_iff.1 h
    obtain ⟨logging, hlogging, h⟩ := bind_eq_ok_iff.1 h
    obtain ⟨unknown, hunknown, -⟩ := bind_eq_ok_iff.1 h
    obtain ⟨hroot, hnavigation, hredirects⟩ := checkProject_answers.1 ⟨_, hproject⟩
    obtain ⟨hdirs, hsize⟩ := checkLinkChecker_answers.1 ⟨_, hchecker⟩
    refine ⟨hroot, hnavigation, hredirects, ?_, hdirs, hsize, checkLogging_answers.1 ⟨_, hlogging⟩,
      checkUnknown_answers.1 ⟨_, hunknown⟩⟩
    rw [rootOf_eq hproject]
    exact checkPath_answers.1 ⟨_, hpath⟩
  · intro h
    obtain ⟨⟨root, ofProject⟩, hproject⟩ :=
      checkProject_answers.2 ⟨h.root, h.navigation, h.redirects⟩
    have hpath := h.path
    rw [rootOf_eq hproject] at hpath
    obtain ⟨path, hpath⟩ := checkPath_answers.2 hpath
    obtain ⟨checker, hchecker⟩ := checkLinkChecker_answers.2 ⟨h.excludeDirs, h.maxFileSize⟩
    obtain ⟨logging, hlogging⟩ := checkLogging_answers.2 h.level
    obtain ⟨unknown, hunknown⟩ := checkUnknown_answers.2 h.unknown
    exact ⟨_, bind_eq_ok_iff.2 ⟨_, hproject, bind_eq_ok_iff.2 ⟨_, hpath,
      bind_eq_ok_iff.2 ⟨_, hchecker, bind_eq_ok_iff.2 ⟨_, hlogging,
        bind_eq_ok_iff.2 ⟨_, hunknown, rfl⟩⟩⟩⟩⟩⟩

end DocLinks.Config
