import DocLinks.Proofs.Check.Memories
import DocLinks.Proofs.Check.Tables
import DocLinks.Proofs.Check.Writes

/-!
# Checks do not depend on what came before

A checker lives longer than a tree stays the same: others change documents, and it is called to check and
to fix, any number of times. What it reports then is what a checker reports that is made now
(`check_eq_of_history`). Up to what it remembers of the files it still is the checker that its
configuration makes of the tree (`IsCurrent`), and a check does not depend on memories
(`Checker.alike_check`).

The redirects are read when a checker is made, and later by the checker itself only, so this is for a
file of redirects that others leave alone, that is not among the documents that are fixed, and that can
still be read when redirects have been recorded in it.

## Contents
- `createdIn_of_createdIn`: the checker of a configuration on another tree.
- `IsCurrent`: what a sequence of calls keeps.
- `fix_stages`, `readFrom_fix`: the table of the redirects after fixing.
- `ChangedByOthers`, `History`: what a checker has been through.
- `check_eq_of_history`: checks after that.
-/

namespace DocLinks.Checker

open FileTree Work

variable {σ τ : Type} {t u : FileTree} {c : Dict} {s : Checker} {w v : Workspace Checker}

/-! ## Making the same checker again -/

/-- A root is validated on another tree if what it resolves to is a folder there. -/
theorem validateRoot_of_folder {root p : FilePath} (h : validateRoot t root = .ok p)
    (hcwd : u.cwd = t.cwd) (hfolder : u.stat p = .ok .folder) : validateRoot u root = .ok p := by
  unfold validateRoot at h ⊢
  split at h
  · cases h
  · rename_i hnull
    have hp : root.resolve t.cwd = p := by
      simp only at h
      split at h
      · cases h
      · cases h
      · cases h
      · exact Except.ok.inj h
    rw [if_neg hnull, hcwd, hp]
    simp only [probe_eq_some_iff.2 hfolder]

/-- The places of a project depend on its root only. -/
theorem placesOf_of_folder {places : Places} (h : placesOf t c = .ok places) (hcwd : u.cwd = t.cwd)
    (hfolder : u.stat places.root = .ok .folder) : placesOf u c = .ok places := by
  have hcontained : ∀ path container, validateContained u path container
      = validateContained t path container := by
    intro path container
    unfold validateContained
    rw [hcwd]
  rw [placesOf_eq_ok_iff] at h ⊢
  obtain ⟨⟨v, path, hv, hpath, hroot⟩, hnavigation, hredirects⟩ := h
  simp only [hcontained]
  exact ⟨⟨v, path, hv, hpath, validateRoot_of_folder hroot hcwd hfolder⟩, hnavigation, hredirects⟩

/-- **The checker of a configuration on another tree** has the table of the other tree, and is the same
otherwise. -/
theorem createdIn_of_createdIn (h : createdIn t c = .ok s) (hcwd : u.cwd = t.cwd)
    (hfolder : u.stat s.context.root = .ok .folder) {table : RedirectTable}
    (htable : tableIn u s.redirectsPath = .ok table) :
    createdIn u c = .ok { s with context := { s.context with table := some table } } := by
  obtain ⟨places, settings, _, dirs, items, hplaces, hsettings, hsize, -, hdirs, hitems, hroot, hs⟩ :=
    createdIn_inv h
  rw [hs] at hfolder htable ⊢
  unfold createdIn Context.create
  rw [placesOf_of_folder hplaces hcwd hfolder, Config.ok_bind, hsettings, Config.ok_bind, hsize,
    Config.ok_bind, htable, Config.ok_bind, hdirs, Config.ok_bind, hitems, Config.ok_bind,
    validateRoot_of_folder hroot hcwd hfolder]
  rfl

/-! ## Checkers that are current -/

/-- A checker that remembers nothing of the files. -/
def reset (s : Checker) : Checker := { s with context := s.context.reset }

/-- A checker that is what its configuration makes of the tree now, up to what it remembers of the
files. -/
def IsCurrent (c : Dict) (w : Workspace Checker) : Prop := createdIn w.tree c = .ok w.scope.reset

/-- The table of a checker is the one that its file has now. -/
abbrev HasTable (w : Workspace Checker) : Prop := ReadFrom w.scope.redirectsPath (contextOf w)

theorem IsCurrent.root (h : IsCurrent c w) : w.tree.stat w.scope.context.root = .ok .folder := by
  obtain ⟨places, _, _, _, _, -, -, -, -, -, -, hroot, hs⟩ := createdIn_inv h
  have hsame : w.scope.context.root = places.root := congrArg (·.context.root) hs
  rw [hsame]
  exact (validateRoot_ok hroot).2

theorem IsCurrent.hasTable (h : IsCurrent c w) : HasTable w := by
  obtain ⟨places, _, table, _, _, -, -, -, htable, -, -, -, hs⟩ := createdIn_inv h
  have hpath : w.scope.redirectsPath = places.redirects := congrArg (·.redirectsPath) hs
  refine ⟨table, congrArg (·.context.table) hs, ?_⟩
  rw [hpath]
  exact htable

/-- A checker that has just been made is current: it remembers nothing. -/
theorem isCurrent_of_createdIn {log : List LogRecord} (h : createdIn t c = .ok s) :
    IsCurrent c ⟨t, s, log⟩ := by
  have hreset : s.reset = s := by
    obtain ⟨places, _, table, _, _, -, -, -, -, -, -, -, hs⟩ := createdIn_inv h
    rw [hs]
    rfl
  unfold IsCurrent
  rw [hreset]
  exact h

/-- **What keeps a checker current**: its settings stay, its root is a folder, and its table is that of
its file. -/
theorem IsCurrent.of_change (h : IsCurrent c w) (hset : v.scope.IsSetAs w.scope)
    (hcwd : v.tree.cwd = w.tree.cwd) (hfolder : v.tree.stat w.scope.context.root = .ok .folder)
    (htable : HasTable v) : IsCurrent c v := by
  obtain ⟨table, hv, hin⟩ := htable
  have hpath : v.scope.redirectsPath = w.scope.redirectsPath := by rw [hset.scope]
  rw [hpath] at hin
  have hmade := createdIn_of_createdIn h hcwd hfolder hin
  have hcontext : v.scope.context.reset
      = { w.scope.context.reset with table := some table } := by
    unfold Context.reset Context.clearHeadings Context.clearIndex
    rw [hset.root, hset.excludeDirs, show v.scope.context.table = some table from hv]
  have hsame : v.scope.reset
      = { w.scope.reset with context := { w.scope.context.reset with table := some table } } := by
    unfold reset
    rw [hcontext, hset.scope]
  unfold IsCurrent
  rw [hsame]
  exact hmade

theorem KeepsChecker.hasTable (h : KeepsChecker w v) (hw : HasTable w) : HasTable v := by
  have hpath : v.scope.redirectsPath = w.scope.redirectsPath := by rw [h.scope]
  unfold HasTable
  rw [hpath]
  apply hw.congr
  · exact h.table
  · show v.tree.fileAt? _ = w.tree.fileAt? _
    rw [h.tree]

theorem IsCurrent.of_keeps (h : IsCurrent c w) (hkeep : KeepsChecker w v) : IsCurrent c v := by
  apply h.of_change ⟨hkeep.scope, hkeep.root, hkeep.excludeDirs⟩
  · rw [hkeep.tree]
  · rw [hkeep.tree]
    exact h.root
  · exact hkeep.hasTable h.hasTable

/-! ## Fixing -/

/-- The fixes of a report that are accepted. -/
def acceptedFixes (s : Checker) (report : CheckReport) (tier : Option Value)
    (approve : Option (SuggestedFix → Bool)) : Except Fault (List SuggestedFix) := do
  let decisions ← report.fixable.mapM (decide (decisionConfig s.config tier) approve)
  return (decisions.filter (·.accepted)).map (·.fix)

variable {report : CheckReport} {tier : Option Value} {approve : Option (SuggestedFix → Bool)}

/-- **The stages of fixing a report**, however it ends: a batch of the accepted fixes changes the project,
and nothing else does. -/
theorem fix_stages (report : CheckReport) (tier : Option Value)
    (approve : Option (SuggestedFix → Bool)) (w : Workspace Checker) :
    KeepsChecker w (fix (some report) tier approve w).2 ∨
      ∃ fixes wanted, acceptedFixes w.scope report tier approve = .ok fixes ∧
        KeepsChecker (onContext (applyFixesWithRedirects fixes wanted) w).2
          (fix (some report) tier approve w).2 := by
  have hR := keepsChecker_isPreorder
  unfold fix
  simp only
  rw [bind_run_of_ok (pure_run report w), bind_run_of_ok (scope_run w)]
  rcases hdecisions : report.fixable.mapM (decide (decisionConfig w.scope.config tier) approve)
    with f | decisions
  · left
    rw [bind_run, ofExcept_run]
    exact hR.refl w
  · rw [bind_ofExcept_run rfl]
    have haccepted : acceptedFixes w.scope report tier approve
        = .ok ((decisions.filter (·.accepted)).map (·.fix)) := by
      unfold acceptedFixes
      rw [hdecisions]
      rfl
    generalize (decisions.filter (·.accepted)).map (·.fix) = fixes at haccepted
    split
    · left
      exact Sat.bind hR (keeps_sayChecker _) (fun _ => Sat.pure hR _) w
    · rcases hwanted : wantsRedirects w.scope.config with f | wanted
      · left
        rw [bind_run, ofExcept_run]
        exact hR.refl w
      · right
        refine ⟨fixes, wanted, haccepted, ?_⟩
        rw [bind_ofExcept_run rfl, bind_run]
        rcases onContext (applyFixesWithRedirects fixes wanted) w with ⟨f | batch, u⟩
        · exact hR.refl u
        · exact Sat.bind hR (keeps_onContext (keeps_modifyHeadings _)) (fun _ =>
            Sat.bind hR (keeps_sayDone _ _ _) fun _ => Sat.pure hR _) u

/-- Fixing the documents of a report leaves the file of the redirects as it is. -/
def LeavesRedirects (w : Workspace Checker) (report : CheckReport) (tier : Option Value)
    (approve : Option (SuggestedFix → Bool)) : Prop :=
  ∀ fixes, acceptedFixes w.scope report tier approve = .ok fixes →
    (applyFixes w.scope.context.root fixes (contextOf w)).2.tree.fileAt? w.scope.redirectsPath
      = w.tree.fileAt? w.scope.redirectsPath

/-- It does if the file of the redirects is none of the documents. -/
theorem leavesRedirects_of_details
    (h : ∀ d ∈ report.details, ∀ place,
      w.tree.placeOf (projectPath w.scope.context.root d.broken.sourceFile) = .ok place →
        w.tree.placeOf w.scope.redirectsPath ≠ .ok place) :
    LeavesRedirects w report tier approve := by
  intro fixes hfixes
  obtain ⟨decisions, hdecisions, hfixes⟩ := Config.bind_eq_ok_iff.1 hfixes
  cases hfixes
  apply fileAt?_of_changes
  show ChangesTree _ (contextOf w) _
  apply changes_applyFixes
  intro f hf place hplace
  obtain ⟨d, hd, hbroken⟩ := exists_detail ((accepted_sublist hdecisions).subset hf)
  rw [← hbroken] at hplace
  exact h d hd place hplace

/-- It does for the report of a check if the file of the redirects is not scanned. -/
theorem leavesRedirects_of_check (hcheck : check w = (.ok report, v)) {pages : List String}
    (hpages : w.scope.pagesOf w.tree = .ok pages)
    (h : ∀ page ∈ pages, ∀ place,
      w.tree.placeOf (projectPath w.scope.context.root page) = .ok place →
        w.tree.placeOf w.scope.redirectsPath ≠ .ok place) :
    LeavesRedirects v report tier approve := by
  obtain ⟨hkeep, pages', hpages', hdetails, -⟩ := check_ok hcheck
  obtain rfl : pages = pages' := Except.ok.inj (hpages.symm.trans hpages')
  have hpath : v.scope.redirectsPath = w.scope.redirectsPath := by rw [hkeep.scope]
  apply leavesRedirects_of_details
  intro d hd place hplace
  rw [hkeep.tree, hkeep.root] at hplace
  rw [hkeep.tree, hpath]
  have hmem : d.broken ∈ brokenLinks (w.scope.verdictsOf w.tree pages) := by
    rw [← hdetails]
    exact List.mem_map_of_mem hd
  exact h _ (exists_text_of_broken (broken_of_mem_brokenLinks hmem)).1 place hplace

/-- The file of the redirects can be read, if it is there. -/
def RedirectsFit (w : Workspace Checker) : Prop := w.tree.Fits w.scope.redirectsPath

/-- **Fixing a report keeps the table up to date**, however it ends. -/
theorem hasTable_fix (h : HasTable w) (hleaves : LeavesRedirects w report tier approve)
    (hfits : RedirectsFit (fix (some report) tier approve w).2) :
    HasTable (fix (some report) tier approve w).2 := by
  rcases fix_stages report tier approve w with hkeep | ⟨fixes, wanted, haccepted, hkeep⟩
  · exact hkeep.hasTable h
  · apply hkeep.hasTable
    apply readFrom_applyFixesWithRedirects h (hleaves fixes haccepted)
    have hpath : (fix (some report) tier approve w).2.scope.redirectsPath = w.scope.redirectsPath := by
      rw [hkeep.scope]
      rfl
    unfold RedirectsFit at hfits
    rw [hkeep.tree, hpath] at hfits
    exact hfits

/-- **Fixing a report keeps a checker current.** -/
theorem IsCurrent.fixReport (h : IsCurrent c w) (hleaves : LeavesRedirects w report tier approve)
    (hfits : RedirectsFit (fix (some report) tier approve w).2) :
    IsCurrent c (fix (some report) tier approve w).2 := by
  -- Wherever the documents of the report are, the settings stay and no folder goes.
  have hconfined : Confined (fun _ => True) w (fix (some report) tier approve w).2 :=
    confined_fix (fun _ _ _ _ => trivial) (fun _ _ _ _ => trivial) tier approve
  have hshape := hconfined.tree.shape
  apply h.of_change hconfined.settings hshape.cwd
  · exact stat_folder_of_folders hshape.cwd (fun _ => hshape.node?_folder) h.root
  · exact hasTable_fix h.hasTable hleaves hfits

/-! ## Histories -/

/-- Others have changed the tree: any files and folders may have come, gone or changed, but the root of a
checker is a folder still, and the file of its redirects, or that there is none, is as it was. -/
structure ChangedByOthers (s : Checker) (t u : FileTree) : Prop where
  cwd : u.cwd = t.cwd
  root : u.stat s.context.root = .ok .folder
  redirects : u.fileAt? s.redirectsPath = t.fileAt? s.redirectsPath

/-- Documents that come, go or change are such a change, as long as no folder goes with them. -/
theorem changedByOthers_of_folders (h : IsCurrent c w) (hcwd : u.cwd = w.tree.cwd)
    (hfolders : ∀ place, w.tree.node? place = some .folder → u.node? place = some .folder)
    (hredirects : u.fileAt? w.scope.redirectsPath = w.tree.fileAt? w.scope.redirectsPath) :
    ChangedByOthers w.scope w.tree u :=
  ⟨hcwd, stat_folder_of_folders hcwd hfolders h.root, hredirects⟩

/-- Fixing changes the file of the redirects by recording redirects only: the documents of the report that
is given, or of the new one if none is given, are fixed without changing it. -/
def OnlyRecords (w : Workspace Checker) (report : Option CheckReport) (tier : Option Value)
    (approve : Option (SuggestedFix → Bool)) : Prop :=
  match report with
  | some report => LeavesRedirects w report tier approve
  | none => ∀ report v, check w = (.ok report, v) → LeavesRedirects v report tier approve

/-- What a checker may have been through: changes by others, checks and fixes with any arguments, in any
order and however they ended. The file of the redirects is changed by recording redirects only, and can
be read then. -/
inductive History (w₀ : Workspace Checker) : Workspace Checker → Prop where
  | start : History w₀ w₀
  | others {w : Workspace Checker} (h : History w₀ w) {t : FileTree}
      (hchanged : ChangedByOthers w.scope w.tree t) : History w₀ { w with tree := t }
  | check {w : Workspace Checker} (h : History w₀ w) : History w₀ (check w).2
  | fix {w : Workspace Checker} (h : History w₀ w) (report : Option CheckReport) (tier : Option Value)
      (approve : Option (SuggestedFix → Bool)) (honly : OnlyRecords w report tier approve)
      (hfits : RedirectsFit (fix report tier approve w).2) : History w₀ (fix report tier approve w).2

theorem IsCurrent.others (h : IsCurrent c w) (hchanged : ChangedByOthers w.scope w.tree t) :
    IsCurrent c { w with tree := t } := by
  have htable : HasTable { w with tree := t } := h.hasTable.congr rfl hchanged.redirects
  exact h.of_change (v := { w with tree := t }) (.refl _) hchanged.cwd hchanged.root htable

/-- Fixing without a report is a check, and fixing its report if there is one. -/
theorem IsCurrent.fix (h : IsCurrent c w) {report : Option CheckReport}
    (honly : OnlyRecords w report tier approve) (hfits : RedirectsFit (fix report tier approve w).2) :
    IsCurrent c (fix report tier approve w).2 := by
  cases report with
  | some report => exact h.fixReport honly hfits
  | none =>
    have hnone : Checker.fix none tier approve w
        = (Checker.check >>= fun r => Checker.fix (some r) tier approve) w := rfl
    rw [hnone, bind_run] at hfits ⊢
    have hchecked := h.of_keeps (keeps_check w)
    rcases hrun : Checker.check w with ⟨f | report, v⟩
    · -- The check has ended with a fault, and nothing is fixed.
      rw [hrun] at hchecked
      exact hchecked
    · rw [hrun] at hchecked hfits
      exact hchecked.fixReport (honly report v hrun) hfits

/-- **A checker stays current** whatever it has been through. -/
theorem History.isCurrent {w₀ : Workspace Checker} (h : History w₀ w) (h₀ : IsCurrent c w₀) :
    IsCurrent c w := by
  induction h with
  | start => exact h₀
  | others _ hchanged ih => exact ih.others hchanged
  | check _ ih => exact ih.of_keeps (keeps_check _)
  | fix _ report tier approve honly hfits ih => exact ih.fix honly hfits

/-! ## Checks after a history -/

/-- A check tells nothing of what is remembered. -/
theorem check_reset (w : Workspace Checker) (log : List LogRecord) :
    (check w).1 = (check ⟨w.tree, w.scope.reset, log⟩).1 := by
  have hsame : SameProject (fun _ _ => True) w ⟨w.tree, w.scope.reset, log⟩ :=
    ⟨rfl, rfl, rfl, trivial, trivial⟩
  exact (alike_check w _ hsame).1

theorem create_fst {config : Value} (hmerge : Config.mergeWithDefaults config = .ok c)
    (w : Workspace σ) : (create config w).1 = createdIn w.tree c := by
  obtain ⟨log, hrun⟩ := ofMerged_run c w
  unfold create
  rw [bind_ofExcept_run hmerge, hrun]

/-- **Checks do not depend on what came before.** A checker is made of any configuration; then others
change the tree, and the checker is called to check and to fix, any number of times. What a check reports
after that, or the fault that it ends with, is that of a checker that is made of the configuration now. -/
theorem check_eq_of_history {config : Value} {w₀ : Workspace σ} (hs : (create config w₀).1 = .ok s)
    {log : List LogRecord} (h : History ⟨w₀.tree, s, log⟩ w) {v₀ : Workspace τ}
    (hv : v₀.tree = w.tree) :
    ∃ s', (create config v₀).1 = .ok s' ∧ ∀ log', (check w).1 = (check ⟨v₀.tree, s', log'⟩).1 := by
  rcases hmerge : Config.mergeWithDefaults config with f | c
  · -- Without a merged configuration no checker has been made.
    unfold create at hs
    rw [bind_run, hmerge] at hs
    cases hs
  · rw [create_fst hmerge] at hs
    have hcurrent : IsCurrent c w := h.isCurrent (isCurrent_of_createdIn hs)
    refine ⟨w.scope.reset, ?_, fun log' => ?_⟩
    · rw [create_fst hmerge, hv]
      exact hcurrent
    · rw [hv]
      exact check_reset w log'

/-- A project at `/p` with a page, and a file of redirects without entries. -/
def recordingTree (page : String) : FileTree where
  nodes :=
    [(["p"], .folder), (["p", "nav"], .file (.text "")),
      (["p", ".gitbook.yaml"], .file (.text "redirects:\n")), (["p", "docs"], .folder),
      (["p", "docs", "a.md"], .file (.text page))]
  cwd := ["p"]
  home := []

/-- The file of its redirects. -/
def recordingFile : FilePath := .absolute ["p", ".gitbook.yaml"]

/-- A checker has checked the page, others have broken its link, and the checker has fixed it and recorded
a redirect. -/
theorem check_eq_of_history_recordedRedirect :
    ∃ s w s',
      (create (folderConfig "docs") (⟨recordingTree "[x](a.md)", (), []⟩ : Workspace Unit)).1 = .ok s ∧
      History ⟨recordingTree "[x](a.md)", s, []⟩ w ∧
      w.tree.fileAt? recordingFile = some (.text "redirects:\n  b/a: docs/a.md\n") ∧
      (create (folderConfig "docs") (⟨w.tree, (), []⟩ : Workspace Unit)).1 = .ok s' ∧
      (check w).1 = (check ⟨w.tree, s', []⟩).1 := by
  -- What is computed: the checker, the pages, and the file of the redirects in the end.
  obtain ⟨s, hs, hroot, hredirects, hpages, hpath, hfile⟩ : ∃ s,
      (create (folderConfig "docs") (⟨recordingTree "[x](a.md)", (), []⟩ : Workspace Unit)).1 = .ok s ∧
      s.context.root = .absolute ["p"] ∧ s.redirectsPath = recordingFile ∧
      (s.pagesOf (recordingTree "[x](b/a.md)")).toOption = some ["docs/a.md"] ∧
      (fix none (some (.text "medium")) none
        { (check ⟨recordingTree "[x](a.md)", s, []⟩).2 with
          tree := recordingTree "[x](b/a.md)" }).2.scope.redirectsPath = recordingFile ∧
      (fix none (some (.text "medium")) none
        { (check ⟨recordingTree "[x](a.md)", s, []⟩).2 with
          tree := recordingTree "[x](b/a.md)" }).2.tree.fileAt? recordingFile
        = some (.text "redirects:\n  b/a: docs/a.md\n") :=
    ⟨_, rfl, rfl, rfl, by decide +kernel, by decide +kernel, by decide +kernel⟩
  have hkeep := keeps_check ⟨recordingTree "[x](a.md)", s, []⟩
  have hchecked : History ⟨recordingTree "[x](a.md)", s, []⟩
      (check ⟨recordingTree "[x](a.md)", s, []⟩).2 := .check .start
  generalize (check ⟨recordingTree "[x](a.md)", s, []⟩).2 = w₁ at hkeep hchecked hpath hfile
  have hroot₁ : w₁.scope.context.root = .absolute ["p"] := hkeep.root.trans hroot
  have hredirects₁ : w₁.scope.redirectsPath = recordingFile := by
    rw [hkeep.scope]
    exact hredirects
  have hchanged : ChangedByOthers w₁.scope w₁.tree (recordingTree "[x](b/a.md)") := by
    rw [hkeep.tree]
    refine ⟨rfl, ?_, ?_⟩
    · rw [hroot₁]
      rfl
    · rw [hredirects₁]
      rfl
  have hpages₁ : w₁.scope.pagesOf (recordingTree "[x](b/a.md)") = .ok ["docs/a.md"] := by
    unfold pagesOf
    rw [hkeep.root, hkeep.excludeDirs, hkeep.scope]
    exact Work.eq_ok_of_toOption hpages
  -- The only page is not the file of the redirects.
  have honly : OnlyRecords { w₁ with tree := recordingTree "[x](b/a.md)" } none
      (some (.text "medium")) none := by
    intro report v hcheck
    apply leavesRedirects_of_check hcheck hpages₁
    intro page hpage place hplace
    obtain rfl := List.mem_singleton.1 hpage
    have hpagePlace : (recordingTree "[x](b/a.md)").placeOf
        (projectPath (.absolute ["p"]) "docs/a.md") = .ok ["p", "docs", "a.md"] :=
      Work.eq_ok_of_toOption (by decide +kernel)
    have hfilePlace : (recordingTree "[x](b/a.md)").placeOf recordingFile
        = .ok ["p", ".gitbook.yaml"] := Work.eq_ok_of_toOption (by decide +kernel)
    simp only [hroot₁] at hplace
    simp only [hredirects₁, hfilePlace]
    cases hpagePlace.symm.trans hplace
    intro h
    exact absurd (Except.ok.inj h) (by decide)
  have hfits : RedirectsFit (fix none (some (.text "medium")) none
      { w₁ with tree := recordingTree "[x](b/a.md)" }).2 := by
    intro c hc
    rw [hpath] at hc
    cases hfile.symm.trans hc
    decide
  have hhistory := (hchecked.others hchanged).fix none (some (.text "medium")) none honly hfits
  generalize (fix none (some (.text "medium")) none
    { w₁ with tree := recordingTree "[x](b/a.md)" }).2 = w at hfile hhistory
  have hv : (⟨w.tree, (), []⟩ : Workspace Unit).tree = w.tree := rfl
  obtain ⟨s', hs', hsame⟩ := check_eq_of_history hs hhistory hv
  exact ⟨s, w, s', hs, hhistory, hfile, hs', hsame []⟩

end DocLinks.Checker
