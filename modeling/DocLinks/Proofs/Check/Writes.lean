import DocLinks.Proofs.Check.CheckThenFix
import DocLinks.Proofs.Check.Places
import DocLinks.Proofs.Fix.Writes

/-!
# Where a checker writes

A checker writes over pages and over the file of its redirects, whatever it is asked to do and however
that ends. The file of the redirects lies below the root. The pages lie where the folder that is
scanned leads from the root, which is not checked when a checker is made: if that is below the root,
then so is everything that is written (`written_below_root`).

## Contents
- `pagesPlace`, `IsCovered`: where pages and redirects are.
- `confined_fix`: a single call.
- `Reached`, `Reached.within`: any sequence of calls.
- `written_below_root`: checkers that are made of a configuration.
-/

namespace DocLinks.Checker

open FileTree Work

variable {σ : Type} {t u : FileTree} {s : Checker} {w v : Workspace Checker}

/-! ## Pages and redirects -/

/-- The place that the pages of a folder lie below: where its names lead from the root. -/
def pagesPlace (root : FilePath) (folder : Option String) : List String :=
  FilePath.resolveNames (root.names ++ frontNames folder)

/-- A place below the root of a checker or below its pages. -/
def IsCovered (s : Checker) (place : List String) : Prop :=
  s.context.root.names <+: place ∨
    ∃ folder, scanFolder s.scanPath = .ok folder ∧ pagesPlace s.context.root folder <+: place

/-- The folder that is scanned does not lead out of the root. -/
def ScansInside (s : Checker) : Prop :=
  ∀ folder, scanFolder s.scanPath = .ok folder →
    s.context.root.names <+: pagesPlace s.context.root folder

theorem IsCovered.below_root {place : List String} (h : s.IsCovered place) (hscan : s.ScansInside) :
    s.context.root.names <+: place := by
  rcases h with h | ⟨folder, hfolder, h⟩
  · exact h
  · exact (hscan folder hfolder).trans h

theorem IsCovered.of_isSetAs {s' : Checker} {place : List String} (hset : s'.IsSetAs s)
    (h : s'.IsCovered place) : s.IsCovered place := by
  obtain ⟨hscope, hroot, -⟩ := hset
  have hpath : s'.scanPath = s.scanPath := by rw [hscope]
  unfold IsCovered at h ⊢
  rwa [hroot, hpath] at h

/-- **Pages** are where the scanned folder leads. -/
theorem isCovered_of_page (hs : s.IsPlaced) (ht : t.Proper) {pages : List String}
    (hpages : s.pagesOf t = .ok pages) {page : String} (hpage : page ∈ pages) {place : List String}
    (hplace : t.placeOf (projectPath s.context.root page) = .ok place) : s.IsCovered place := by
  obtain ⟨folder, hfolder, hpages⟩ := pagesOf_eq_ok hpages
  obtain ⟨spell, hspell⟩ := exists_of_mem_markdownFiles ht hpages
  obtain ⟨names, -, hnames, hpath, -⟩ := hspell page hpage
  obtain ⟨above, habove, rfl⟩ := placeOf_down hnames hpath hplace
  refine .inr ⟨folder, hfolder, ?_⟩
  -- What a walk along the root and the folder comes to is told by their names alone.
  have hwalk := walk_eq habove
  rw [start, if_pos hs.root.isAbsolute] at hwalk
  have hsame : pagesPlace s.context.root folder = above := hwalk.symm
  rw [hsame]
  exact List.prefix_append _ _

/-- **The file of the redirects** lies below the root. -/
theorem isCovered_of_redirects (hs : s.IsPlaced) {place : List String}
    (hplace : t.placeOf s.redirectsPath = .ok place) : s.IsCovered place := by
  rw [place_of_isResolved hs.redirects hplace]
  exact .inl (List.isPrefixOf_iff_prefix.1 hs.redirectsBelow)

/-! ## Single calls -/

/-- Files have changed at certain places only, and the settings are the same, up to what is remembered
of the files. -/
structure Confined (P : List String → Prop) (w v : Workspace Checker) : Prop where
  tree : ChangesWithin P w.tree v.tree
  settings : v.scope.IsSetAs w.scope
  file : v.scope.context.table.bind (·.file) = w.scope.context.table.bind (·.file)

section Confined

variable {P : List String → Prop}

theorem confined_isPreorder : IsPreorder (Confined P) where
  refl w := ⟨.refl P w.tree, .refl w.scope, rfl⟩
  trans h h' := ⟨h.tree.trans h'.tree, h'.settings.trans h.settings, h'.file.trans h.file⟩

theorem KeepsChecker.confined (h : KeepsChecker w v) : Confined P w v :=
  ⟨.of_eq h.tree, ⟨h.scope, h.root, h.excludeDirs⟩, by rw [h.table]⟩

theorem confined_onContext {α : Type} {x : Work Context α}
    (h : KeepsTable P ⟨w.tree, w.scope.context, w.log⟩ (x ⟨w.tree, w.scope.context, w.log⟩).2) :
    Confined P w (onContext x w).2 :=
  ⟨h.tree, ⟨rfl, h.root, h.excludeDirs⟩, h.file⟩

/-- The source of a fix of a report is that of a detail. -/
theorem exists_detail {report : CheckReport} {f : SuggestedFix} (h : f ∈ report.fixable) :
    ∃ d ∈ report.details, d.broken = f.broken := by
  obtain ⟨d, hd, hsome⟩ := List.mem_filterMap.1 h
  obtain ⟨_, -, rfl⟩ := Option.map_eq_some_iff.1 hsome
  exact ⟨d, hd, rfl⟩

/-- **Fixing a report** changes its documents and the file of the redirects only, however it ends. -/
theorem confined_fix {report : CheckReport}
    (hdocuments : ∀ d ∈ report.details, ∀ place,
      w.tree.placeOf (projectPath w.scope.context.root d.broken.sourceFile) = .ok place → P place)
    (hredirects : ∀ file, w.scope.context.table.bind (·.file) = some file →
      ∀ place, w.tree.placeOf file = .ok place → P place)
    (tier : Option Value) (approve : Option (SuggestedFix → Bool)) :
    Confined P w (fix (some report) tier approve w).2 := by
  have hR : IsPreorder (Confined P) := confined_isPreorder
  unfold fix
  simp only
  rw [bind_run_of_ok (pure_run report w), bind_run_of_ok (scope_run w)]
  refine hR.bind (hR.refl w) fun decisions u hdecisions => ?_
  rw [ofExcept_run] at hdecisions
  obtain ⟨hmap, rfl⟩ := Prod.mk.inj hdecisions
  -- Fixes that are accepted are fixes of the report, so their documents are too.
  have hsub := accepted_sublist hmap
  generalize (decisions.filter (·.accepted)).map (·.fix) = fixes at hsub
  split
  · exact KeepsChecker.confined ((Sat.bind keepsChecker_isPreorder (keeps_sayChecker _) fun _ =>
      Sat.pure keepsChecker_isPreorder _) w)
  · refine hR.bind (hR.refl w) fun wanted u hwanted => ?_
    rw [ofExcept_run] at hwanted
    obtain ⟨-, rfl⟩ := Prod.mk.inj hwanted
    have happly := confined_onContext (changes_applyFixesWithRedirects
      (w := ⟨w.tree, w.scope.context, w.log⟩) (fun f hf place hplace => by
        obtain ⟨d, hd, hbroken⟩ := exists_detail (hsub.subset hf)
        rw [← hbroken] at hplace
        exact hdocuments d hd place hplace) hredirects wanted)
    refine hR.bind happly fun batch v _ => ?_
    exact KeepsChecker.confined ((Sat.bind keepsChecker_isPreorder
      (keeps_onContext (keeps_modifyHeadings _)) fun _ => Sat.bind keepsChecker_isPreorder
        (keeps_sayDone _ _ _) fun _ => Sat.pure keepsChecker_isPreorder _) v)

end Confined

/-- The documents of a report are where a checker has its pages. -/
def ReportsPages (t : FileTree) (s : Checker) (report : CheckReport) : Prop :=
  ∀ d ∈ report.details, ∀ place,
    t.placeOf (projectPath s.context.root d.broken.sourceFile) = .ok place → s.IsCovered place

theorem reportsPages_of_check (hs : w.scope.IsPlaced) (ht : w.tree.Proper) {report : CheckReport}
    (h : check w = (.ok report, v)) : ReportsPages w.tree w.scope report := by
  obtain ⟨-, pages, hpages, hdetails, -⟩ := check_ok h
  intro d hd place hplace
  have hmem : d.broken ∈ brokenLinks (w.scope.verdictsOf w.tree pages) := by
    rw [← hdetails]
    exact List.mem_map_of_mem hd
  exact isCovered_of_page hs ht hpages (exists_text_of_broken (broken_of_mem_brokenLinks hmem)).1 hplace

/-! ## Sequences of calls -/

/-- What a sequence of calls leads to from a workspace: the reports that there have been, and the
workspace. A report can be fixed any number of times and at any time after its check. -/
inductive Reached (w₀ : Workspace Checker) : List CheckReport → Workspace Checker → Prop where
  | start : Reached w₀ [] w₀
  | check {reports : List CheckReport} {w : Workspace Checker} (h : Reached w₀ reports w) :
      Reached w₀ ((check w).1.toOption.toList ++ reports) (check w).2
  | fix {reports : List CheckReport} {w : Workspace Checker} (h : Reached w₀ reports w)
      (report : Option CheckReport) (hreport : ∀ r, report = some r → r ∈ reports)
      (tier : Option Value) (approve : Option (SuggestedFix → Bool)) :
      Reached w₀ reports (fix report tier approve w).2

/-- A checker that is ready to be called: its places are below its root, its redirects are recorded
there only, and the tree has names that files can have. -/
structure IsReady (w : Workspace Checker) : Prop where
  placed : w.scope.IsPlaced
  file : ∀ file, w.scope.context.table.bind (·.file) = some file → file = w.scope.redirectsPath
  proper : w.tree.Proper

/-- What a sequence of calls keeps: only files that are covered have changed, and the documents of all
reports are pages. -/
structure Within (w₀ : Workspace Checker) (reports : List CheckReport) (w : Workspace Checker) :
    Prop where
  confined : Confined w₀.scope.IsCovered w₀ w
  reports : ∀ r ∈ reports, ReportsPages w₀.tree w₀.scope r

variable {w₀ : Workspace Checker} {reports : List CheckReport}

theorem proper_of_sameShape (h : SameShape t u) (ht : t.Proper) : u.Proper := by
  intro e he
  have hkey : e.1 ∈ t.nodes.map Prod.fst := by
    rw [← h.keys]
    exact List.mem_map_of_mem he
  obtain ⟨e', he', heq⟩ := List.mem_map.1 hkey
  rw [← heq]
  exact ht e' he'

theorem Within.isReady (h : Within w₀ reports w) (hready : IsReady w₀) : IsReady w where
  placed := hready.placed.of_isSetAs h.confined.settings
  file := by
    intro file hfile
    have hpath : w.scope.redirectsPath = w₀.scope.redirectsPath := by rw [h.confined.settings.scope]
    rw [hpath]
    rw [h.confined.file] at hfile
    exact hready.file file hfile
  proper := proper_of_sameShape h.confined.tree.shape hready.proper

theorem Within.trans_confined (h : Within w₀ reports w) (hnext : Confined w₀.scope.IsCovered w v) :
    Within w₀ reports v :=
  ⟨confined_isPreorder.trans h.confined hnext, h.reports⟩

/-- The documents of a new report are pages as seen from the start. -/
theorem Within.reportsPages (h : Within w₀ reports w) (hready : IsReady w₀) {report : CheckReport}
    (hcheck : check w = (.ok report, v)) : ReportsPages w₀.tree w₀.scope report := by
  have hready' := h.isReady hready
  intro d hd place hplace
  -- No place has moved since the start, so it does not matter when one is looked up.
  rw [← h.confined.tree.shape.placeOf, ← h.confined.settings.root] at hplace
  exact (reportsPages_of_check hready'.placed hready'.proper hcheck d hd place hplace).of_isSetAs
    h.confined.settings

/-- **A check** keeps what has been reached. -/
theorem Within.check (h : Within w₀ reports w) (hready : IsReady w₀) :
    Within w₀ ((check w).1.toOption.toList ++ reports) (check w).2 := by
  refine ⟨(h.trans_confined (keeps_check w).confined).confined, fun r hr => ?_⟩
  rcases List.mem_append.1 hr with hr | hr
  · rcases hrun : Checker.check w with ⟨f | report, v⟩
    · rw [hrun] at hr
      cases hr
    · rw [hrun] at hr
      obtain rfl := List.mem_singleton.1 hr
      exact h.reportsPages hready hrun
  · exact h.reports r hr

/-- **Fixing a report** keeps what has been reached. -/
theorem Within.fixReport (h : Within w₀ reports w) (hready : IsReady w₀) {report : CheckReport}
    (hreport : ReportsPages w₀.tree w₀.scope report) (tier : Option Value)
    (approve : Option (SuggestedFix → Bool)) :
    Within w₀ reports (fix (some report) tier approve w).2 := by
  have hready' := h.isReady hready
  refine h.trans_confined (confined_fix (fun d hd place hplace => ?_) (fun file hfile place hplace => ?_)
    tier approve)
  · rw [h.confined.tree.shape.placeOf, h.confined.settings.root] at hplace
    exact hreport d hd place hplace
  · obtain rfl := hready'.file file hfile
    exact (isCovered_of_redirects hready'.placed hplace).of_isSetAs h.confined.settings

/-- Fixing without a report is a check, and fixing its report if there is one. -/
theorem Within.fix (h : Within w₀ reports w) (hready : IsReady w₀) (report : Option CheckReport)
    (hreport : ∀ r, report = some r → r ∈ reports) (tier : Option Value)
    (approve : Option (SuggestedFix → Bool)) : Within w₀ reports (fix report tier approve w).2 := by
  cases report with
  | some report => exact h.fixReport hready (h.reports report (hreport report rfl)) tier approve
  | none =>
    have hnone : Checker.fix none tier approve w
        = (Checker.check >>= fun r => Checker.fix (some r) tier approve) w := rfl
    rw [hnone, bind_run]
    have hkeep := h.trans_confined (keeps_check w).confined
    rcases hrun : Checker.check w with ⟨f | report, v⟩
    · rw [hrun] at hkeep
      exact hkeep
    · rw [hrun] at hkeep
      exact hkeep.fixReport hready (h.reportsPages hready hrun) tier approve

/-- **Any sequence of calls** changes covered files only. -/
theorem Reached.within (h : Reached w₀ reports w) (hready : IsReady w₀) : Within w₀ reports w := by
  induction h with
  | start => exact ⟨confined_isPreorder.refl w₀, nofun⟩
  | check _ ih => exact ih.check hready
  | fix _ report hreport tier approve ih => exact ih.fix hready report hreport tier approve

/-! ## Checkers that are made of a configuration -/

theorem create_ok {config : Value} {w₀ : Workspace σ} (h : (create config w₀).1 = .ok s) :
    ∃ c, createdIn w₀.tree c = .ok s := by
  unfold create at h
  rcases hmerge : Config.mergeWithDefaults config with f | c
  · rw [bind_run, hmerge] at h
    cases h
  · rw [bind_ofExcept_run hmerge] at h
    obtain ⟨log, hrun⟩ := ofMerged_run c w₀
    rw [hrun] at h
    exact ⟨c, h⟩

/-- **Writes stay inside the root** if the scanned folder does not lead out of it. A checker is made of
any configuration, and called any number of times, to check and to fix, with any tiers and approvals.
Then all that has changed are contents of files, and these files lie below the root. -/
theorem written_below_root {config : Value} {w₀ : Workspace σ} (hs : (create config w₀).1 = .ok s)
    (hscan : s.ScansInside) {t : FileTree} (ht : t.Proper) {log : List LogRecord}
    {reports : List CheckReport} {w : Workspace Checker} (h : Reached ⟨t, s, log⟩ reports w)
    {place : List String} (hchanged : w.tree.node? place ≠ t.node? place) :
    s.context.root.names <+: place ∧
      ∃ c c', t.node? place = some (.file c) ∧ w.tree.node? place = some (.file c') := by
  obtain ⟨c, hc⟩ := create_ok hs
  obtain ⟨hplaced, hfile⟩ := isPlaced_createdIn hc
  obtain ⟨hcovered, hfiles⟩ := (h.within ⟨hplaced, hfile, ht⟩).confined.tree.of_ne hchanged
  exact ⟨hcovered.below_root hscan, hfiles⟩

/-- A project at `/p`, with a page that has a broken link, and a folder beside the project, with a file
that has one. -/
def besideProject : Workspace Unit where
  tree :=
    { nodes := [(["p"], .folder), (["p", "nav"], .file (.text "")), (["p", "docs"], .folder),
        (["p", "docs", "a.md"], .file (.text "[x](../a.md)")), (["other"], .folder),
        (["other", "b.md"], .file (.text "[x](a.md)"))]
      cwd := ["p"]
      home := [] }
  scope := ()

/-- A configuration that sets the folder to be scanned. -/
def folderConfig (folder : String) : Value :=
  Config.textDict
    [("project", Config.textDict [("root", .text "/p"), ("navigation_file", .text "nav")]),
      ("link_checker", Config.textDict [("path", .text folder)])]

theorem written_below_root_docs :
    ∃ s reports w, (create (folderConfig "docs") besideProject).1 = .ok s ∧
      Reached ⟨besideProject.tree, s, []⟩ reports w ∧
      w.tree.node? ["p", "docs", "a.md"] = some (.file (.text "[x](./a.md)")) ∧
      s.context.root.names <+: ["p", "docs", "a.md"] := by
  obtain ⟨s, hs, hpath, hroot, hnode⟩ : ∃ s, (create (folderConfig "docs") besideProject).1 = .ok s ∧
      s.scanPath = .text "docs" ∧ s.context.root = .absolute ["p"] ∧
      (fix none (some (.text "medium")) none ⟨besideProject.tree, s, []⟩).2.tree.node?
        ["p", "docs", "a.md"] = some (.file (.text "[x](./a.md)")) :=
    ⟨_, rfl, rfl, rfl, by decide +kernel⟩
  have hscan : s.ScansInside := by
    intro folder hfolder
    rw [hpath] at hfolder
    cases hfolder
    rw [hroot]
    exact List.isPrefixOf_iff_prefix.1 (by decide +kernel)
  have hreached : Reached ⟨besideProject.tree, s, []⟩ []
      (fix none (some (.text "medium")) none ⟨besideProject.tree, s, []⟩).2 :=
    .fix .start none nofun (some (.text "medium")) none
  have hchanged : (fix none (some (.text "medium")) none ⟨besideProject.tree, s, []⟩).2.tree.node?
      ["p", "docs", "a.md"] ≠ besideProject.tree.node? ["p", "docs", "a.md"] := by
    rw [hnode]
    decide
  obtain ⟨hbelow, -⟩ := written_below_root hs hscan (by decide) hreached hchanged
  exact ⟨s, [], _, hs, hreached, hnode, hbelow⟩

/-- A checker that is told to scan the folder beside the project writes there. -/
theorem writes_beside_root :
    ∃ s reports w, (create (folderConfig "../other") besideProject).1 = .ok s ∧
      Reached ⟨besideProject.tree, s, []⟩ reports w ∧
      besideProject.tree.node? ["other", "b.md"] = some (.file (.text "[x](a.md)")) ∧
      w.tree.node? ["other", "b.md"] = some (.file (.text "[x](../p/docs/a.md)")) ∧
      ¬s.context.root.names <+: ["other", "b.md"] := by
  obtain ⟨s, hs, hroot, hnode⟩ : ∃ s, (create (folderConfig "../other") besideProject).1 = .ok s ∧
      s.context.root = .absolute ["p"] ∧
      (fix none (some (.text "medium")) none ⟨besideProject.tree, s, []⟩).2.tree.node?
        ["other", "b.md"] = some (.file (.text "[x](../p/docs/a.md)")) :=
    ⟨_, rfl, rfl, by decide +kernel⟩
  refine ⟨s, [], _, hs, .fix .start none nofun (some (.text "medium")) none, rfl, hnode, ?_⟩
  rw [hroot, ← List.isPrefixOf_iff_prefix]
  decide

end DocLinks.Checker
