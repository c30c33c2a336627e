import DocLinks.Proofs.Check.Reports
import DocLinks.Proofs.Check.Places

/-!
# When a check answers

A check passes over the pages that it cannot read, and lists them (`readDocuments_run`). What it does
not pass over are the folder that it scans, if the file system does not take its path, and the targets
of anchors: it reads them again to see their headings, and there a file that cannot be read ends the
check (`validateAllAnchors_answers_iff`).

## Contents
- `CanScan`, `searches_searchAllFixes`: searching suggestions.
- `headingsOf_of_remembered`, `headingsOf_of_no_file`, `headingsOf_of_file`: looking up headings.
- `HasReadableHeadings`, `validateAllAnchors_answers_iff`: the targets of anchors.
- `Checker.check_answers_iff`, `Checker.check_errors`: the whole check.
-/

namespace DocLinks

open Work

/-! ## Verdicts -/

theorem validateAll_run (fs : List FileLinks) (w : Workspace Context) :
    ∃ log, validateAll fs w
      = (.ok (validateFiles w.tree w.scope.root w.scope.table fs), { w with log }) := by
  unfold validateAll
  rw [bind_run_of_ok (scope_run w), bind_run_of_ok (tree_run w),
    bind_run_of_ok (forM_report_run _ w), bind_run_of_ok (report_run _ _)]
  exact ⟨_, rfl⟩

/-! ## Searching suggestions -/

/-- The pages of the project can be listed. -/
def CanScan (w : Workspace Context) : Prop :=
  ∃ files, w.tree.scan w.scope.root [".md"] w.scope.excludeDirs = .ok files

/-- A computation answers, and changes nothing but the index and the log. -/
def Searches {α : Type} (x : Work Context α) : Prop :=
  ∀ w, CanScan w → ∃ a index log,
    x w = (.ok a, { w with scope := { w.scope with index }, log })

namespace Searches

variable {α β : Type}

theorem pure (a : α) : Searches (Pure.pure a : Work Context α) :=
  fun w _ => ⟨a, w.scope.index, w.log, rfl⟩

theorem bind {x : Work Context α} {f : α → Work Context β} (hx : Searches x)
    (hf : ∀ a, Searches (f a)) : Searches (x >>= f) := by
  intro w hw
  obtain ⟨a, index, log, ha⟩ := hx w hw
  obtain ⟨b, index', log', hb⟩ := hf a { w with scope := { w.scope with index }, log } hw
  exact ⟨b, index', log', by rw [bind_run_of_ok ha, hb]⟩

theorem report (r : LogRecord) : Searches (Work.report r) :=
  fun w _ => ⟨(), w.scope.index, _, rfl⟩

theorem reports (rs : List LogRecord) : Searches (rs.forM Work.report) :=
  fun w _ => ⟨(), w.scope.index, _, forM_report_run rs w⟩

theorem scope : Searches (Work.scope : Work Context Context) :=
  fun w _ => ⟨w.scope, w.scope.index, w.log, rfl⟩

theorem tree : Searches (Work.tree : Work Context FileTree) :=
  fun w _ => ⟨w.tree, w.scope.index, w.log, rfl⟩

theorem clearIndex : Searches (modifyScope Context.clearIndex) :=
  fun w _ => ⟨(), none, w.log, rfl⟩

theorem fileIndex : Searches DocLinks.fileIndex := by
  rintro w ⟨files, hfiles⟩
  rcases hi : w.scope.index with _ | i
  · rw [fileIndex_run, hi, hfiles]
    exact ⟨_, _, _, rfl⟩
  · have hrun : DocLinks.fileIndex w = (.ok i, w) := by rw [fileIndex_run, hi]
    exact ⟨i, w.scope.index, w.log, hrun⟩

theorem surroundings (strategy : Strategy) : Searches (DocLinks.surroundings strategy) := by
  unfold DocLinks.surroundings
  have hrest : ∀ index : FileIndex, Searches (do
      let c ← Work.scope
      return (⟨← Work.tree, c.root, c.table, index⟩ : Surroundings)) := fun _ =>
    scope.bind fun _ => tree.bind fun _ => pure _
  split
  · exact fileIndex.bind hrest
  · exact (pure _).bind hrest

theorem runStrategy (strategy : Strategy) (b : BrokenLink) :
    Searches (DocLinks.runStrategy strategy b) := by
  unfold DocLinks.runStrategy
  refine (surroundings strategy).bind fun s => ?_
  split
  · exact (reports _).bind fun _ => pure _
  · exact pure _

theorem runStrategies (b : BrokenLink) (strategies : List Strategy) :
    Searches (DocLinks.runStrategies b strategies) := by
  induction strategies with
  | nil => exact pure _
  | cons strategy rest ih =>
    refine (runStrategy strategy b).bind fun found => ?_
    split
    · exact pure _
    · exact ih

theorem searchEach (bs : List BrokenLink) : Searches (DocLinks.searchEach bs) := by
  induction bs with
  | nil => exact pure _
  | cons b bs ih =>
    refine (runStrategies b _).bind fun suggestion => ?_
    split
    · exact (report _).bind fun _ => ih.bind fun _ => pure _
    · exact ih.bind fun _ => pure _

end Searches

/-- **Searching suggestions** for a batch answers if the pages can be listed. -/
theorem searches_searchAllFixes (bs : List BrokenLink) : Searches (searchAllFixes bs) :=
  Searches.clearIndex.bind fun _ => (Searches.searchEach bs).bind fun _ =>
    (Searches.report _).bind fun _ => Searches.pure _

/-! ## Targets of anchors -/

/-- A document is no file, or its headings can be read. -/
def HasReadableHeadings (t : FileTree) (root : FilePath) (path : String) : Prop :=
  t.hasFile root path = true →
    ∃ content, t.read (projectPath root path) FileTree.defaultLimit = .ok content

/-- Only headings that can be read are remembered. -/
def RemembersReadable (w : Workspace Context) : Prop :=
  ∀ path, (w.scope.headings.get? path).isSome = true →
    HasReadableHeadings w.tree w.scope.root path

theorem fileText_run {σ : Type} (p : FilePath) (limit : Limit) (w : Workspace σ) :
    fileText p limit w = ((w.tree.read p limit).mapError .file, w) := rfl

/-- What is remembered is still readable when it is put down. -/
theorem RemembersReadable.put {w : Workspace Context} (hw : RemembersReadable w) {path : String}
    (hpath : HasReadableHeadings w.tree w.scope.root path) (h : FileHeadings) :
    RemembersReadable
      { w with scope := { w.scope with headings := w.scope.headings.put path h } } := by
  intro path' hsome
  simp only [Assoc.get?_put] at hsome
  split at hsome
  · rename_i heq
    exact heq ▸ hpath
  · exact hw path' hsome

section LookUp

variable {w : Workspace Context} {path : String}

/-- Headings that are remembered are not read again. -/
theorem headingsOf_of_remembered {h : FileHeadings} (hget : w.scope.headings.get? path = some h) :
    headingsOf path w = (.ok (some h), w) := by
  unfold headingsOf
  rw [bind_run_of_ok (scope_run w), hget]
  rfl

theorem headingsOf_of_no_file (hget : w.scope.headings.get? path = none)
    (hfile : w.tree.hasFile w.scope.root path = false) : headingsOf path w = (.ok none, w) := by
  have hfile' : w.scope.hasFile w.tree path = false := hfile
  unfold headingsOf
  rw [bind_run_of_ok (scope_run w), hget]
  simp only
  rw [bind_run_of_ok (tree_run w), hfile']
  rfl

/-- Headings that have been read are remembered. -/
theorem headingsOf_of_file (hget : w.scope.headings.get? path = none)
    (hfile : w.tree.hasFile w.scope.root path = true) :
    headingsOf path w = match w.tree.read (projectPath w.scope.root path) FileTree.defaultLimit with
      | .error f => (.error (.file f), w)
      | .ok content =>
        let h := Markdown.parseHeadings path content
        (.ok (some h), { w with scope := { w.scope with headings := w.scope.headings.put path h } }) := by
  have hfile' : w.scope.hasFile w.tree path = true := hfile
  unfold headingsOf
  rw [bind_run_of_ok (scope_run w), hget]
  simp only
  rw [bind_run_of_ok (tree_run w), hfile']
  simp only [Bool.not_true, Bool.false_eq_true, if_false]
  rw [bind_run, fileText_run, Context.path]
  rcases w.tree.read (projectPath w.scope.root path) FileTree.defaultLimit with f | content
  · rfl
  · rfl

end LookUp

/-- **Looking up headings** answers exactly if they can be read. -/
theorem headingsOf_cases {w : Workspace Context} (hw : RemembersReadable w) (path : String) :
    (HasReadableHeadings w.tree w.scope.root path ∧ ∃ h headings,
      headingsOf path w = (.ok h, { w with scope := { w.scope with headings } }) ∧
      RemembersReadable { w with scope := { w.scope with headings } }) ∨
    (¬HasReadableHeadings w.tree w.scope.root path ∧ ∃ f v, headingsOf path w = (.error f, v)) := by
  rcases hget : w.scope.headings.get? path with _ | h
  · by_cases hfile : w.tree.hasFile w.scope.root path = true
    · have hrun := headingsOf_of_file hget hfile
      rcases hread : w.tree.read (projectPath w.scope.root path) FileTree.defaultLimit with f | content
      · rw [hread] at hrun
        refine .inr ⟨fun h => ?_, .file f, w, hrun⟩
        obtain ⟨content, hcontent⟩ := h hfile
        rw [hread] at hcontent
        cases hcontent
      · rw [hread] at hrun
        have hpath : HasReadableHeadings w.tree w.scope.root path := fun _ => ⟨content, hread⟩
        exact .inl ⟨hpath, _, _, hrun, hw.put hpath _⟩
    · exact .inl ⟨fun h => absurd h hfile, none, w.scope.headings,
        headingsOf_of_no_file hget (Bool.eq_false_iff.2 hfile), hw⟩
  · exact .inl ⟨hw path (by rw [hget]; rfl), some h, w.scope.headings, headingsOf_of_remembered hget, hw⟩

/-- The targets of all anchors have headings that can be read. -/
def HasReadableTargets (t : FileTree) (root : FilePath) (rs : List ValidationResult) : Prop :=
  ∀ r ∈ rs, ∀ target anchor, anchorOf? r = some (target, anchor) → HasReadableHeadings t root target

/-- A result without an anchor has no target to be read. -/
theorem hasReadableTargets_cons_none {t : FileTree} {root : FilePath} {r : ValidationResult}
    {rs : List ValidationResult} (h : anchorOf? r = none) :
    HasReadableTargets t root (r :: rs) ↔ HasReadableTargets t root rs := by
  unfold HasReadableTargets
  rw [List.forall_mem_cons, h]
  exact and_iff_right nofun

theorem hasReadableTargets_cons_some {t : FileTree} {root : FilePath} {r : ValidationResult}
    {rs : List ValidationResult} {target anchor : String} (h : anchorOf? r = some (target, anchor)) :
    HasReadableTargets t root (r :: rs) ↔
      HasReadableHeadings t root target ∧ HasReadableTargets t root rs := by
  unfold HasReadableTargets
  rw [List.forall_mem_cons, h]
  refine and_congr_left' ⟨fun h => h _ _ rfl, fun h target' anchor' heq => ?_⟩
  cases heq
  exact h

/-- **Checking one anchor** answers exactly if its target can be read. -/
theorem validateAnchor_cases {w : Workspace Context} (hw : RemembersReadable w)
    (target anchor source : String) (link : Option Link) :
    (HasReadableHeadings w.tree w.scope.root target ∧ ∃ check headings,
      validateAnchor target anchor source link w
        = (.ok check, { w with scope := { w.scope with headings } }) ∧
      RemembersReadable { w with scope := { w.scope with headings } }) ∨
    (¬HasReadableHeadings w.tree w.scope.root target ∧
      ∃ f v, validateAnchor target anchor source link w = (.error f, v)) := by
  unfold validateAnchor
  rcases headingsOf_cases hw target with ⟨hreadable, h, headings, hrun, hw'⟩ | ⟨hnot, f, v, hrun⟩
  · exact .inl ⟨hreadable, _, headings, bind_run_of_ok hrun, hw'⟩
  · exact .inr ⟨hnot, f, v, by rw [bind_run, hrun]⟩

/-- Putting an answer in front of others takes no more than the others. -/
theorem cons_answers_iff {σ α : Type} {a : α} {x : Work σ (List α)} {w : Workspace σ} :
    (∃ as v, (do return a :: (← x) : Work σ (List α)) w = (.ok as, v)) ↔
      ∃ as v, x w = (.ok as, v) := by
  constructor
  · rintro ⟨as, v, h⟩
    obtain ⟨as', u, hu, -⟩ := bind_ok_iff.1 h
    exact ⟨as', u, hu⟩
  · rintro ⟨as, v, h⟩
    exact ⟨a :: as, v, by rw [bind_run_of_ok h]; rfl⟩

/-- **Checking anchors** answers exactly if all their targets can be read. -/
theorem validateAllAnchors_answers_iff {rs : List ValidationResult} {w : Workspace Context}
    (hw : RemembersReadable w) :
    (∃ checks v, validateAllAnchors rs w = (.ok checks, v)) ↔
      HasReadableTargets w.tree w.scope.root rs := by
  induction rs generalizing w with
  | nil => exact ⟨fun _ r hr => absurd hr List.not_mem_nil, fun _ => ⟨[], w, rfl⟩⟩
  | cons r rs ih =>
    unfold validateAllAnchors
    rcases hanchor : anchorOf? r with _ | ⟨target, anchor⟩
    · rw [hasReadableTargets_cons_none hanchor]
      exact ih hw
    · rw [hasReadableTargets_cons_some hanchor]
      simp only
      rcases validateAnchor_cases hw target anchor r.sourceFile (some r.link) with
        ⟨hreadable, check, headings, hcheck, hw'⟩ | ⟨hnot, f, v, hcheck⟩
      · rw [bind_run_of_ok hcheck, and_iff_right hreadable]
        -- Whether the finding is put on record does not matter to the rest.
        have hrest : ∀ log, (∃ checks v, (do return check :: (← validateAllAnchors rs) : Work Context _)
            { w with scope := { w.scope with headings }, log } = (.ok checks, v)) ↔
              HasReadableTargets w.tree w.scope.root rs := fun log =>
          cons_answers_iff.trans
            (ih (w := { w with scope := { w.scope with headings }, log }) hw')
        split
        · rw [bind_run_of_ok (report_run _ _)]
          exact hrest _
        · exact hrest _
      · rw [bind_run, hcheck]
        refine ⟨?_, fun h => absurd h.1 hnot⟩
        rintro ⟨checks, u, h⟩
        cases h

/-! ## The whole check -/

/-- The folder that a checker scans. -/
def searchedFolder (root : FilePath) (folder : Option String) : FilePath :=
  match folder.filter (· ≠ "") with
  | some f => root.join (.ofString f)
  | none => root

theorem scan_answers {t : FileTree} {folder : FilePath} (extensions : List String)
    {names : List String} {excluded : List Value} (hnames : folderNames excluded = .ok names)
    (hstat : ∃ n, t.stat folder = .ok n) :
    ∃ files, t.scan folder extensions excluded = .ok files := by
  unfold FileTree.scan
  rw [hnames]
  obtain ⟨_ | _, hstat⟩ := hstat
  · simp only [hstat]
    exact ⟨[], rfl⟩
  · simp only [hstat]
    rcases hwalk : t.walk (t.start folder) folder.names with e | place
    · exact ⟨[], rfl⟩
    · exact ⟨t.filesBelow place extensions names, rfl⟩

/-- With a navigation file that can be read, the root is there. -/
theorem Checker.IsPlaced.exists_stat_root {s : Checker} (h : s.IsPlaced) {t : FileTree} {limit : Limit}
    {content : String} (hnavigation : t.read s.navigationPath limit = .ok content) :
    ∃ n, t.stat s.context.root = .ok n := by
  obtain ⟨_, _, -, -, hstat, -⟩ := FileTree.read_eq_ok hnavigation
  exact exists_stat_of_below (h.root.slashes.trans h.navigation.slashes.symm) h.navigationBelow hstat

/-- The pages of a folder can be listed if it can be found out what stands there. -/
theorem markdownFiles_answers_iff {t : FileTree} {root : FilePath} {folder : Option String}
    {excluded : List Value} {names : List String} (hnames : folderNames excluded = .ok names) :
    (∃ pages, markdownFiles t root folder excluded = .ok pages) ↔
      ∃ n, t.probe (searchedFolder root folder) = .ok n := by
  unfold markdownFiles searchedFolder
  simp only
  generalize folder.filter (· ≠ "") = folder
  rcases folder with _ | f
  all_goals
    simp only
    rcases hprobe : t.probe _ with c | (_ | _ | _)
    case error =>
      constructor
      · rintro ⟨pages, h⟩
        cases h
      · rintro ⟨n, h⟩
        cases h
    case ok.none => exact ⟨fun _ => ⟨_, rfl⟩, fun _ => ⟨_, rfl⟩⟩
    case ok.some.file => exact ⟨fun _ => ⟨_, rfl⟩, fun _ => ⟨_, rfl⟩⟩
    case ok.some.folder =>
      obtain ⟨files, hfiles⟩ := scan_answers [".md"] hnames ⟨_, FileTree.probe_eq_some_iff.1 hprobe⟩
      refine ⟨fun _ => ⟨_, rfl⟩, fun _ => ?_⟩
      simp only [hfiles]
      exact ⟨_, rfl⟩

/-- Putting something on record about each of several things. -/
theorem forM_say_run {σ α : Type} {f : α → Work σ Unit} (hf : ∀ a, ∃ r, f a = report r) (as : List α)
    (w : Workspace σ) : ∃ log, as.forM f w = (.ok (), { w with log }) := by
  induction as generalizing w with
  | nil => exact ⟨w.log, rfl⟩
  | cons a as ih =>
    obtain ⟨r, hr⟩ := hf a
    obtain ⟨log, hlog⟩ := ih { w with log := w.log ++ [r] }
    refine ⟨log, ?_⟩
    show (f a >>= fun _ => as.forM f) w = _
    rw [hr, bind_run_of_ok (report_run r w), hlog]

theorem parseFile_run {σ : Type} {p : FilePath} {content : String} {w : Workspace σ}
    (h : w.tree.read p FileTree.defaultLimit = .ok content) :
    ∃ log, Navigation.parseFile p w = (.ok (NavStructure.ofText content), { w with log }) := by
  unfold Navigation.parseFile
  rw [bind_run_of_ok (tree_run w), h]
  exact ⟨_, rfl⟩

namespace Checker

variable {w : Workspace Checker}

theorem checkNavigation_run {content : String}
    (h : w.tree.read w.scope.navigationPath FileTree.defaultLimit = .ok content) :
    ∃ missing log, checkNavigation w = (.ok missing, { w with log }) := by
  unfold checkNavigation
  obtain ⟨log, hparse⟩ := parseFile_run h
  rw [bind_run_of_ok (scope_run w), bind_run_of_ok hparse, bind_run_of_ok (tree_run _)]
  obtain ⟨log', hsay⟩ := forM_say_run (f := sayMissing w.scope.navigationPath)
    (fun i => ⟨_, rfl⟩)
    ((NavStructure.ofText content).missing (w.scope.context.hasFile w.tree)) { w with log }
  exact ⟨_, log', by rw [bind_run_of_ok hsay]; rfl⟩

theorem sayDone_answers {σ : Type} (operation : String) (success : Bool) (context : LogContext)
    (w : Workspace σ) : ∃ log, sayDone operation success context w = (.ok (), { w with log }) := by
  unfold sayDone
  split <;> exact ⟨_, rfl⟩

/-- Where a check is when it has forgotten the headings, but for the log. -/
def begun (w : Workspace Checker) (log : List LogRecord) : Workspace Checker :=
  ⟨w.tree, { w.scope with context := w.scope.context.clearHeadings }, log⟩

theorem pages_run (w : Workspace Checker) (log : List LogRecord) :
    pages (begun w log) = (w.scope.pagesOf w.tree, begun w log) := by
  unfold pages
  rw [bind_run_of_ok (scope_run _), bind_run_of_ok (tree_run _)]
  rfl

/-- **A check of pages that can be listed.** All that can still fail are the anchors. -/
theorem check_of_pages {limit : Limit} {content : String} {files : List String}
    (hlimit : limitOf w.scope.maxFileSize = .ok limit)
    (hnavigation : w.tree.read w.scope.navigationPath FileTree.defaultLimit = .ok content)
    (hscan : CanScan ⟨w.tree, w.scope.context, w.log⟩) (hpages : w.scope.pagesOf w.tree = .ok files) :
    ∃ (u : Workspace Checker) (finish : List AnchorCheck → Work Checker CheckReport),
      u.tree = w.tree ∧ u.scope.context.root = w.scope.context.root ∧
      u.scope.context.headings = [] ∧
      check w = ((if w.scope.checkAnchors then
          onContext (validateAllAnchors (w.scope.verdictsOf w.tree files)) else pure []) >>= finish) u ∧
      ∀ anchors u', ∃ report v, finish anchors u' = (.ok report, v) ∧
        report.filesScanned
          = (documentsOf w.tree w.scope.context.root w.scope.maxFileSize files).length ∧
        report.errors = files.filterMap (unreadable? w.tree w.scope.context.root limit) := by
  have hclear : ∀ log, onContext (modifyScope Context.clearHeadings) { w with log }
      = (.ok (), begun w log) := fun _ => rfl
  unfold check
  simp only [say]
  -- Step by step: each computation answers, and hands on all but the log and the index as it was.
  rw [bind_run_of_ok (scope_run w), bind_run_of_ok (report_run _ w), bind_run_of_ok (hclear _)]
  obtain ⟨missing, log₁, hmissing⟩ := checkNavigation_run (w := begun w (w.log ++ [_])) hnavigation
  have hpages₁ : pages (begun w log₁) = (.ok files, begun w log₁) := by rw [pages_run, hpages]
  rw [bind_run_of_ok hmissing]
  show ∃ u finish, _ ∧ _ ∧ _ ∧ (pages >>= _) (begun w log₁) = _ ∧ _
  rw [bind_run_of_ok hpages₁]
  obtain ⟨log₂, hdocuments⟩ : ∃ log, readDocuments w.scope.maxFileSize files
      ⟨w.tree, w.scope.context.clearHeadings, log₁⟩
        = (.ok (documentsOf w.tree w.scope.context.root w.scope.maxFileSize files,
            files.filterMap (unreadable? w.tree w.scope.context.root limit)),
          ⟨w.tree, w.scope.context.clearHeadings, log⟩) := readDocuments_run hlimit files _
  rw [bind_run_of_ok (onContext_run hdocuments)]
  obtain ⟨log₃, hresults⟩ : ∃ log, validateAll
      (documentsOf w.tree w.scope.context.root w.scope.maxFileSize files)
      ⟨w.tree, w.scope.context.clearHeadings, log₂⟩
        = (.ok (w.scope.verdictsOf w.tree files), ⟨w.tree, w.scope.context.clearHeadings, log⟩) :=
    validateAll_run _ _
  simp only
  rw [bind_run_of_ok (onContext_run hresults)]
  obtain ⟨found, index, log₄, hfound⟩ := searches_searchAllFixes
    (brokenLinks (w.scope.verdictsOf w.tree files))
    ⟨w.tree, w.scope.context.clearHeadings, log₃⟩ hscan
  rw [bind_run_of_ok (onContext_run hfound)]
  obtain ⟨log₅, hsay⟩ := forM_say_run (f := sayBroken) (fun b => ⟨_, rfl⟩)
    (brokenLinks (w.scope.verdictsOf w.tree files))
    ⟨w.tree, { w.scope with context := { w.scope.context.clearHeadings with index } }, log₄⟩
  show ∃ u finish, _ ∧ _ ∧ _ ∧ (List.forM _ sayBroken >>= _)
    ⟨w.tree, { w.scope with context := { w.scope.context.clearHeadings with index } }, log₄⟩ = _ ∧ _
  rw [bind_run_of_ok hsay]
  refine ⟨⟨w.tree, { w.scope with context := { w.scope.context.clearHeadings with index } }, log₅⟩,
    ?finish, rfl, rfl, rfl, ?run, ?report⟩
  case run =>
    cases w.scope.checkAnchors
    · rfl
    · rfl
  case report =>
    intro anchors u'
    obtain ⟨log, hdone⟩ := sayDone_answers "check" _ _ u'
    exact ⟨_, _, bind_run_of_ok hdone, rfl, rfl⟩

/-- The settings of a checker that a check reads: the limit for pages, the folder that is scanned,
and the folders that are passed over. -/
structure ReadsWith (s : Checker) (limit : Limit) (folder : Option String) : Prop where
  limit : limitOf s.maxFileSize = .ok limit
  folder : scanFolder s.scanPath = .ok folder
  excludeDirs : ∃ names, folderNames s.context.excludeDirs = .ok names

variable {limit : Limit} {folder : Option String} {content : String}

theorem pagesOf_answers_iff {s : Checker} (hs : s.ReadsWith limit folder) {t : FileTree} :
    (∃ files, s.pagesOf t = .ok files) ↔
      ∃ n, t.probe (searchedFolder s.context.root folder) = .ok n := by
  obtain ⟨names, hnames⟩ := hs.excludeDirs
  unfold pagesOf
  rw [hs.folder]
  exact markdownFiles_answers_iff hnames

/-- Without an answer for its pages a check has none either. -/
theorem exists_pages_of_check {report : CheckReport} (h : (check w).1 = .ok report) :
    ∃ files, w.scope.pagesOf w.tree = .ok files := by
  obtain ⟨-, files, hfiles, -⟩ := check_ok (eq_of_fst h)
  exact ⟨files, hfiles⟩

/-- **When a check of pages that can be listed answers**: if the targets of the anchors can be read. -/
theorem check_answers_iff_of_pages {files : List String}
    (hlimit : limitOf w.scope.maxFileSize = .ok limit)
    (hnavigation : w.tree.read w.scope.navigationPath FileTree.defaultLimit = .ok content)
    (hscan : CanScan ⟨w.tree, w.scope.context, w.log⟩) (hfiles : w.scope.pagesOf w.tree = .ok files) :
    (∃ report, (check w).1 = .ok report) ↔ (w.scope.checkAnchors = true →
      HasReadableTargets w.tree w.scope.context.root (w.scope.verdictsOf w.tree files)) := by
  obtain ⟨u, finish, htree, hroot, hheadings, hrun, hfinish⟩ :=
    check_of_pages hlimit hnavigation hscan hfiles
  rw [hrun]
  -- The check has forgotten all headings, so those that it remembers were read by itself.
  have hanswers : (∃ checks v, validateAllAnchors (w.scope.verdictsOf w.tree files)
      ⟨u.tree, u.scope.context, u.log⟩ = (.ok checks, v)) ↔
        HasReadableTargets u.tree u.scope.context.root (w.scope.verdictsOf w.tree files) :=
    validateAllAnchors_answers_iff fun path hsome => by simp [hheadings] at hsome
  have hsame : HasReadableTargets w.tree w.scope.context.root
      = HasReadableTargets u.tree u.scope.context.root := by rw [htree, hroot]
  rw [hsame, ← hanswers]
  cases w.scope.checkAnchors with
  | false =>
    obtain ⟨report, v, hreport, -⟩ := hfinish [] u
    refine ⟨fun _ hfalse => absurd hfalse Bool.false_ne_true, fun _ => ⟨report, ?_⟩⟩
    rw [if_neg Bool.false_ne_true, bind_run_of_ok (pure_run [] u), hreport]
  | true =>
    rw [if_pos rfl]
    constructor
    · rintro ⟨report, h⟩ _
      obtain ⟨anchors, u', hanchors, -⟩ := bind_ok_iff.1 (eq_of_fst h)
      obtain ⟨v, hv, -⟩ := onContext_ok hanchors
      exact ⟨anchors, v, hv⟩
    · intro h
      obtain ⟨anchors, v, hv⟩ := h rfl
      obtain ⟨report, v', hreport, -⟩ := hfinish anchors _
      exact ⟨report, by rw [bind_run_of_ok (onContext_run hv), hreport]⟩

theorem canScan_of_isPlaced (hs : w.scope.ReadsWith limit folder) (hplaced : w.scope.IsPlaced)
    (hnavigation : w.tree.read w.scope.navigationPath FileTree.defaultLimit = .ok content) :
    CanScan ⟨w.tree, w.scope.context, w.log⟩ := by
  obtain ⟨names, hnames⟩ := hs.excludeDirs
  exact scan_answers [".md"] hnames (hplaced.exists_stat_root hnavigation)

/-- **When a check answers.** If the navigation file can be read, it takes only that the folder to be
scanned can be looked up, and that the targets of the anchors, if they are checked, have headings that
can be read. -/
theorem check_answers_iff (hs : w.scope.ReadsWith limit folder)
    (hplaced : w.scope.IsPlaced)
    (hnavigation : w.tree.read w.scope.navigationPath FileTree.defaultLimit = .ok content) :
    (∃ report, (check w).1 = .ok report) ↔
      (∃ n, w.tree.probe (searchedFolder w.scope.context.root folder) = .ok n) ∧
        (w.scope.checkAnchors = true → ∀ files, w.scope.pagesOf w.tree = .ok files →
          HasReadableTargets w.tree w.scope.context.root (w.scope.verdictsOf w.tree files)) := by
  have hscan := canScan_of_isPlaced hs hplaced hnavigation
  rw [← pagesOf_answers_iff hs]
  constructor
  · rintro ⟨report, h⟩
    refine ⟨exists_pages_of_check h, fun hanchors files hfiles => ?_⟩
    exact (check_answers_iff_of_pages hs.limit hnavigation hscan hfiles).1 ⟨report, h⟩ hanchors
  · rintro ⟨⟨files, hfiles⟩, htargets⟩
    exact (check_answers_iff_of_pages hs.limit hnavigation hscan hfiles).2 fun hanchors =>
      htargets hanchors files hfiles

/-- **The pages that cannot be read** are listed in the report, and only they. -/
theorem check_errors (hs : w.scope.ReadsWith limit folder)
    (hplaced : w.scope.IsPlaced)
    (hnavigation : w.tree.read w.scope.navigationPath FileTree.defaultLimit = .ok content)
    {report : CheckReport} (h : (check w).1 = .ok report) :
    ∃ files, w.scope.pagesOf w.tree = .ok files ∧
      report.filesScanned
        = (documentsOf w.tree w.scope.context.root w.scope.maxFileSize files).length ∧
      report.errors = files.filterMap (unreadable? w.tree w.scope.context.root limit) := by
  have hscan := canScan_of_isPlaced hs hplaced hnavigation
  obtain ⟨files, hfiles⟩ := exists_pages_of_check h
  have hcheck := eq_of_fst h
  obtain ⟨u, finish, -, -, -, hrun, hfinish⟩ := check_of_pages hs.limit hnavigation hscan hfiles
  rw [hrun] at hcheck
  obtain ⟨anchors, u', -, hlast⟩ := bind_ok_iff.1 hcheck
  obtain ⟨report', v, hreport, hscanned, herrors⟩ := hfinish anchors u'
  rw [hreport] at hlast
  cases hlast
  exact ⟨files, hfiles, hscanned, herrors⟩

end Checker

end DocLinks
