import DocLinks.Checker
import DocLinks.Proofs.Assoc
import DocLinks.Proofs.Runs

/-!
# What a check reports

Checking a project changes nothing but the memories of its context (`KeepsChecker`), and its report is
put together from stages that are told by the tree (`check_stages`): the broken links are those of the
verdicts on the pages that can be read, and each comes with the suggestion that was found for it
(`check_ok`).

## Contents
- `KeepsProject`: the tree, the root, the excluded folders and the redirects are the same.
- `Checker.pagesOf`, `documentsOf`, `Checker.verdictsOf`: the pages, their links, and the verdicts.
- `unreadable?`, `readDocuments_run`: the pages that are passed over.
- `Checker.Stages`, `Checker.exists_stages`: the run of a check that answers.
- `Checker.Assembled`, `Checker.check_stages`, `Checker.check_ok`: the report.
-/

namespace DocLinks

open Work

/-! ## Keeping the project -/

/-- The index, if there is one, is that of the pages of the tree. -/
def FreshIndex (w : Workspace Context) : Prop :=
  ∀ i, w.scope.index = some i →
    ∃ files, w.tree.scan w.scope.root [".md"] w.scope.excludeDirs = .ok files ∧
      i = FileIndex.ofFiles files

/-- Everything but the memories of the context and the log is the same, and a fresh index stays
fresh. -/
structure KeepsProject (w v : Workspace Context) : Prop where
  tree : v.tree = w.tree
  root : v.scope.root = w.scope.root
  excludeDirs : v.scope.excludeDirs = w.scope.excludeDirs
  table : v.scope.table = w.scope.table
  index : FreshIndex w → FreshIndex v

theorem keepsProject_isPreorder : IsPreorder KeepsProject where
  refl _ := ⟨rfl, rfl, rfl, rfl, id⟩
  trans h h' := ⟨h'.tree.trans h.tree, h'.root.trans h.root, h'.excludeDirs.trans h.excludeDirs,
    h'.table.trans h.table, fun hi => h'.index (h.index hi)⟩

section Keeps

variable {α β : Type}

/-- A computation that keeps the project. -/
abbrev Keeps (x : Work Context α) : Prop := Sat KeepsProject x

theorem Keeps.pure (a : α) : Keeps (Pure.pure a : Work Context α) :=
  Sat.pure keepsProject_isPreorder a

theorem Keeps.bind {x : Work Context α} {f : α → Work Context β} (hx : Keeps x)
    (hf : ∀ a, Keeps (f a)) : Keeps (x >>= f) :=
  Sat.bind keepsProject_isPreorder hx hf

theorem keeps_tree : Keeps tree := fun _ => ⟨rfl, rfl, rfl, rfl, id⟩

theorem keeps_scope : Keeps scope := fun _ => ⟨rfl, rfl, rfl, rfl, id⟩

theorem keeps_report (r : LogRecord) : Keeps (report r) := fun _ => ⟨rfl, rfl, rfl, rfl, id⟩

theorem keeps_reports (rs : List LogRecord) : Keeps (rs.forM report) :=
  Sat.forM keepsProject_isPreorder keeps_report rs

theorem keeps_ofExcept (r : Except Fault α) : Keeps (Work.ofExcept r) := fun _ => ⟨rfl, rfl, rfl, rfl, id⟩

theorem keeps_modifyHeadings (f : Context → Assoc String FileHeadings) :
    Keeps (modifyScope fun c => { c with headings := f c }) := fun _ => ⟨rfl, rfl, rfl, rfl, id⟩

theorem keeps_clearIndex : Keeps (modifyScope Context.clearIndex) := fun _ =>
  ⟨rfl, rfl, rfl, rfl, fun _ _ hi => nomatch hi⟩

theorem keeps_documentLinks (relative content : String) :
    Keeps (documentLinks relative content : Work Context FileLinks) :=
  Keeps.bind (keeps_report _) fun _ => Keeps.pure _

theorem keeps_fileText (p : FilePath) (limit : Limit) :
    Keeps (fileText p limit : Work Context String) :=
  Keeps.bind keeps_tree fun _ => keeps_ofExcept _

theorem keeps_headingsOf (relative : String) : Keeps (headingsOf relative) := by
  refine Keeps.bind keeps_scope fun c => ?_
  split
  · exact Keeps.pure _
  · refine Keeps.bind keeps_tree fun t => ?_
    split
    · exact Keeps.pure _
    · refine Keeps.bind (keeps_fileText _ _) fun content => ?_
      exact Keeps.bind (keeps_modifyHeadings _) fun _ => Keeps.pure _

/-- Building the index: it is the one of the pages as they are now. -/
theorem fileIndex_run (w : Workspace Context) :
    fileIndex w = match w.scope.index with
      | some i => (.ok i, w)
      | none =>
        match w.tree.scan w.scope.root [".md"] w.scope.excludeDirs with
        | .error e => (.error e, w)
        | .ok files =>
          (.ok (FileIndex.ofFiles files), { w with
            scope := { w.scope with index := some (FileIndex.ofFiles files) }
            log := w.log ++
              [{ level := .debug
                 logger := loggerOf "core.context"
                 message := "Indexed " ++ toString (FileIndex.ofFiles files).size ++
                  " candidate file(s)" }] }) := by
  unfold fileIndex
  rw [bind_run_of_ok (scope_run w)]
  rcases hi : w.scope.index with _ | i
  · simp only
    rw [bind_run_of_ok (tree_run w), bind_run, ofExcept_run]
    rcases hs : w.tree.scan w.scope.root [".md"] w.scope.excludeDirs with e | files <;> rfl
  · rfl

theorem keeps_fileIndex : Keeps fileIndex := by
  intro w
  rw [fileIndex_run]
  split
  · exact keepsProject_isPreorder.refl w
  · split
    · exact keepsProject_isPreorder.refl w
    · rename_i files hfiles
      exact ⟨rfl, rfl, rfl, rfl, fun _ i hi => ⟨files, hfiles, (Option.some.inj hi).symm⟩⟩

theorem keeps_surroundings (strategy : Strategy) : Keeps (surroundings strategy) := by
  unfold surroundings
  have hrest : ∀ index : FileIndex, Keeps (do
      let c ← scope
      return (⟨← tree, c.root, c.table, index⟩ : Surroundings)) := fun _ =>
    Keeps.bind keeps_scope fun _ => Keeps.bind keeps_tree fun _ => Keeps.pure _
  split
  · exact Keeps.bind keeps_fileIndex hrest
  · exact Keeps.bind (Keeps.pure _) hrest

theorem keeps_runStrategy (strategy : Strategy) (b : BrokenLink) : Keeps (runStrategy strategy b) := by
  unfold runStrategy
  refine Keeps.bind (keeps_surroundings strategy) fun s => ?_
  split
  · exact Keeps.bind (keeps_reports _) fun _ => Keeps.pure _
  · exact Keeps.pure _

theorem keeps_runStrategies (b : BrokenLink) (strategies : List Strategy) :
    Keeps (runStrategies b strategies) := by
  induction strategies with
  | nil => exact Keeps.pure _
  | cons strategy rest ih =>
    refine Keeps.bind (keeps_runStrategy strategy b) fun found => ?_
    split
    · exact Keeps.pure _
    · exact ih

theorem keeps_searchEach (bs : List BrokenLink) : Keeps (searchEach bs) := by
  induction bs with
  | nil => exact Keeps.pure _
  | cons b bs ih =>
    refine Keeps.bind (keeps_runStrategies b _) fun suggestion => ?_
    split
    · exact Keeps.bind (keeps_report _) fun _ => Keeps.bind ih fun _ => Keeps.pure _
    · exact Keeps.bind ih fun _ => Keeps.pure _

theorem keeps_searchAllFixes (bs : List BrokenLink) : Keeps (searchAllFixes bs) := by
  refine Keeps.bind keeps_clearIndex fun _ => ?_
  refine Keeps.bind (keeps_searchEach bs) fun _ => ?_
  exact Keeps.bind (keeps_report _) fun _ => Keeps.pure _

theorem keeps_validateAll (fs : List FileLinks) : Keeps (validateAll fs) := by
  refine Keeps.bind keeps_scope fun _ => Keeps.bind keeps_tree fun _ => ?_
  exact Keeps.bind (keeps_reports _) fun _ => Keeps.bind (keeps_report _) fun _ => Keeps.pure _

theorem keeps_validateAllAnchors (rs : List ValidationResult) : Keeps (validateAllAnchors rs) := by
  induction rs with
  | nil => exact Keeps.pure _
  | cons r rs ih =>
    unfold validateAllAnchors
    split
    · exact ih
    · refine Keeps.bind (Keeps.bind (keeps_headingsOf _) fun _ => Keeps.pure _) fun check => ?_
      split
      · exact Keeps.bind (keeps_report _) fun _ => Keeps.bind ih fun _ => Keeps.pure _
      · exact Keeps.bind ih fun _ => Keeps.pure _

end Keeps

/-! ## Reading the pages -/

/-- The links of a page, if it can be read. -/
def pageLinks? (t : FileTree) (root : FilePath) (limit : Value) (page : String) : Option FileLinks :=
  match Checker.limitOf limit with
  | .error _ => none
  | .ok limit =>
    match t.read (projectPath root page) limit with
    | .error _ => none
    | .ok content => some (Markdown.parseLinks page content)

theorem pageLinks?_eq_some_iff {t : FileTree} {root : FilePath} {value : Value} {page : String}
    {f : FileLinks} : pageLinks? t root value page = some f ↔ ∃ limit content,
      Checker.limitOf value = .ok limit ∧ t.read (projectPath root page) limit = .ok content ∧
        f = Markdown.parseLinks page content := by
  unfold pageLinks?
  constructor
  · intro h
    split at h
    · cases h
    · rename_i limit hlimit
      split at h
      · cases h
      · rename_i content hread
        exact ⟨limit, content, hlimit, hread, (Option.some.inj h).symm⟩
  · rintro ⟨limit, content, hlimit, hread, rfl⟩
    simp only [hlimit, hread]

/-- The links of the pages that can be read. -/
def documentsOf (t : FileTree) (root : FilePath) (limit : Value) (pages : List String) :
    List FileLinks :=
  pages.filterMap (pageLinks? t root limit)

theorem keeps_readDocuments (limit : Value) (pages : List String) :
    Keeps (Checker.readDocuments limit pages) := by
  induction pages with
  | nil => exact Keeps.pure _
  | cons page rest ih =>
    unfold Checker.readDocuments
    refine Keeps.bind (keeps_ofExcept _) fun _ => Keeps.bind keeps_scope fun _ => ?_
    refine Keeps.bind keeps_tree fun _ => ?_
    split
    · exact Keeps.bind (keeps_report _) fun _ => Keeps.bind ih fun _ => Keeps.pure _
    · exact Keeps.bind (keeps_documentLinks _ _) fun _ => Keeps.bind ih fun _ => Keeps.pure _

theorem documentLinks_run {σ : Type} (relative content : String) (w : Workspace σ) :
    ∃ log, documentLinks relative content w
      = (.ok (Markdown.parseLinks relative content), { w with log := log }) :=
  ⟨_, rfl⟩

/-- What is said of a page that cannot be read. -/
def unreadable? (t : FileTree) (root : FilePath) (limit : Limit) (page : String) : Option String :=
  match t.read (projectPath root page) limit with
  | .error f => some (page ++ ": " ++ hidePlaces t (some root) f.message)
  | .ok _ => none

/-- **Reading the pages** never fails: a page that cannot be read is listed instead. -/
theorem readDocuments_run {value : Value} {limit : Limit}
    (hlimit : Checker.limitOf value = .ok limit) (pages : List String) (w : Workspace Context) :
    ∃ log, Checker.readDocuments value pages w
      = (.ok (documentsOf w.tree w.scope.root value pages,
          pages.filterMap (unreadable? w.tree w.scope.root limit)), { w with log }) := by
  induction pages generalizing w with
  | nil => exact ⟨w.log, rfl⟩
  | cons page rest ih =>
    unfold Checker.readDocuments documentsOf
    rw [hlimit, bind_ofExcept_run rfl, bind_run_of_ok (scope_run w), bind_run_of_ok (tree_run w),
      List.filterMap_cons, List.filterMap_cons]
    rcases hread : w.tree.read (projectPath w.scope.root page) limit with f | content
    · have hlinks : pageLinks? w.tree w.scope.root value page = none := by
        unfold pageLinks?
        simp only [hlimit, hread]
      have hmessage : unreadable? w.tree w.scope.root limit page
          = some (page ++ ": " ++ hidePlaces w.tree (some w.scope.root) f.message) := by
        unfold unreadable?
        rw [hread]
      obtain ⟨log, hlog⟩ := ih { w with log := w.log ++ [_] }
      refine ⟨log, ?_⟩
      have hpath : w.tree.read (w.scope.path page) limit = .error f := hread
      rw [hlinks, hmessage, hpath]
      simp only [Checker.say]
      rw [bind_run_of_ok (report_run _ w), bind_run_of_ok hlog]
      rfl
    · have hlinks : pageLinks? w.tree w.scope.root value page
          = some (Markdown.parseLinks page content) :=
        pageLinks?_eq_some_iff.2 ⟨limit, content, hlimit, hread, rfl⟩
      have hmessage : unreadable? w.tree w.scope.root limit page = none := by
        unfold unreadable?
        rw [hread]
      obtain ⟨log₁, hlog₁⟩ := documentLinks_run page content w
      obtain ⟨log, hlog⟩ := ih { w with log := log₁ }
      refine ⟨log, ?_⟩
      have hpath : w.tree.read (w.scope.path page) limit = .ok content := hread
      rw [hlinks, hmessage, hpath]
      simp only
      rw [bind_run_of_ok hlog₁, bind_run_of_ok hlog]
      rfl

/-- **The documents of a check** are the pages that can be read, with their links. -/
theorem readDocuments_ok {limit : Value} {pages errors : List String} {documents : List FileLinks}
    {w v : Workspace Context} (h : Checker.readDocuments limit pages w = (.ok (documents, errors), v)) :
    documents = documentsOf w.tree w.scope.root limit pages := by
  rcases hlimit : Checker.limitOf limit with f | n
  · -- A limit that is none is noticed when the first page is read.
    rcases pages with _ | ⟨page, rest⟩
    · cases h
      rfl
    · unfold Checker.readDocuments at h
      rw [hlimit, bind_run, ofExcept_run] at h
      cases h
  · obtain ⟨log, hrun⟩ := readDocuments_run hlimit pages w
    cases hrun.symm.trans h
    rfl

/-! ## Verdicts -/

theorem validateAll_ok {fs : List FileLinks} {w v : Workspace Context} {rs : List ValidationResult}
    (h : validateAll fs w = (.ok rs, v)) :
    rs = validateFiles w.tree w.scope.root w.scope.table fs := by
  unfold validateAll at h
  rw [bind_run_of_ok (scope_run w), bind_run_of_ok (tree_run w)] at h
  obtain ⟨_, u, _, h⟩ := bind_ok_iff.1 h
  obtain ⟨_, u', _, h⟩ := bind_ok_iff.1 h
  cases h
  rfl

/-! ## Suggestions -/

/-- A strategy knows what a broken link may have meant. If it looks at an index, then at that of the
pages as they are. -/
def SuggestedIn (t : FileTree) (c : Context) (b : BrokenLink) (suggestion : FixSuggestion) : Prop :=
  ∃ (strategy : Strategy) (index : FileIndex),
    (strategy.usesIndex = true →
      ∃ files, t.scan c.root [".md"] c.excludeDirs = .ok files ∧ index = FileIndex.ofFiles files) ∧
    strategy.find ⟨t, c.root, c.table, index⟩ b = some suggestion

theorem SuggestedIn.congr {w v : Workspace Context} (hkeep : KeepsProject w v) {b : BrokenLink}
    {suggestion : FixSuggestion} (h : SuggestedIn v.tree v.scope b suggestion) :
    SuggestedIn w.tree w.scope b suggestion := by
  obtain ⟨strategy, index, hindex, hfind⟩ := h
  rw [hkeep.tree, hkeep.root, hkeep.excludeDirs] at hindex
  rw [hkeep.tree, hkeep.root, hkeep.table] at hfind
  exact ⟨strategy, index, hindex, hfind⟩

theorem fileIndex_ok {w v : Workspace Context} {i : FileIndex} (hfresh : FreshIndex w)
    (h : fileIndex w = (.ok i, v)) :
    ∃ files, w.tree.scan w.scope.root [".md"] w.scope.excludeDirs = .ok files ∧
      i = FileIndex.ofFiles files := by
  rw [fileIndex_run] at h
  rcases hi : w.scope.index with _ | j
  · rw [hi] at h
    rcases hs : w.tree.scan w.scope.root [".md"] w.scope.excludeDirs with e | files
    · rw [hs] at h
      cases h
    · rw [hs] at h
      exact ⟨files, rfl, (Except.ok.inj (Prod.mk.inj h).1).symm⟩
  · rw [hi] at h
    obtain ⟨files, hs, hj⟩ := hfresh j hi
    exact ⟨files, hs, (Except.ok.inj (Prod.mk.inj h).1).symm.trans hj⟩

theorem surroundings_ok {strategy : Strategy} {w v : Workspace Context} {s : Surroundings}
    (hfresh : FreshIndex w) (h : surroundings strategy w = (.ok s, v)) :
    s.tree = w.tree ∧ s.root = w.scope.root ∧ s.table = w.scope.table ∧
      (strategy.usesIndex = true →
        ∃ files, w.tree.scan w.scope.root [".md"] w.scope.excludeDirs = .ok files ∧
          s.index = FileIndex.ofFiles files) := by
  unfold surroundings at h
  by_cases huse : strategy.usesIndex = true
  · rw [if_pos huse] at h
    obtain ⟨i, u, hi, h⟩ := bind_ok_iff.1 h
    have hkeep : KeepsProject w u := keeps_fileIndex.of_run hi
    simp only at h
    rw [bind_run_of_ok (scope_run u), bind_run_of_ok (tree_run u)] at h
    cases h
    exact ⟨hkeep.tree, hkeep.root, hkeep.table, fun _ => fileIndex_ok hfresh hi⟩
  · rw [if_neg huse] at h
    cases h
    exact ⟨rfl, rfl, rfl, fun h => absurd h huse⟩

theorem runStrategy_ok {strategy : Strategy} {b : BrokenLink} {w v : Workspace Context}
    {suggestion : FixSuggestion} (hfresh : FreshIndex w)
    (h : runStrategy strategy b w = (.ok (some suggestion), v)) :
    SuggestedIn w.tree w.scope b suggestion := by
  unfold runStrategy at h
  obtain ⟨s, u, hs, h⟩ := bind_ok_iff.1 h
  obtain ⟨htree, hroot, htable, hindex⟩ := surroundings_ok hfresh hs
  have hfind : strategy.find s b = some suggestion := by
    split at h
    · obtain ⟨_, u', _, h⟩ := bind_ok_iff.1 h
      exact Except.ok.inj (Prod.mk.inj h).1
    · exact Except.ok.inj (Prod.mk.inj h).1
  refine ⟨strategy, s.index, hindex, ?_⟩
  rw [← htree, ← hroot, ← htable]
  exact hfind

theorem runStrategies_ok {b : BrokenLink} {suggestion : FixSuggestion} :
    ∀ {strategies : List Strategy} {w v : Workspace Context}, FreshIndex w →
      runStrategies b strategies w = (.ok (some suggestion), v) →
      SuggestedIn w.tree w.scope b suggestion := by
  intro strategies
  induction strategies with
  | nil => intro w v _ h; cases h
  | cons strategy rest ih =>
    intro w v hfresh h
    unfold runStrategies at h
    obtain ⟨found, u, hfound, h⟩ := bind_ok_iff.1 h
    rcases found with _ | s
    · have hkeep : KeepsProject w u := (keeps_runStrategy strategy b).of_run hfound
      exact (ih (hkeep.index hfresh) h).congr hkeep
    · cases h
      exact runStrategy_ok hfresh hfound

/-- Searching for a batch is searching for its first link, and then for the others. Whether a record is
made in between does not matter to what follows. -/
theorem searchEach_cons_ok {b : BrokenLink} {bs : List BrokenLink} {w v : Workspace Context}
    {found : List (BrokenLink × Option FixSuggestion)} (h : searchEach (b :: bs) w = (.ok found, v)) :
    ∃ suggestion w₁ w₂ more, searchFix b w = (.ok suggestion, w₁) ∧ KeepsProject w w₂ ∧
      searchEach bs w₂ = (.ok more, v) ∧ found = (b, suggestion) :: more := by
  unfold searchEach at h
  obtain ⟨suggestion, w₁, hsearch, h⟩ := bind_ok_iff.1 h
  have h₁ : KeepsProject w w₁ := (keeps_runStrategies b _).of_run hsearch
  split at h
  · obtain ⟨_, w₂, hreport, h⟩ := bind_ok_iff.1 h
    obtain ⟨more, _, hmore, h⟩ := bind_ok_iff.1 h
    cases h
    exact ⟨suggestion, w₁, w₂, more, hsearch,
      keepsProject_isPreorder.trans h₁ ((keeps_report _).of_run hreport), hmore, rfl⟩
  · obtain ⟨more, _, hmore, h⟩ := bind_ok_iff.1 h
    cases h
    exact ⟨suggestion, w₁, w₁, more, hsearch, h₁, hmore, rfl⟩

theorem searchEach_ok {bs : List BrokenLink} :
    ∀ {w v : Workspace Context} {found : List (BrokenLink × Option FixSuggestion)}, FreshIndex w →
      searchEach bs w = (.ok found, v) →
      ∀ b suggestion, (b, some suggestion) ∈ found → SuggestedIn w.tree w.scope b suggestion := by
  induction bs with
  | nil =>
    intro w v found _ h b suggestion hmem
    cases h
    cases hmem
  | cons b bs ih =>
    intro w v found hfresh h b' suggestion hmem
    obtain ⟨s, w₁, w₂, more, hsearch, hkeep, hmore, rfl⟩ := searchEach_cons_ok h
    rcases List.mem_cons.1 hmem with heq | hmem
    · cases heq
      exact runStrategies_ok hfresh hsearch
    · exact (ih (hkeep.index hfresh) hmore b' suggestion hmem).congr hkeep

/-- **The suggestions of a batch** are those of the strategies, on the project as it is. -/
theorem searchAllFixes_ok {bs : List BrokenLink} {w v : Workspace Context}
    {found : Assoc BrokenLink (Option FixSuggestion)} (h : searchAllFixes bs w = (.ok found, v))
    {b : BrokenLink} {suggestion : FixSuggestion} (hb : (found.get? b).join = some suggestion) :
    SuggestedIn w.tree w.scope b suggestion := by
  unfold searchAllFixes at h
  obtain ⟨_, u, hclear, h⟩ := bind_ok_iff.1 h
  obtain ⟨pairs, u', hpairs, h⟩ := bind_ok_iff.1 h
  obtain ⟨_, u'', _, h⟩ := bind_ok_iff.1 h
  cases h
  have hkeep : KeepsProject w u := keeps_clearIndex.of_run hclear
  have hfresh : FreshIndex u := by
    cases hclear
    exact nofun
  rw [Option.join_eq_some_iff] at hb
  exact (searchEach_ok hfresh hpairs b suggestion (Assoc.mem_of_get?_ofList pairs hb)).congr hkeep

/-! ## The report -/

namespace Checker

/-- The pages of the project of a checker. -/
def pagesOf (s : Checker) (t : FileTree) : Except Fault (List String) := do
  markdownFiles t s.context.root (← scanFolder s.scanPath) s.context.excludeDirs

theorem pagesOf_eq_ok {s : Checker} {t : FileTree} {pages : List String} (h : s.pagesOf t = .ok pages) :
    ∃ folder, scanFolder s.scanPath = .ok folder ∧
      markdownFiles t s.context.root folder s.context.excludeDirs = .ok pages := by
  unfold pagesOf at h
  rcases hfolder : scanFolder s.scanPath with e | folder
  · rw [hfolder] at h
    cases h
  · rw [hfolder] at h
    exact ⟨folder, rfl, h⟩

/-- The verdicts on the links of pages. -/
def verdictsOf (s : Checker) (t : FileTree) (pages : List String) : List ValidationResult :=
  validateFiles t s.context.root s.context.table
    (documentsOf t s.context.root s.maxFileSize pages)

/-- Everything but the memories of the context and the log is the same. -/
structure KeepsChecker (w v : Workspace Checker) : Prop where
  tree : v.tree = w.tree
  scope : v.scope = { w.scope with context := v.scope.context }
  root : v.scope.context.root = w.scope.context.root
  excludeDirs : v.scope.context.excludeDirs = w.scope.context.excludeDirs
  table : v.scope.context.table = w.scope.context.table

theorem keepsChecker_isPreorder : IsPreorder KeepsChecker where
  refl _ := ⟨rfl, rfl, rfl, rfl, rfl⟩
  trans h h' := by
    refine ⟨h'.tree.trans h.tree, ?_, h'.root.trans h.root, h'.excludeDirs.trans h.excludeDirs,
      h'.table.trans h.table⟩
    have hs := h'.scope
    rw [h.scope] at hs
    exact hs

theorem onContext_ok {α : Type} {x : Work Context α} {w v : Workspace Checker} {r : Except Fault α}
    (h : onContext x w = (r, v)) :
    ∃ u, x ⟨w.tree, w.scope.context, w.log⟩ = (r, u) ∧
      v = ⟨u.tree, { w.scope with context := u.scope }, u.log⟩ := by
  unfold onContext within at h
  simp only at h
  exact ⟨_, Prod.ext (Prod.mk.inj h).1 rfl, (Prod.mk.inj h).2.symm⟩

theorem onContext_run {α : Type} {x : Work Context α} {w : Workspace Checker} {r : Except Fault α}
    {u : Workspace Context} (h : x ⟨w.tree, w.scope.context, w.log⟩ = (r, u)) :
    onContext x w = (r, ⟨u.tree, { w.scope with context := u.scope }, u.log⟩) := by
  unfold onContext within
  rw [h]

theorem keeps_onContext {α : Type} {x : Work Context α} (hx : Keeps x) :
    Sat KeepsChecker (onContext x) := by
  intro w
  have hkeep := hx ⟨w.tree, w.scope.context, w.log⟩
  exact ⟨hkeep.tree, rfl, hkeep.root, hkeep.excludeDirs, hkeep.table⟩

theorem keeps_sayChecker (r : LogRecord) : Sat KeepsChecker (report r) := fun _ =>
  ⟨rfl, rfl, rfl, rfl, rfl⟩

theorem keeps_sayDone (operation : String) (success : Bool) (context : LogContext) :
    Sat KeepsChecker (sayDone operation success context) := by
  unfold sayDone
  simp only
  split <;> exact keeps_sayChecker _

theorem keeps_parseFile (p : FilePath) : Sat KeepsChecker (Navigation.parseFile p) := by
  unfold Navigation.parseFile
  refine Sat.bind keepsChecker_isPreorder (fun w => keepsChecker_isPreorder.refl w) fun t => ?_
  split
  · exact fun w => keepsChecker_isPreorder.refl w
  · exact Sat.bind keepsChecker_isPreorder (keeps_sayChecker _) fun _ =>
      Sat.pure keepsChecker_isPreorder _

theorem keeps_checkNavigation : Sat KeepsChecker checkNavigation := by
  have hR := keepsChecker_isPreorder
  refine Sat.bind hR (fun w => hR.refl w) fun s => Sat.bind hR (keeps_parseFile _) fun n => ?_
  refine Sat.bind hR (fun w => hR.refl w) fun t => ?_
  exact Sat.bind hR (Sat.forM hR (fun _ => keeps_sayChecker _) _) fun _ => Sat.pure hR _

theorem keeps_pages : Sat KeepsChecker pages := by
  have hR := keepsChecker_isPreorder
  exact Sat.bind hR (fun w => hR.refl w) fun s => Sat.bind hR (fun w => hR.refl w) fun t =>
    fun w => hR.refl w

/-- **Checking** changes nothing but memories, also if it ends with a fault. -/
theorem keeps_check : Sat KeepsChecker check := by
  have hR := keepsChecker_isPreorder
  unfold check
  refine Sat.bind hR (fun w => hR.refl w) fun s => Sat.bind hR (keeps_sayChecker _) fun _ => ?_
  refine Sat.bind hR (keeps_onContext (keeps_modifyHeadings _)) fun _ => ?_
  refine Sat.bind hR keeps_checkNavigation fun missing => Sat.bind hR keeps_pages fun files => ?_
  refine Sat.bind hR (keeps_onContext (keeps_readDocuments _ _)) fun (documents, errors) => ?_
  refine Sat.bind hR (keeps_onContext (keeps_validateAll _)) fun results => ?_
  refine Sat.bind hR (keeps_onContext (keeps_searchAllFixes _)) fun found => ?_
  refine Sat.bind hR (Sat.forM hR (fun _ => keeps_sayChecker _) _) fun _ => ?_
  have hend : ∀ anchors : Work Checker (List AnchorCheck), Sat KeepsChecker anchors →
      ∀ finish : List AnchorCheck → Work Checker CheckReport, (∀ a, Sat KeepsChecker (finish a)) →
        Sat KeepsChecker (anchors >>= finish) := fun _ h _ h' => Sat.bind hR h h'
  split
  · exact hend _ (keeps_onContext (keeps_validateAllAnchors _)) _ fun _ =>
      Sat.bind hR (keeps_sayDone _ _ _) fun _ => Sat.pure hR _
  · exact hend _ (Sat.pure hR _) _ fun _ =>
      Sat.bind hR (keeps_sayDone _ _ _) fun _ => Sat.pure hR _

/-- A check of which only the context is known to be kept sees the same pages. -/
theorem KeepsChecker.pagesOf {w v : Workspace Checker} (h : KeepsChecker w v) :
    v.scope.pagesOf v.tree = w.scope.pagesOf w.tree := by
  unfold Checker.pagesOf
  rw [h.tree, h.root, h.excludeDirs, h.scope]

theorem pages_ok {w v : Workspace Checker} {files : List String}
    (h : pages w = (.ok files, v)) : v = w ∧ w.scope.pagesOf w.tree = .ok files := by
  unfold pages at h
  rw [bind_run_of_ok (scope_run w), bind_run_of_ok (tree_run w), ofExcept_run] at h
  exact ⟨(Prod.mk.inj h).2.symm, (Prod.mk.inj h).1⟩

/-- A context in which a stage of a check runs: the memories may differ, the rest is that of the checker. -/
structure RunsOn (w : Workspace Checker) (u : Workspace Context) : Prop where
  tree : u.tree = w.tree
  root : u.scope.root = w.scope.context.root
  excludeDirs : u.scope.excludeDirs = w.scope.context.excludeDirs
  table : u.scope.table = w.scope.context.table

theorem KeepsChecker.runsOn {w v : Workspace Checker} (h : KeepsChecker w v) :
    RunsOn w ⟨v.tree, v.scope.context, v.log⟩ :=
  ⟨h.tree, h.root, h.excludeDirs, h.table⟩

/-- The report of a check put together from its stages: reading the pages and searching suggestions. -/
structure Assembled (w : Workspace Checker) (pages : List String) (report : CheckReport) : Prop where
  pages_eq : w.scope.pagesOf w.tree = .ok pages
  read : ∃ u u', RunsOn w u ∧ readDocuments w.scope.maxFileSize pages u
    = (.ok (documentsOf w.tree w.scope.context.root w.scope.maxFileSize pages, report.errors), u')
  filesScanned : report.filesScanned
    = (documentsOf w.tree w.scope.context.root w.scope.maxFileSize pages).length
  linksChecked : report.linksChecked = (validationStats (w.scope.verdictsOf w.tree pages)).total
  validLinks : report.validLinks = (validationStats (w.scope.verdictsOf w.tree pages)).valid
  brokenLinks : report.brokenLinks = (validationStats (w.scope.verdictsOf w.tree pages)).broken
  redirectAvailable : report.redirectAvailable
    = (validationStats (w.scope.verdictsOf w.tree pages)).redirectAvailable
  searched : ∃ u u' found, RunsOn w u ∧
    searchAllFixes (DocLinks.brokenLinks (w.scope.verdictsOf w.tree pages)) u = (.ok found, u') ∧
    report.details = (DocLinks.brokenLinks (w.scope.verdictsOf w.tree pages)).map fun b =>
      ⟨b, (found.get? b).join⟩

/-- A stage has answered, in a workspace of which only the memories and the log are others. -/
def Answered {α : Type} (w : Workspace Checker) (x : Work Checker α) (a : α) : Prop :=
  ∃ u u', KeepsChecker w u ∧ x u = (.ok a, u')

theorem Answered.of_onContext {α : Type} {w : Workspace Checker} {x : Work Context α} {a : α}
    (h : Answered w (onContext x) a) : ∃ u u', RunsOn w u ∧ x u = (.ok a, u') := by
  obtain ⟨v, _, hkeep, hrun⟩ := h
  obtain ⟨u', hx, -⟩ := onContext_ok hrun
  exact ⟨_, u', hkeep.runsOn, hx⟩

/-- The first stage of a run, and what follows it. -/
theorem exists_answered {α β : Type} {w u v : Workspace Checker} {x : Work Checker α}
    {f : α → Work Checker β} {b : β} (hkeep : KeepsChecker w u) (hx : Sat KeepsChecker x)
    (h : (x >>= f) u = (.ok b, v)) :
    ∃ a u', Answered w x a ∧ KeepsChecker w u' ∧ f a u' = (.ok b, v) := by
  obtain ⟨a, u', hrun, h⟩ := bind_ok_iff.1 h
  exact ⟨a, u', ⟨u, u', hkeep, hrun⟩, keepsChecker_isPreorder.trans hkeep (hx.of_run hrun), h⟩

/-- The stages of a check that has answered, each with what it was asked and what it has said. -/
structure Stages (w : Workspace Checker) (report : CheckReport) (files : List String)
    (documents : List FileLinks) (results : List ValidationResult)
    (found : Assoc BrokenLink (Option FixSuggestion)) : Prop where
  navigation : Answered w checkNavigation report.missingNavigation
  pages : Answered w pages files
  read : Answered w (onContext (readDocuments w.scope.maxFileSize files)) (documents, report.errors)
  validated : Answered w (onContext (validateAll documents)) results
  searched : Answered w (onContext (searchAllFixes (DocLinks.brokenLinks results))) found
  filesScanned : report.filesScanned = documents.length
  linksChecked : report.linksChecked = (validationStats results).total
  validLinks : report.validLinks = (validationStats results).valid
  brokenLinks : report.brokenLinks = (validationStats results).broken
  redirectAvailable : report.redirectAvailable = (validationStats results).redirectAvailable
  details : report.details
    = (DocLinks.brokenLinks results).map fun b => ⟨b, (found.get? b).join⟩

/-- **A check that answers** has gone through all its stages. -/
theorem exists_stages {w v : Workspace Checker} {report : CheckReport}
    (h : check w = (.ok report, v)) :
    ∃ files documents results found, Stages w report files documents results found := by
  unfold check at h
  rw [bind_run_of_ok (scope_run w)] at h
  simp only at h
  obtain ⟨_, _, -, hkeep, h⟩ := exists_answered (keepsChecker_isPreorder.refl w) (keeps_sayChecker _) h
  obtain ⟨_, _, -, hkeep, h⟩ := exists_answered hkeep (keeps_onContext (keeps_modifyHeadings _)) h
  obtain ⟨missing, _, hmissing, hkeep, h⟩ := exists_answered hkeep keeps_checkNavigation h
  obtain ⟨files, _, hfiles, hkeep, h⟩ := exists_answered hkeep keeps_pages h
  obtain ⟨⟨documents, errors⟩, _, hdocuments, hkeep, h⟩ :=
    exists_answered hkeep (keeps_onContext (keeps_readDocuments _ _)) h
  obtain ⟨results, _, hresults, hkeep, h⟩ :=
    exists_answered hkeep (keeps_onContext (keeps_validateAll _)) h
  obtain ⟨found, _, hfound, -, h⟩ :=
    exists_answered hkeep (keeps_onContext (keeps_searchAllFixes _)) h
  obtain ⟨_, _, -, h⟩ := bind_ok_iff.1 h
  -- What follows makes records, and headings to be remembered.
  split at h
  all_goals
    obtain ⟨anchors, _, -, h⟩ := bind_ok_iff.1 h
    obtain ⟨_, _, -, h⟩ := bind_ok_iff.1 h
    cases h
    exact ⟨files, documents, results, found, hmissing, hfiles, hdocuments, hresults, hfound, rfl, rfl,
      rfl, rfl, rfl, rfl⟩

/-- **The stages of a check** that answers. Checking changes nothing but memories. -/
theorem check_stages {w v : Workspace Checker} {report : CheckReport}
    (h : check w = (.ok report, v)) : KeepsChecker w v ∧ ∃ pages, Assembled w pages report := by
  obtain ⟨files, documents, results, found, hstages⟩ := exists_stages h
  obtain ⟨u, _, hkeep, hpages⟩ := hstages.pages
  obtain ⟨u₁, u₁', hruns₁, hread⟩ := hstages.read.of_onContext
  obtain ⟨u₂, _, hruns₂, hvalidate⟩ := hstages.validated.of_onContext
  obtain ⟨u₃, u₃', hruns₃, hsearch⟩ := hstages.searched.of_onContext
  -- What the stages have found is told by the tree and the settings of the checker.
  obtain ⟨-, hfiles⟩ := pages_ok hpages
  rw [hkeep.pagesOf] at hfiles
  have hdocuments := readDocuments_ok hread
  rw [hruns₁.tree, hruns₁.root] at hdocuments
  have hverdicts := validateAll_ok hvalidate
  rw [hruns₂.tree, hruns₂.root, hruns₂.table, hdocuments] at hverdicts
  obtain rfl : results = w.scope.verdictsOf w.tree files := hverdicts
  rw [hdocuments] at hread
  refine ⟨keeps_check.of_run h, files, hfiles, ⟨u₁, u₁', hruns₁, hread⟩, ?_, hstages.linksChecked,
    hstages.validLinks, hstages.brokenLinks, hstages.redirectAvailable,
    ⟨u₃, u₃', found, hruns₃, hsearch, hstages.details⟩⟩
  rw [hstages.filesScanned, hdocuments]

/-- **The report of a check.** It lists the broken links of the pages, with suggestions that the
strategies know; and checking changes nothing but memories. -/
theorem check_ok {w v : Workspace Checker} {report : CheckReport}
    (h : check w = (.ok report, v)) :
    KeepsChecker w v ∧ ∃ pages, w.scope.pagesOf w.tree = .ok pages ∧
      report.details.map (·.broken) = brokenLinks (w.scope.verdictsOf w.tree pages) ∧
      ∀ d ∈ report.details, ∀ suggestion, d.suggestion = some suggestion →
        SuggestedIn w.tree w.scope.context d.broken suggestion := by
  obtain ⟨hkeep, pages, hassembled⟩ := check_stages h
  obtain ⟨u, u', found, hruns, hfound, hdetails⟩ := hassembled.searched
  refine ⟨hkeep, pages, hassembled.pages_eq, ?_, ?_⟩
  · rw [hdetails, List.map_map]
    exact List.map_id _
  · intro d hd suggestion hs
    rw [hdetails] at hd
    obtain ⟨b, _, rfl⟩ := List.mem_map.1 hd
    obtain ⟨strategy, index, hindex, hfind⟩ := searchAllFixes_ok hfound hs
    rw [hruns.tree, hruns.root, hruns.excludeDirs] at hindex
    rw [hruns.tree, hruns.root, hruns.table] at hfind
    exact ⟨strategy, index, hindex, hfind⟩

end Checker

end DocLinks
