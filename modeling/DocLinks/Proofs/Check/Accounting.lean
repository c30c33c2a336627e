import DocLinks.Proofs.Check.CheckThenFix
import DocLinks.Proofs.Check.Memories
import DocLinks.Proofs.Markdown.Positions

/-!
# The report accounts for everything

Every page of a project is read or has one error, every link of the pages that are read has one verdict,
and every broken link stands once among the details, with the suggestion that a search for that link
alone finds (`Checker.check_accounts`). The details come in the order of the pages, and within a page in
the order in which its links are read: line by line, and on a line one spelling after the other. On a
line that is not always from left to right (`Checker.details_by_spelling`).

## Contents
- `pageError?`, `readDocuments_errors`: pages that cannot be read.
- `linksIn`, `pairwise_linksIn`, `Checker.verdictOn`: the links of pages, and their verdicts.
- `UpToDate`, `searchEach_answers`, `searchAllFixes_answers`: the suggestions of a batch.
- `Checker.Accounts`, `Checker.check_accounts`: the whole report.
-/

namespace DocLinks

open Work

/-! ## Pages -/

/-- What a check says of a page that cannot be read. -/
def pageError? (t : FileTree) (root : FilePath) (limit : Value) (page : String) : Option String :=
  match Checker.limitOf limit with
  | .error _ => none
  | .ok limit => unreadable? t root limit page

/-- Pages are read or listed with an error, if there are any. -/
theorem readDocuments_errors {limit : Value} {pages errors : List String} {documents : List FileLinks}
    {w v : Workspace Context} (h : Checker.readDocuments limit pages w = (.ok (documents, errors), v)) :
    errors = pages.filterMap (pageError? w.tree w.scope.root limit) ∧
      ∀ page ∈ pages, (pageError? w.tree w.scope.root limit page).isNone
        = (pageLinks? w.tree w.scope.root limit page).isSome := by
  rcases hlimit : Checker.limitOf limit with f | n
  · -- A limit that is none is noticed when the first page is read.
    rcases pages with _ | ⟨page, rest⟩
    · cases h
      exact ⟨rfl, fun page hpage => absurd hpage List.not_mem_nil⟩
    · unfold Checker.readDocuments at h
      rw [hlimit, bind_run, ofExcept_run] at h
      cases h
  · obtain ⟨log, hrun⟩ := readDocuments_run hlimit pages w
    rw [h] at hrun
    have herror : ∀ page, pageError? w.tree w.scope.root limit page
        = unreadable? w.tree w.scope.root n page := by
      intro page
      unfold pageError?
      rw [hlimit]
    constructor
    · cases hrun
      apply List.filterMap_congr
      intro page _
      exact (herror page).symm
    · intro page _
      rw [herror]
      unfold unreadable? pageLinks?
      simp only [hlimit]
      rcases w.tree.read (projectPath w.scope.root page) n with f | content
      · rfl
      · rfl

/-- Two ways to answer of which each item has exactly one. -/
theorem length_filterMap_add {α β γ : Type} {f : α → Option β} {g : α → Option γ} {as : List α}
    (h : ∀ a ∈ as, (g a).isNone = (f a).isSome) :
    (as.filterMap f).length + (as.filterMap g).length = as.length := by
  induction as with
  | nil => rfl
  | cons a as ih =>
    have ha := h a (List.mem_cons_self ..)
    have has := ih fun b hb => h b (List.mem_cons_of_mem _ hb)
    rw [List.filterMap_cons, List.filterMap_cons, List.length_cons]
    rcases hf : f a with _ | b
    · rcases hg : g a with _ | c
      · rw [hf, hg] at ha
        cases ha
      · simp only [List.length_cons]
        omega
    · rcases hg : g a with _ | c
      · simp only [List.length_cons]
        omega
      · rw [hf, hg] at ha
        cases ha

/-! ## Links -/

/-- The links of documents, each with the document that holds it, in the order in which they are read. -/
def linksIn (fs : List FileLinks) : List (String × Link) :=
  fs.flatMap fun f => f.links.map fun l => (f.filePath, l)

/-- **Links are read line by line**, no two of a document at the same place. The links of different
documents are told apart by the documents, since no page is listed twice. -/
theorem pairwise_linksIn {pages : List String} (hpages : pages.Nodup) (t : FileTree) (root : FilePath)
    (limit : Value) : (linksIn (documentsOf t root limit pages)).Pairwise fun l l' => l.1 = l'.1 →
      l.2.line ≤ l'.2.line ∧ (l.2.line, l.2.column) ≠ (l'.2.line, l'.2.column) := by
  unfold linksIn documentsOf
  apply List.pairwise_flatMap.2
  constructor
  · intro f hf
    obtain ⟨page, -, hsome⟩ := List.mem_filterMap.1 hf
    obtain ⟨-, content, -, -, rfl⟩ := pageLinks?_eq_some_iff.1 hsome
    apply List.pairwise_map.2
    apply (Markdown.pairwise_links content).imp
    intro l l' hplaces _
    exact hplaces
  · have hdistinct : pages.Pairwise (· ≠ ·) := hpages
    apply hdistinct.filterMap
    intro page page' hne f hf f' hf' p hp p' hp' hsame
    obtain ⟨-, content, -, -, rfl⟩ := pageLinks?_eq_some_iff.1 hf
    obtain ⟨-, content', -, -, rfl⟩ := pageLinks?_eq_some_iff.1 hf'
    obtain ⟨l, -, rfl⟩ := List.mem_map.1 hp
    obtain ⟨l', -, rfl⟩ := List.mem_map.1 hp'
    exact absurd hsame hne

/-- **No link is read twice.** -/
theorem nodup_linksIn {pages : List String} (hpages : pages.Nodup) (t : FileTree) (root : FilePath)
    (limit : Value) : (linksIn (documentsOf t root limit pages)).Nodup := by
  apply (pairwise_linksIn hpages t root limit).imp
  intro l l' hplaces heq
  exact (hplaces (congrArg Prod.fst heq)).2 (by rw [heq])

namespace Checker

/-- The verdict of a checker on a link of a document. -/
def verdictOn (s : Checker) (t : FileTree) (l : String × Link) : ValidationResult :=
  validateLink t s.context.root s.context.table l.1 l.2

theorem verdictsOf_eq_map (s : Checker) (t : FileTree) (pages : List String) :
    s.verdictsOf t pages
      = (linksIn (documentsOf t s.context.root s.maxFileSize pages)).map (s.verdictOn t) := by
  unfold verdictsOf validateFiles linksIn
  rw [List.map_flatMap]
  apply List.flatMap_congr
  intro f _
  unfold validateFile
  rw [List.map_map]
  rfl

end Checker

/-! ## Counts -/

/-- How often a verdict occurs among those on some links. -/
theorem length_filter_status {α : Type} (verdict : α → ValidationResult) (source : α → String)
    (s : Status) (as : List α) :
    ((as.map fun a => (source a, (verdict a).status)).filter (·.2 = s)).length
      = (as.filter fun a => (verdict a).status = s).length := by
  rw [List.filter_map, List.length_map]
  rfl

/-- Every verdict has one of three words. -/
theorem length_eq_sum_of_status {α : Type} (status : α → Status) (as : List α) :
    as.length = (as.filter (status · = .valid)).length + (as.filter (status · = .broken)).length +
      (as.filter (status · = .redirectAvailable)).length := by
  induction as with
  | nil => rfl
  | cons a as ih =>
    rw [List.length_cons, ih]
    rcases hstatus : status a with _ | _ | _
    all_goals
      simp only [List.filter_cons, hstatus, decide_true, if_true, List.length_cons, reduceCtorEq,
        decide_false, Bool.false_eq_true, if_false]
      omega

/-- A verdict is that a link is broken exactly if that is its word, and then it is a verdict on that
link. -/
theorem filterMap_broken?_verdictOn (s : Checker) (t : FileTree) (ls : List (String × Link)) :
    ((ls.map (s.verdictOn t)).filterMap ValidationResult.broken?).map (fun b => (b.sourceFile, b.link))
      = ls.filter fun l => (s.verdictOn t l).status = .broken := by
  rw [List.filterMap_map, List.map_filterMap, ← List.filterMap_eq_filter]
  apply List.filterMap_congr
  rintro ⟨source, link⟩ -
  rcases hverdict : s.verdictOn t (source, link) with _ | _ | b
  · simp [Option.guard, hverdict, ValidationResult.broken?, ValidationResult.status]
  · simp [Option.guard, hverdict, ValidationResult.broken?, ValidationResult.status]
  · obtain ⟨-, -, -, rfl⟩ := validateLink_eq_broken_iff.1 hverdict
    simp [Option.guard, hverdict, ValidationResult.broken?, ValidationResult.status, missingLink]

/-! ## Suggestions -/

/-- A context with the tree and the settings of another one, whose index, if it has one, is that of the
pages as they are. -/
structure UpToDate (w u : Workspace Context) : Prop where
  tree : u.tree = w.tree
  context : u.scope.reset = w.scope.reset
  index : FreshIndex u

theorem KeepsProject.upToDate {w v : Workspace Context} (h : KeepsProject w v) (hw : FreshIndex w) :
    UpToDate w v := by
  refine ⟨h.tree, ?_, h.index hw⟩
  unfold Context.reset Context.clearHeadings Context.clearIndex
  rw [h.root, h.excludeDirs, h.table]

theorem UpToDate.trans {w v u : Workspace Context} (h : UpToDate w v) (h' : UpToDate v u) :
    UpToDate w u :=
  ⟨h'.tree.trans h.tree, h'.context.trans h.context, h'.index⟩

/-- Searching for one link finds the same from every context of a project. -/
theorem UpToDate.searchFix_fst {w u : Workspace Context} (h : UpToDate w u) (hw : FreshIndex w)
    (b : BrokenLink) : (searchFix b w).1 = (searchFix b u).1 := by
  have hagree : Agree (IndexIsFresh fun _ _ _ => True) w u :=
    ⟨h.tree.symm, h.context.symm, ⟨hw, trivial⟩, ⟨h.index, trivial⟩⟩
  exact (agreeing_searchFix b w u hagree).1

/-- **The suggestions of a batch**: each link has what a search for it alone finds. -/
theorem searchEach_answers {bs : List BrokenLink} :
    ∀ {w v : Workspace Context} {found : List (BrokenLink × Option FixSuggestion)}, FreshIndex w →
      searchEach bs w = (.ok found, v) → found.map Prod.fst = bs ∧
        ∀ p ∈ found, ∀ u, UpToDate w u → (searchFix p.1 u).1 = .ok p.2 := by
  induction bs with
  | nil =>
    intro w v found _ h
    cases h
    exact ⟨rfl, fun p hp => absurd hp List.not_mem_nil⟩
  | cons b bs ih =>
    intro w v found hw h
    obtain ⟨suggestion, w₁, w₂, more, hsearch, h₂, hmore, rfl⟩ := searchEach_cons_ok h
    obtain ⟨hkeys, hanswers⟩ := ih (h₂.index hw) hmore
    refine ⟨by rw [List.map_cons, hkeys], fun p hp u hu => ?_⟩
    rcases List.mem_cons.1 hp with rfl | hp
    · rw [← hu.searchFix_fst hw, hsearch]
    · apply hanswers p hp u
      have hback : UpToDate w₂ w :=
        ⟨h₂.tree.symm, (h₂.upToDate hw).context.symm, hw⟩
      exact hback.trans hu

/-- **Suggestions of a batch by link.** -/
theorem searchAllFixes_answers {bs : List BrokenLink} {w v : Workspace Context}
    {found : Assoc BrokenLink (Option FixSuggestion)} (h : searchAllFixes bs w = (.ok found, v))
    {b : BrokenLink} (hb : b ∈ bs) {u : Workspace Context} (hu : UpToDate w u) :
    (searchFix b u).1 = .ok (found.get? b).join := by
  unfold searchAllFixes at h
  obtain ⟨_, w₁, hclear, h⟩ := bind_ok_iff.1 h
  obtain ⟨pairs, w₂, hpairs, h⟩ := bind_ok_iff.1 h
  obtain ⟨_, w₃, _, h⟩ := bind_ok_iff.1 h
  cases h
  have hfresh : FreshIndex w₁ := by
    cases hclear
    exact nofun
  obtain ⟨hkeys, hanswers⟩ := searchEach_answers hfresh hpairs
  have hmem : b ∈ pairs.map Prod.fst := by
    rw [hkeys]
    exact hb
  obtain ⟨p, hp, rfl⟩ := List.mem_map.1 hmem
  obtain ⟨suggestion, hget⟩ := Option.isSome_iff_exists.1 (Assoc.isSome_get?_ofList hp)
  rw [hget]
  apply hanswers _ (Assoc.mem_of_get?_ofList pairs hget)
  cases hclear
  exact ⟨hu.tree, hu.context, hu.index⟩

/-! ## The report -/

/-- How many links have a verdict, as a report has it. -/
def CheckReport.countOf (r : CheckReport) : Status → Nat
  | .valid => r.validLinks
  | .broken => r.brokenLinks
  | .redirectAvailable => r.redirectAvailable

/-- The document and the link that a detail is about. -/
def BrokenLinkDetail.on (d : BrokenLinkDetail) : String × Link := (d.broken.sourceFile, d.broken.link)

namespace Checker

/-- The links of pages that can be read, in the order in which they are read. -/
def linksOn (s : Checker) (t : FileTree) (pages : List String) : List (String × Link) :=
  linksIn (documentsOf t s.context.root s.maxFileSize pages)

/-- What a check says of a page of its project that cannot be read. -/
def errorOn? (s : Checker) (t : FileTree) (page : String) : Option String :=
  pageError? t s.context.root s.maxFileSize page

/-- A report that accounts for all pages of a project and for all links on them. -/
structure Accounts (w : Workspace Checker) (pages : List String) (report : CheckReport) : Prop where
  scanned : w.scope.pagesOf w.tree = .ok pages
  distinct : pages.Nodup
  /-- Every page is read or has one error. -/
  files : report.filesScanned + report.errors.length = pages.length
  errors : report.errors = pages.filterMap (w.scope.errorOn? w.tree)
  unread : ∀ page ∈ pages, (w.scope.errorOn? w.tree page).isNone
    = (pageLinks? w.tree w.scope.context.root w.scope.maxFileSize page).isSome
  /-- Every link of a page that is read is counted, and has one verdict. -/
  checked : report.linksChecked = (w.scope.linksOn w.tree pages).length
  total : report.linksChecked = report.validLinks + report.brokenLinks + report.redirectAvailable
  counts : ∀ s, report.countOf s = ((w.scope.linksOn w.tree pages).filter
    fun l => (w.scope.verdictOn w.tree l).status = s).length
  /-- The details are the broken links in the order in which they are read, each once. -/
  details : report.details.map BrokenLinkDetail.on = (w.scope.linksOn w.tree pages).filter
    fun l => (w.scope.verdictOn w.tree l).status = .broken
  once : (report.details.map BrokenLinkDetail.on).Nodup
  lineByLine : report.details.Pairwise fun d d' =>
    d.broken.sourceFile = d'.broken.sourceFile → d.broken.link.line ≤ d'.broken.link.line
  detailCount : report.details.length = report.brokenLinks
  broken : ∀ d ∈ report.details, w.scope.verdictOn w.tree d.on = .broken d.broken
  /-- A detail has the suggestion that is found for its link alone. -/
  suggestions : ∀ d ∈ report.details, ∀ u, UpToDate (contextOf w) u →
    (searchFix d.broken u).1 = .ok d.suggestion

theorem nodup_pagesOf {s : Checker} {t : FileTree} {pages : List String}
    (h : s.pagesOf t = .ok pages) : pages.Nodup := by
  obtain ⟨_, -, hfiles⟩ := pagesOf_eq_ok h
  exact nodup_markdownFiles hfiles

section Assembled

variable {w : Workspace Checker} {pages : List String} {report : CheckReport}

/-- The pages that cannot be read are those with an error. -/
theorem Assembled.errors_eq (h : Assembled w pages report) :
    report.errors = pages.filterMap (w.scope.errorOn? w.tree) ∧
      ∀ page ∈ pages, (w.scope.errorOn? w.tree page).isNone
        = (pageLinks? w.tree w.scope.context.root w.scope.maxFileSize page).isSome := by
  obtain ⟨u, u', hruns, hread⟩ := h.read
  have herrors := readDocuments_errors hread
  rw [hruns.tree, hruns.root] at herrors
  exact herrors

/-- As many links are counted as there are. -/
theorem Assembled.linksChecked_eq (h : Assembled w pages report) :
    report.linksChecked = (w.scope.linksOn w.tree pages).length := by
  rw [h.linksChecked, verdictsOf_eq_map]
  show ((List.map _ _).map _).length = _
  rw [List.length_map, List.length_map]
  rfl

/-- The counts of a report are those of the links by their verdicts. -/
theorem Assembled.countOf_eq (h : Assembled w pages report) (s : Status) :
    report.countOf s = ((w.scope.linksOn w.tree pages).filter
      fun l => (w.scope.verdictOn w.tree l).status = s).length := by
  have hcount : report.countOf s = (((w.scope.verdictsOf w.tree pages).map
      fun r => (r.sourceFile, r.status)).filter (·.2 = s)).length := by
    cases s
    · exact h.validLinks
    · exact h.brokenLinks
    · exact h.redirectAvailable
  rw [hcount, verdictsOf_eq_map, List.map_map]
  exact length_filter_status _ _ _ _

/-- The details are the links that are broken, in their order. -/
theorem Assembled.map_on (h : Assembled w pages report) :
    report.details.map BrokenLinkDetail.on = (w.scope.linksOn w.tree pages).filter
      fun l => (w.scope.verdictOn w.tree l).status = .broken := by
  obtain ⟨_, _, _, -, -, hdetails⟩ := h.searched
  rw [hdetails, List.map_map, verdictsOf_eq_map]
  exact filterMap_broken?_verdictOn _ _ _

/-- A detail has the verdict on its link. -/
theorem Assembled.verdictOn_on (h : Assembled w pages report) {d : BrokenLinkDetail}
    (hd : d ∈ report.details) : w.scope.verdictOn w.tree d.on = .broken d.broken := by
  obtain ⟨_, _, _, -, -, hdetails⟩ := h.searched
  rw [hdetails] at hd
  obtain ⟨b, hb, rfl⟩ := List.mem_map.1 hd
  have hverdict := broken_of_mem_brokenLinks hb
  rw [verdictsOf_eq_map] at hverdict
  obtain ⟨⟨source, link⟩, -, hlink⟩ := List.mem_map.1 hverdict
  -- A verdict that a link is broken names the link that it is about.
  have hon : (b.sourceFile, b.link) = (source, link) := by
    obtain ⟨-, -, -, rfl⟩ := validateLink_eq_broken_iff.1 hlink
    rfl
  show w.scope.verdictOn w.tree (b.sourceFile, b.link) = .broken b
  rw [hon]
  exact hlink

/-- A detail has the suggestion that is found for its link alone. -/
theorem Assembled.searchFix_fst (h : Assembled w pages report) {d : BrokenLinkDetail}
    (hd : d ∈ report.details) {u : Workspace Context} (hu : UpToDate (contextOf w) u) :
    (searchFix d.broken u).1 = .ok d.suggestion := by
  obtain ⟨u₁, _, found, hruns, hfound, hdetails⟩ := h.searched
  rw [hdetails] at hd
  obtain ⟨b, hb, rfl⟩ := List.mem_map.1 hd
  apply searchAllFixes_answers hfound hb
  -- The search ran in a context of the same project, with other memories.
  refine ⟨hu.tree.trans hruns.tree.symm, hu.context.trans ?_, hu.index⟩
  unfold Context.reset Context.clearHeadings Context.clearIndex contextOf
  rw [hruns.root, hruns.excludeDirs, hruns.table]

end Assembled

/-- **The report accounts for everything.** -/
theorem check_accounts {w v : Workspace Checker} {report : CheckReport}
    (h : check w = (.ok report, v)) : ∃ pages, Accounts w pages report := by
  obtain ⟨-, pages, hassembled⟩ := check_stages h
  have hdistinct : pages.Nodup := nodup_pagesOf hassembled.pages_eq
  obtain ⟨herrors, hunread⟩ := hassembled.errors_eq
  have hon := hassembled.map_on
  refine ⟨pages, ?_⟩
  constructor
  case scanned => exact hassembled.pages_eq
  case distinct => exact hdistinct
  case files =>
    rw [hassembled.filesScanned, herrors]
    exact length_filterMap_add hunread
  case errors => exact herrors
  case unread => exact hunread
  case checked => exact hassembled.linksChecked_eq
  case total =>
    rw [hassembled.linksChecked_eq,
      length_eq_sum_of_status (fun l => (w.scope.verdictOn w.tree l).status), ← hassembled.countOf_eq,
      ← hassembled.countOf_eq, ← hassembled.countOf_eq]
    rfl
  case counts => exact hassembled.countOf_eq
  case details => exact hon
  case once =>
    rw [hon]
    exact (nodup_linksIn hdistinct _ _ _).filter _
  case lineByLine =>
    have hlines := (pairwise_linksIn hdistinct w.tree w.scope.context.root w.scope.maxFileSize).filter
      fun l => (w.scope.verdictOn w.tree l).status = .broken
    change ((w.scope.linksOn w.tree pages).filter _).Pairwise _ at hlines
    rw [← hon, List.pairwise_map] at hlines
    exact hlines.imp fun hplaces hsame => (hplaces hsame).1
  case detailCount =>
    rw [← List.length_map (f := BrokenLinkDetail.on), hon]
    exact (hassembled.countOf_eq .broken).symm
  case broken => exact fun d hd => hassembled.verdictOn_on hd
  case suggestions => exact fun d hd u hu => hassembled.searchFix_fst hd hu

/-- The report on a page with a valid link and two broken ones, of which one may have meant the page. -/
theorem check_accounts_onePage :
    ∃ report v pages, check (onePageProject "[x](../old.md) [y](<b.md>)\n[z](old.md)") = (.ok report, v) ∧
      Accounts (onePageProject "[x](../old.md) [y](<b.md>)\n[z](old.md)") pages report ∧
      (report.filesScanned, report.linksChecked, report.validLinks) = (1, 3, 1) ∧
      report.details.map (fun d => (d.broken.link.displayText, d.suggestion.map (·.suggestedPath)))
        = [("y", none), ("x", some "docs/old.md")] := by
  obtain ⟨report, v, hcheck, hview⟩ := Work.exists_of_view (x := check)
    (w := onePageProject "[x](../old.md) [y](<b.md>)\n[z](old.md)")
    (f := fun report _ => ((report.filesScanned, report.linksChecked, report.validLinks),
      report.details.map fun d => (d.broken.link.displayText, d.suggestion.map (·.suggestedPath))))
    (c := ((1, 3, 1), [("y", none), ("x", some "docs/old.md")])) (by decide +kernel)
  obtain ⟨hcounts, hdetails⟩ := Prod.mk.inj hview
  obtain ⟨pages, haccounts⟩ := check_accounts hcheck
  exact ⟨report, v, pages, hcheck, haccounts, hcounts, hdetails⟩

/-! ## The order of the details -/

/-- Where the link of a detail stands: its document, its line and its column. -/
def placeOfDetail (d : BrokenLinkDetail) : String × Int × Int :=
  (d.broken.sourceFile, d.broken.link.line, d.broken.link.column)

/-- Places in one document come in the order in which they stand there. -/
def InDocumentOrder (places : List (String × Int × Int)) : Prop :=
  places.Pairwise fun p p' => p.1 = p'.1 → p.2.1 < p'.2.1 ∨ p.2.1 = p'.2.1 ∧ p.2.2 < p'.2.2

/-- On a line, a link with its target in angle brackets comes before one that stands left of it
without. -/
theorem details_by_spelling :
    ∃ report v, check (onePageProject "[x](a.md) [y](<b.md>)") = (.ok report, v) ∧
      ¬InDocumentOrder (report.details.map placeOfDetail) := by
  obtain ⟨report, v, hcheck, hplaces⟩ := Work.exists_of_view (x := check)
    (w := onePageProject "[x](a.md) [y](<b.md>)") (f := fun report _ => report.details.map placeOfDetail)
    (c := [("docs/old.md", 1, 11), ("docs/old.md", 1, 1)]) (by decide +kernel)
  refine ⟨report, v, hcheck, ?_⟩
  rw [hplaces]
  unfold InDocumentOrder
  decide

end Checker

end DocLinks
