import DocLinks.Proofs.Check.Fixing
import DocLinks.Proofs.Check.Suggestions
import DocLinks.Proofs.Check.Verdicts

/-!
# A check and its fixes

A check followed by fixing its report, seen as one step of the project. The fixes are for broken
links of the pages, each with a path that a strategy suggested; the results are those that each page
gets by itself on the tree of the check (`checkThenFix`).
-/

namespace DocLinks

open Text FileTree

/-- What a check and the fixing of its report have to do with each other: `w` is where the check
began, `v` what the fixing left. -/
structure FixRun (w v : Workspace Checker) (pages : List String) (fixes : List SuggestedFix)
    (results : List FixResult) : Prop where
  pages_eq : w.scope.pagesOf w.tree = .ok pages
  /-- Every fix is for a broken link of a page, with a suggestion for that link. -/
  broken : ∀ f ∈ fixes, .broken f.broken ∈ w.scope.verdictsOf w.tree pages
  suggested : ∀ f ∈ fixes, SuggestedIn w.tree w.scope.context f.broken f.suggestion
  separate : SeparateFiles w.tree w.scope.context.root fixes
  /-- Every page gets the results that it would get by itself. -/
  verdicts : results.map FixResult.verdict = (sourcesOf fixes).flatMap fun s =>
    documentVerdicts w.tree w.scope.context.root s (fixesOf s fixes)
  /-- Besides the writes of the batch only the file of the redirects can change. -/
  kept : ∀ place, (∀ table file, w.scope.context.table = some table → table.file = some file →
      w.tree.placeOf file ≠ .ok place) →
    v.tree.node? place
      = (finalTree w.tree (batchWrites w.tree w.scope.context.root fixes)).node? place
  shape : SameShape w.tree v.tree
  /-- The settings of the checker are the same, up to the redirects. -/
  root : v.scope.context.root = w.scope.context.root
  excludeDirs : v.scope.context.excludeDirs = w.scope.context.excludeDirs
  scanPath : v.scope.scanPath = w.scope.scanPath
  maxFileSize : v.scope.maxFileSize = w.scope.maxFileSize

theorem sameShape_finalTree {t u : FileTree} {root : FilePath} {fs : List SuggestedFix}
    (sources : List String) (h : SameShape t u) :
    SameShape t (finalTree u (sources.map fun s => documentWrite t root s (fixesOf s fs))) := by
  induction sources generalizing u with
  | nil => exact h
  | cons s ss ih => exact ih (sameShape_afterWrite h root s (fixesOf s fs))

/-- **Where a verdict comes from**: it is on a link of the text of a page. -/
theorem mem_verdictsOf_iff {s : Checker} {t : FileTree} {pages : List String} {r : ValidationResult} :
    r ∈ s.verdictsOf t pages ↔ ∃ page ∈ pages, ∃ limit text link,
      Checker.limitOf s.maxFileSize = .ok limit ∧
      t.read (projectPath s.context.root page) limit = .ok text ∧ link ∈ Markdown.links text ∧
      r = validateLink t s.context.root s.context.table page link := by
  unfold Checker.verdictsOf validateFiles documentsOf
  rw [List.mem_flatMap]
  constructor
  · rintro ⟨links, hlinks, h⟩
    obtain ⟨page, hpage, hsome⟩ := List.mem_filterMap.1 hlinks
    obtain ⟨link, hlink, rfl⟩ := List.mem_map.1 h
    obtain ⟨limit, text, hlimit, htext, rfl⟩ := pageLinks?_eq_some_iff.1 hsome
    exact ⟨page, hpage, limit, text, link, hlimit, htext, hlink, rfl⟩
  · rintro ⟨page, hpage, limit, text, link, hlimit, htext, hlink, rfl⟩
    have hsome := pageLinks?_eq_some_iff.2 ⟨limit, text, hlimit, htext, rfl⟩
    exact ⟨Markdown.parseLinks page text, List.mem_filterMap.2 ⟨page, hpage, hsome⟩,
      List.mem_map.2 ⟨link, hlink, rfl⟩⟩

/-- The broken links of verdicts are verdicts. -/
theorem broken_of_mem_brokenLinks {rs : List ValidationResult} {b : BrokenLink}
    (h : b ∈ brokenLinks rs) : .broken b ∈ rs := by
  obtain ⟨r, hr, hsome⟩ := List.mem_filterMap.1 h
  unfold ValidationResult.broken? at hsome
  split at hsome
  · rw [← Option.some.inj hsome]
    exact hr
  · cases hsome

/-- The text of a page of which a link is broken. -/
theorem exists_text_of_broken {s : Checker} {t : FileTree} {pages : List String} {b : BrokenLink}
    (h : .broken b ∈ s.verdictsOf t pages) :
    b.sourceFile ∈ pages ∧ (b.link.kind = .internal ∨ b.link.kind = .asset) ∧
      (resolveLink t s.context.root b.sourceFile b.link.targetPath).isFile = false ∧
      ∃ limit text, t.read (projectPath s.context.root b.sourceFile) limit = .ok text ∧
        b.link ∈ Markdown.links text := by
  obtain ⟨page, hpage, limit, text, link, _, htext, hlink, heq⟩ := mem_verdictsOf_iff.1 h
  obtain ⟨hkind, hfile, _, rfl⟩ := validateLink_eq_broken_iff.1 heq.symm
  exact ⟨hpage, hkind, hfile, limit, text, htext, hlink⟩

/-- The fixes of a report are for broken links of the pages, and each has a suggestion for its link. -/
theorem fixable_of_check {w w₁ : Workspace Checker} {report : CheckReport}
    (h : Checker.check w = (.ok report, w₁)) :
    ∃ pages, w.scope.pagesOf w.tree = .ok pages ∧ ∀ f ∈ report.fixable,
      .broken f.broken ∈ w.scope.verdictsOf w.tree pages ∧
        SuggestedIn w.tree w.scope.context f.broken f.suggestion := by
  obtain ⟨-, pages, hpages, hdetails, hsuggested⟩ := Checker.check_ok h
  refine ⟨pages, hpages, fun f hf => ?_⟩
  obtain ⟨d, hd, hsome⟩ := List.mem_filterMap.1 hf
  obtain ⟨s, hs, rfl⟩ := Option.map_eq_some_iff.1 hsome
  refine ⟨broken_of_mem_brokenLinks ?_, hsuggested d hd s hs⟩
  rw [← hdetails]
  exact List.mem_map_of_mem hd

/-- **A check and the fixing of its report.** -/
theorem checkThenFix {w w₁ v : Workspace Checker} {report : CheckReport} {tier : Option Value}
    {approve : Option (SuggestedFix → Bool)} {batch : FixBatch} {asked : List SuggestedFix}
    (ht : w.tree.Proper) (hcheck : Checker.check w = (.ok report, w₁))
    (hfix : Checker.fix (some report) tier approve w₁ = (.ok (batch, asked), v)) :
    ∃ pages fixes, FixRun w v pages fixes batch.results := by
  have hkeep := Checker.keeps_check.of_run hcheck
  obtain ⟨pages, hpages, hfixable⟩ := fixable_of_check hcheck
  obtain ⟨fixes, results, u, u', hsub, happly, hverdicts, hrecords, htree, hscope, hroot,
    hexclude⟩ := Checker.fix_ok hfix
  rw [hkeep.root, hkeep.tree] at happly
  have hbroken : ∀ f ∈ fixes, .broken f.broken ∈ w.scope.verdictsOf w.tree pages :=
    fun f hf => (hfixable f (hsub.subset hf)).1
  have hin : ∀ f ∈ fixes, SuggestedIn w.tree w.scope.context f.broken f.suggestion :=
    fun f hf => (hfixable f (hsub.subset hf)).2
  obtain ⟨_, -, hfiles⟩ := Checker.pagesOf_eq_ok hpages
  have hsep : SeparateFiles w.tree w.scope.context.root fixes :=
    separateFiles_of_markdownFiles ht hfiles fun f hf => (exists_text_of_broken (hbroken f hf)).1
  obtain ⟨results', log, hrun, hresults⟩ := applyFixes_run w.scope.context.root fixes
    (fun f hf => ((hin f hf).hasFile ht).1) ⟨w.tree, w₁.scope.context, w₁.log⟩ hsep
  rw [happly] at hrun
  obtain ⟨heq, hu⟩ := Prod.mk.inj hrun
  obtain rfl := Except.ok.inj heq
  subst hu
  have hshape : SameShape w.tree
      (finalTree w.tree (batchWrites w.tree w.scope.context.root fixes)) :=
    sameShape_finalTree (sourcesOf fixes) (.refl _)
  refine ⟨pages, fixes, hpages, hbroken, hin, hsep, hverdicts.trans hresults, ?_, ?_, ?_, ?_, ?_, ?_⟩
  · intro place hplace
    rw [htree]
    refine hrecords.kept place fun p hp => ?_
    have hp' : w.scope.context.table.bind (·.file) = some p := by
      rw [← hkeep.table]
      exact hp
    obtain ⟨table, htable, hfile⟩ := Option.bind_eq_some_iff.1 hp'
    intro hp
    exact hplace table p htable hfile ((hshape.placeOf p).symm.trans hp)
  · rw [htree]
    exact hshape.trans hrecords.shape
  · rw [hroot, hrecords.root]
    exact hkeep.root
  · rw [hexclude, hrecords.excludeDirs]
    exact hkeep.excludeDirs
  · rw [hscope, hkeep.scope]
  · rw [hscope, hkeep.scope]

/-- Every result is about one of the fixes. -/
theorem FixRun.exists_fix {w v : Workspace Checker} {pages : List String} {fixes : List SuggestedFix}
    {results : List FixResult} (h : FixRun w v pages fixes results) {r : FixResult} (hr : r ∈ results) :
    ∃ f ∈ fixes, f.attempt = r.attempt := by
  have hmem : r.attempt ∈ results.map FixResult.attempt := List.mem_map_of_mem hr
  rw [results_attempt h.verdicts] at hmem
  obtain ⟨f, hf, hattempt⟩ := List.mem_map.1 hmem
  obtain ⟨s, _, hf⟩ := List.mem_flatMap.1 hf
  exact ⟨f, (mem_fixesOf.1 (mem_answerOrder.1 hf)).1, hattempt⟩

/-! ## A project of one page -/

/-- A project at `/p` with the page `docs/old.md` and an empty navigation file. Suggestions of medium
confidence are applied, and no redirects are recorded. -/
def onePageProject (page : String) : Workspace Checker where
  tree :=
    { nodes := [(["p"], .folder), (["p", "nav"], .file (.text "")), (["p", "docs"], .folder),
        (["p", "docs", "old.md"], .file (.text page))]
      cwd := ["p"]
      home := [] }
  scope :=
    { config := [(.text "fixes", Config.textDict
        [("auto_fix_confidence", .text "medium"), ("add_redirects", .bool false)])]
      navigationPath := .ofString "/p/nav"
      redirectsPath := .ofString "/p/.gitbook.yaml"
      scanPath := .null
      checkAnchors := false
      maxFileSize := .int 1000
      context := { root := .ofString "/p", excludeDirs := [], table := none } }

/-- Fixing without a report is a check and the fixing of its report. -/
theorem Checker.check_then_fix {tier : Option Value} {approve : Option (SuggestedFix → Bool)}
    {w v : Workspace Checker} {answer : FixBatch × List SuggestedFix}
    (h : Checker.fix none tier approve w = (.ok answer, v)) :
    ∃ report w₁, Checker.check w = (.ok report, w₁) ∧
      Checker.fix (some report) tier approve w₁ = (.ok answer, v) :=
  Work.bind_ok_iff.1 h

end DocLinks
