import DocLinks.Proofs.DocPath.Ways
import DocLinks.Proofs.Fix.Batch
import DocLinks.Proofs.Fix.Occurrences

/-!
# Byte-exact rewriting

What a batch of fixes leaves of a tree, file by file. A document that is readable and can be replaced
has its lines after the fixes of each line; everything else keeps its bytes, and no fix of a document
that cannot be read or written counts as applied.

The answers come document by document, and those of a document from its last line to its first. The
one exception is a document that cannot be read: its answers come in the order of its fixes
(`RewritesExactly.lastLineFirst_iff`).

## Contents
- `AnsweredLastLineFirst`: the order in which a batch is to be answered.
- `RewritesExactly`: what a batch does to a tree, and what it answers.
- `applyFixes_rewritesExactly`: it does so on every tree.
-/

namespace DocLinks

open Text FileTree

/-! ## Line feeds -/

/-- A fix leaves a line one line: what it writes is made of characters of the suggested path and of
the current directory, and of an anchor that was on the line before. -/
theorem newline_not_mem_fixedLine {cwd : List String} (hcwd : ∀ n ∈ cwd, '\n' ∉ n.toList)
    {f : SuggestedFix} (hf : '\n' ∉ f.suggestion.suggestedPath.toList) {line : List Char}
    (hline : '\n' ∉ line) : '\n' ∉ fixedLine cwd line f := by
  rcases fixedLine_cases cwd line f with hsame | ⟨target, htarget, hr⟩
  · rwa [hsame]
  · rw [replaceLink_eq_some] at hr
    intro h
    rcases mem_replaceOccurrences line (by rw [hr]; exact h) with hmem | hmem
    · -- The line feed is in the new target, so it is in the anchor.
      have htar : '\n' ∈ target.toList := by simpa using hmem
      obtain ⟨relative, hrel, rfl⟩ := Option.map_eq_some_iff.1 htarget
      have hrelative : '\n' ∉ relative.toList := by
        rw [toList_of_relativeLink? hrel]
        intro hc
        rcases mem_relativeTarget hc with hc | hc | hc | ⟨n, hn, hc⟩
        · exact absurd hc (by decide)
        · exact absurd hc (by decide)
        · exact hf hc
        · obtain ⟨m, hm, rfl⟩ := List.mem_map.1 hn
          exact hcwd m hm hc
      have hanchor : '\n' ∈ f.broken.link.writtenTarget := by
        unfold Link.withAnchor at htar
        unfold Link.writtenTarget Link.withAnchor
        split at htar
        · simp only [String.toList_append, List.mem_append] at htar ⊢
          rcases htar with (htar | htar) | htar
          · exact absurd htar hrelative
          · simp at htar
          · exact .inr htar
        · exact absurd htar hrelative
      exact hline (mem_of_found (by rw [hr]) hanchor)
    · exact hline hmem

theorem newline_not_mem_rewrittenLines {cwd : List String} (hcwd : ∀ n ∈ cwd, '\n' ∉ n.toList)
    {fs : List SuggestedFix} (hfs : ∀ f ∈ fs, '\n' ∉ f.suggestion.suggestedPath.toList)
    {lines : Lines} (hlines : ∀ l ∈ lines, '\n' ∉ l) :
    ∀ l ∈ rewrittenLines cwd fs lines, '\n' ∉ l :=
  forall_mem_rewrittenLines (fun f hf _ h => newline_not_mem_fixedLine hcwd (hfs f hf) h) hlines

/-- The text that is written, when it is read again, has the lines that were written. -/
theorem linesOf_ofLines_rewrittenLines {cwd : List String} (hcwd : ∀ n ∈ cwd, '\n' ∉ n.toList)
    {fs : List SuggestedFix} (hfs : ∀ f ∈ fs, '\n' ∉ f.suggestion.suggestedPath.toList)
    (text : String) :
    linesOf (ofLines (rewrittenLines cwd fs (linesOf text))) = rewrittenLines cwd fs (linesOf text) := by
  refine linesOf_ofLines (newline_not_mem_rewrittenLines hcwd hfs fun l hl =>
    newline_not_mem_of_mem_linesOf hl) fun hnil => ?_
  have hlen := congrArg List.length hnil
  rw [length_rewrittenLines] at hlen
  exact linesOf_ne_nil text (List.eq_nil_of_length_eq_zero hlen)

/-! ## The order of the answers -/

/-- The answers come document by document, and those of a document from its last line to its
first. -/
def AnsweredLastLineFirst (fs : List SuggestedFix) (results : List FixResult) : Prop :=
  ∃ order : String → List SuggestedFix,
    (∀ s ∈ sourcesOf fs, LastLineFirst (fixesOf s fs) (order s)) ∧
    results.map FixResult.attempt = ((sourcesOf fs).flatMap order).map SuggestedFix.attempt

/-- In that order, the lines go down within each document. -/
theorem AnsweredLastLineFirst.descending {fs : List SuggestedFix} {results : List FixResult}
    (h : AnsweredLastLineFirst fs results) {source : String} (hs : source ∈ sourcesOf fs) :
    (resultsOf source results).Pairwise fun r q => q.link.line ≤ r.link.line := by
  obtain ⟨order, horder, hattempt⟩ := h
  have hblock : (resultsOf source results).map FixResult.attempt
      = (order source).map SuggestedFix.attempt := by
    have hfilter : (resultsOf source results).map FixResult.attempt
        = (results.map FixResult.attempt).filter (·.1 = source) := by
      rw [resultsOf, List.filter_map]
      rfl
    rw [hfilter, hattempt, List.map_flatMap]
    refine filter_flatMap_of_key (fun a : String × Link × String => a.1) (fun s hs a ha => ?_) (nodup_sourcesOf fs) hs
    obtain ⟨f, hf, rfl⟩ := List.mem_map.1 ha
    exact (mem_fixesOf.1 ((horder s hs).perm.mem_iff.1 hf)).2
  have hdesc : ((order source).map SuggestedFix.attempt).Pairwise
      fun a b => b.2.1.line ≤ a.2.1.line := by
    rw [List.pairwise_map]
    exact (horder source hs).descending
  rw [← hblock, List.pairwise_map] at hdesc
  exact hdesc

/-! ## What a batch does -/

/-- **Byte-exact rewriting.** The tree `u` and the answers are what the fixes make of the tree
`t`. -/
structure RewritesExactly (t u : FileTree) (root : FilePath) (fs : List SuggestedFix)
    (results : List FixResult) : Prop where
  /-- There is one answer to each fix. The documents come in the order of their first fixes; the
  answers on a document come from its last line to its first, and in the order of the fixes if it
  cannot be read. -/
  order : ∃ order : String → List SuggestedFix,
    results.map FixResult.attempt = ((sourcesOf fs).flatMap order).map SuggestedFix.attempt ∧
    ∀ s ∈ sourcesOf fs,
      (∀ text, documentText t root s = .ok text → LastLineFirst (fixesOf s fs) (order s)) ∧
      (∀ e, documentText t root s = .error e → order s = fixesOf s fs)
  /-- The answers are all in the promised order if and only if the fixes of each document that
  cannot be read came in that order. -/
  lastLineFirst_iff : AnsweredLastLineFirst fs results ↔
    ∀ s ∈ sourcesOf fs, ∀ e, documentText t root s = .error e →
      (fixesOf s fs).Pairwise fun f g => g.broken.link.line ≤ f.broken.link.line
  /-- A document that is read and written has its lines after their fixes. They are as many as
  before, a line without a fix is the same, and the answers say which fixes found their link. -/
  rewritten : ∀ s ∈ sourcesOf fs, ∀ text place, documentText t root s = .ok text →
    t.placeOf (projectPath root s) = .ok place →
    ∀ lines, lines = rewrittenLines t.cwd (fixesOf s fs) (linesOf text) →
    (t.write (projectPath root s) (ofLines lines)).2 = none →
      (∃ c, u.node? place = some (.file c) ∧ c.read = .ok (ofLines lines)) ∧
      lines.length = (linesOf text).length ∧
      (∀ i : Nat, (∀ f ∈ fixesOf s fs, f.broken.link.line ≠ i + 1) →
        lines[i]? = (linesOf text)[i]?) ∧
      ((∀ n ∈ t.cwd, '\n' ∉ n.toList) → linesOf (ofLines lines) = lines) ∧
      (resultsOf s results).map FixResult.success
        = foundEach t.cwd (linesOf text) (fromLastLine (fixesOf s fs))
  /-- A place keeps its bytes unless a fix of the document that stands there succeeds. -/
  kept : ∀ place, (∀ s ∈ sourcesOf fs, t.placeOf (projectPath root s) = .ok place →
      ∀ r ∈ resultsOf s results, r.success = false) → u.node? place = t.node? place
  /-- If a document cannot be read, all its fixes fail. -/
  unreadable : ∀ s ∈ sourcesOf fs, ∀ e, documentText t root s = .error e →
    ∀ r ∈ resultsOf s results, r.success = false
  /-- If a document cannot be written, all its fixes fail. -/
  unwritable : ∀ s ∈ sourcesOf fs, ∀ text, documentText t root s = .ok text →
    (t.write (projectPath root s)
      (ofLines (rewrittenLines t.cwd (fixesOf s fs) (linesOf text)))).2 ≠ none →
    ∀ r ∈ resultsOf s results, r.success = false

/-- **A batch of fixes rewrites byte by byte** what its fixes say and nothing else. It always ends
with answers, and it keeps the state of its workspace. -/
theorem applyFixes_rewritesExactly {σ : Type} (root : FilePath) (fs : List SuggestedFix)
    (hpath : ∀ f ∈ fs, f.suggestion.suggestedPath ≠ "")
    (hline : ∀ f ∈ fs, '\n' ∉ f.suggestion.suggestedPath.toList) (w : Workspace σ)
    (hsep : SeparateFiles w.tree root fs) :
    ∃ results v, applyFixes root fs w = (.ok results, v) ∧ v.scope = w.scope ∧
      RewritesExactly w.tree v.tree root fs results := by
  obtain ⟨results, log, hrun, hverdicts⟩ := applyFixes_run root fs hpath w hsep
  have hsuccess := fun s (hs : s ∈ sourcesOf fs) => resultsOf_success hverdicts hs
  have hfail : ∀ s ∈ sourcesOf fs,
      successes w.tree root s (fixesOf s fs) = List.replicate (fixesOf s fs).length false →
      ∀ r ∈ resultsOf s results, r.success = false := by
    intro s hs hrep r hr
    have hmem := List.mem_map_of_mem (f := FixResult.success) hr
    rw [hsuccess s hs, hrep] at hmem
    exact List.eq_of_mem_replicate hmem
  refine ⟨results, _, hrun, rfl, ?_⟩
  constructor
  case order =>
    refine ⟨fun s => answerOrder w.tree root s (fixesOf s fs), results_attempt hverdicts,
      fun s _ => ⟨fun text htext => ?_, fun e he => answerOrder_of_error he _⟩⟩
    show LastLineFirst _ (answerOrder w.tree root s (fixesOf s fs))
    rw [answerOrder_of_ok htext]
    exact lastLineFirst_fromLastLine _
  case lastLineFirst_iff =>
    constructor
    · intro h s hs e he
      have hdesc := h.descending hs
      have hattempt := resultsOf_attempt hverdicts hs
      rw [answerOrder_of_error he] at hattempt
      have hmap : ((resultsOf s results).map FixResult.attempt).Pairwise
          fun a b => b.2.1.line ≤ a.2.1.line := by
        rw [List.pairwise_map]
        exact hdesc
      rw [hattempt, List.pairwise_map] at hmap
      exact hmap
    · intro h
      refine ⟨fun s => answerOrder w.tree root s (fixesOf s fs), fun s hs => ?_,
        results_attempt hverdicts⟩
      show LastLineFirst _ (answerOrder w.tree root s (fixesOf s fs))
      rcases htext : documentText w.tree root s with e | text
      · rw [answerOrder_of_error htext]
        exact ⟨.refl _, h s hs e htext, fun _ => rfl⟩
      · rw [answerOrder_of_ok htext]
        exact lastLineFirst_fromLastLine _
  case rewritten =>
    rintro s hs text place htext hplace lines rfl hwrite
    obtain ⟨_, _, _, _, hstat, _⟩ := documentText_eq_ok htext
    have hcan := (write_snd_eq_none_iff hstat _).1 hwrite
    have hfound : successes w.tree root s (fixesOf s fs)
        = foundEach w.tree.cwd (linesOf text) (fromLastLine (fixesOf s fs)) := by
      rw [successes_of_ok htext, if_pos hcan]
    refine ⟨node?_finalTree_of_document hsep hs htext hplace hfound, length_rewrittenLines,
      fun i hi => getElem?_rewrittenLines_of_forall_ne hi, fun hcwd => ?_, ?_⟩
    · exact linesOf_ofLines_rewrittenLines hcwd (fun f hf => hline f (mem_fixesOf.1 hf).1) text
    · rw [hsuccess s hs, hfound]
  case kept =>
    intro place h
    refine node?_finalTree_of_no_success fun s hs hplace hany => ?_
    rw [← hsuccess s hs] at hany
    obtain ⟨r, hr, htrue⟩ := List.mem_map.1 hany
    rw [h s hs hplace r hr] at htrue
    cases htrue
  case unreadable =>
    intro s hs e he
    exact hfail s hs (successes_of_error he _)
  case unwritable =>
    intro s hs text htext hwrite
    obtain ⟨_, _, _, _, hstat, _⟩ := documentText_eq_ok htext
    refine hfail s hs ?_
    rw [successes_of_ok htext, if_neg fun hcan => hwrite ((write_snd_eq_none_iff hstat _).2 hcan)]

/-! ## A project with two links -/

/-- A project at `/p` whose only page links to `old.md` twice. -/
def twoLinkTree : FileTree where
  nodes := [(["p"], .folder), (["p", "a.md"], .file (.text "[x](old.md)\n\n[y](old.md)"))]
  cwd := ["p"]
  home := []

/-- The root of that project. -/
def twoLinkRoot : FilePath := .ofString "/p"

/-- A fix that makes a link to `old.md` one to `new.md`. -/
def oldToNew (source : String) (line : Int) : SuggestedFix where
  broken := ⟨source, ⟨"[x](old.md)", "x", "old.md", none, line, 1, .internal⟩, some "old.md",
    "Target not found: old.md", by decide⟩
  suggestion := ⟨.high, "new.md", "", none⟩

/-- Fixes of the page, and of a page that is not there. -/
def twoPageFixes : List SuggestedFix := [oldToNew "a.md" 1, oldToNew "gone.md" 7, oldToNew "a.md" 3]

theorem separateFiles_twoPageFixes : SeparateFiles twoLinkTree twoLinkRoot twoPageFixes := by
  have hgone : twoLinkTree.placeOf (projectPath twoLinkRoot "gone.md")
      = .error (.os .noEntry "/p/gone.md" none) := rfl
  have hsource : ∀ f ∈ twoPageFixes,
      f.broken.sourceFile = "a.md" ∨ f.broken.sourceFile = "gone.md" := by decide
  intro f hf g hg place c hp hp' _
  rcases hsource f hf with hfs | hfs <;> rcases hsource g hg with hgs | hgs <;>
    rw [hfs] at hp <;> rw [hgs] at hp' <;> rw [hfs, hgs]
  · exact absurd (hgone.symm.trans hp') (by simp)
  · exact absurd (hgone.symm.trans hp) (by simp)

theorem applyFixes_rewritesExactly_twoPageFixes :
    (∀ f ∈ twoPageFixes, f.suggestion.suggestedPath ≠ "") ∧
      (∀ f ∈ twoPageFixes, '\n' ∉ f.suggestion.suggestedPath.toList) ∧
      SeparateFiles twoLinkTree twoLinkRoot twoPageFixes ∧
      ∃ results v, applyFixes twoLinkRoot twoPageFixes (⟨twoLinkTree, (), []⟩ : Workspace Unit)
          = (.ok results, v) ∧ v.scope = () ∧
        RewritesExactly twoLinkTree v.tree twoLinkRoot twoPageFixes results :=
  ⟨by decide, by decide, separateFiles_twoPageFixes,
    applyFixes_rewritesExactly twoLinkRoot twoPageFixes (by decide) (by decide) ⟨twoLinkTree, (), []⟩
      separateFiles_twoPageFixes⟩

/-- Fixes of a page that is not there, from its first line to its last. -/
def missingPageFixes : List SuggestedFix := [oldToNew "gone.md" 1, oldToNew "gone.md" 2]

/-- The fixes of a page that cannot be read are answered in the order in which they came. -/
theorem unreadable_answers_keep_order :
    ∃ results v, applyFixes twoLinkRoot missingPageFixes (⟨twoLinkTree, (), []⟩ : Workspace Unit)
        = (.ok results, v) ∧ ¬AnsweredLastLineFirst missingPageFixes results := by
  have hsource : ∀ f ∈ missingPageFixes, f.broken.sourceFile = "gone.md" := by decide
  have hsep : SeparateFiles twoLinkTree twoLinkRoot missingPageFixes := fun f hf g hg _ _ _ _ _ =>
    (hsource f hf).trans (hsource g hg).symm
  obtain ⟨results, log, hrun, hverdicts⟩ := applyFixes_run twoLinkRoot missingPageFixes (by decide)
    (⟨twoLinkTree, (), []⟩ : Workspace Unit) hsep
  refine ⟨results, _, hrun, fun h => ?_⟩
  have hs : "gone.md" ∈ sourcesOf missingPageFixes := by decide
  have hattempt := resultsOf_attempt hverdicts hs
  rw [answerOrder_of_error
    (e := .os .noEntry "/p/gone.md" none) (show documentText twoLinkTree twoLinkRoot "gone.md" = _ from rfl)]
    at hattempt
  have hdesc : ((resultsOf "gone.md" results).map FixResult.attempt).Pairwise
      fun a b => b.2.1.line ≤ a.2.1.line := by
    rw [List.pairwise_map]
    exact h.descending hs
  rw [hattempt] at hdesc
  revert hdesc
  decide

end DocLinks
