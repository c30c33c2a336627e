import DocLinks.Proofs.Check.CheckThenFix
import DocLinks.Proofs.Fix.PlainTargets
import DocLinks.Proofs.Markdown.Lines

/-!
# Fixing links that are there

A link that is still on its line is found again by its target as it was read. So it is fixed if its
target is written as it is read, and if no fix before it has replaced that target on the line: the
first fix of a target replaces all its occurrences on the line, and the ones after it find none.

## Contents
- `result_turn`: when a result of a batch is a success, in terms of the results before it.
- `Link.WrittenAsRead`: the target of an inline link is written as it is read.
- `inlineLink_is_fixed`: the fix of such a link succeeds.
-/

namespace DocLinks

open Text FileTree Markdown

/-! ## The turn of a result -/

theorem getElem?_foundEach {cwd : List String} (fs : List SuggestedFix) :
    ∀ (lines : Lines) (k : Nat), (foundEach cwd lines fs)[k]?
      = fs[k]?.map (findsLink cwd (rewrittenLines cwd (fs.take k) lines)) := by
  induction fs with
  | nil => intro lines k; rfl
  | cons f fs ih =>
    intro lines k
    rcases k with _ | k
    · simp [foundEach]
    · simp only [foundEach, List.getElem?_cons_succ, ih, List.take_succ_cons,
        rewrittenLines_cons f (fs.take k)]

/-- **The turn of a result.** A result among those of a batch belongs to a fix of its document, the
results before it to the fixes before that one, and it is a success if its fix finds the link on the
lines that those fixes leave. -/
theorem result_turn {t : FileTree} {root : FilePath} {fs : List SuggestedFix}
    {results before after : List FixResult} {r : FixResult}
    (hverdicts : results.map FixResult.verdict
      = (sourcesOf fs).flatMap fun s => documentVerdicts t root s (fixesOf s fs))
    (hsplit : results = before ++ r :: after) {text : String}
    (htext : documentText t root r.sourceFile = .ok text)
    (hcan : CanReplace t.cwd (projectPath root r.sourceFile)) :
    ∃ earlier f later, fromLastLine (fixesOf r.sourceFile fs) = earlier ++ f :: later ∧
      f.attempt = r.attempt ∧
      (resultsOf r.sourceFile before).map FixResult.attempt = earlier.map SuggestedFix.attempt ∧
      r.success = findsLink t.cwd (rewrittenLines t.cwd earlier (linesOf text)) f := by
  have hsource : r.sourceFile ∈ sourcesOf fs := by
    have hmem : r.verdict ∈ results.map FixResult.verdict :=
      List.mem_map_of_mem (hsplit ▸ List.mem_append_right _ (List.mem_cons_self ..))
    rw [hverdicts] at hmem
    obtain ⟨s, hs, hv⟩ := List.mem_flatMap.1 hmem
    rw [show r.sourceFile = s from source_of_mem_documentVerdicts hv]
    exact hs
  have hattempt := resultsOf_attempt hverdicts hsource
  have hsuccess := resultsOf_success hverdicts hsource
  rw [answerOrder_of_ok htext] at hattempt
  rw [successes_of_ok htext, if_pos hcan] at hsuccess
  have hsplit' : resultsOf r.sourceFile results
      = resultsOf r.sourceFile before ++ r :: resultsOf r.sourceFile after := by
    rw [hsplit]
    simp [resultsOf]
  rw [hsplit'] at hattempt hsuccess
  generalize fromLastLine (fixesOf r.sourceFile fs) = order at hattempt hsuccess
  rw [List.map_append, List.map_cons] at hattempt
  obtain ⟨earlier, rest, rfl, hearlier, hrest⟩ := List.map_eq_append_iff.1 hattempt.symm
  obtain ⟨f, later, rfl, hf, _⟩ := List.map_eq_cons_iff.1 hrest
  refine ⟨earlier, f, later, rfl, hf, hearlier.symm, ?_⟩
  have hlen : (resultsOf r.sourceFile before).length = earlier.length := by
    rw [← List.length_map (f := FixResult.attempt), ← hearlier, List.length_map]
  have hk := congrArg (·[earlier.length]?) hsuccess
  simp only [getElem?_foundEach, List.map_append, List.map_cons] at hk
  rw [List.getElem?_append_right (by rw [List.length_map, hlen])] at hk
  simpa [hlen] using hk

/-- A fix of a line of a document finds its link if the target is found on the line as it is then. -/
theorem findsLink_of_found {cwd : List String} {lines : Lines} {f : SuggestedFix} {i : Nat}
    {line : List Char} (hpath : f.suggestion.suggestedPath ≠ "")
    (hnumber : f.broken.link.line = i + 1) (hline : lines[i]? = some line)
    (hfound : ∀ replacement,
      (replaceOccurrences f.broken.link.writtenTarget replacement line).2 = true) :
    findsLink cwd lines f = true := by
  have hlt : i < lines.length := (List.getElem?_eq_some_iff.1 hline).1
  have hindex : lineIndex? lines f.broken.link.line = some i :=
    lineIndex?_eq_some_iff.2 ⟨hnumber, hlt⟩
  have hget : lines.getD i [] = line := by rw [List.getD, hline, Option.getD_some]
  obtain ⟨target, htarget⟩ := newTarget?_isSome cwd hpath
  unfold findsLink replaced?
  rw [hindex]
  simp only [hget, htarget, Option.bind_some]
  rw [Option.isSome_iff_exists]
  exact ⟨_, replaceLink_eq_some.2 (Prod.ext rfl (hfound (']' :: '(' :: target.toList ++ [')'])))⟩

/-- A fix of another plain target leaves an occurrence on the line. -/
theorem Occurs.fixedLine {cwd : List String} {target line : List Char} {g : SuggestedFix}
    (htarget : PlainTarget target) (hplain : PlainTarget g.broken.link.writtenTarget)
    (hne : g.broken.link.writtenTarget ≠ target) (h : Occurs target line) :
    Occurs target (fixedLine cwd line g) := by
  rcases fixedLine_cases cwd line g with hsame | ⟨new, -, hr⟩
  · rwa [hsame]
  · have hrep := h.replace htarget hplain hne new.toList
    rw [replaceLink_eq_some.1 hr] at hrep
    exact hrep

theorem Occurs.foldl_fixedLine {cwd : List String} {target : List Char}
    (htarget : PlainTarget target) (gs : List SuggestedFix)
    (hgs : ∀ g ∈ gs, PlainTarget g.broken.link.writtenTarget ∧ g.broken.link.writtenTarget ≠ target) :
    ∀ line, Occurs target line → Occurs target (gs.foldl (DocLinks.fixedLine cwd) line) := by
  induction gs with
  | nil => intro line h; exact h
  | cons g gs ih =>
    intro line h
    obtain ⟨hplain, hne⟩ := hgs g (List.mem_cons_self ..)
    exact ih (fun g hg => hgs g (List.mem_cons_of_mem _ hg)) _ (h.fixedLine htarget hplain hne)

/-! ## Links that are written as they are read -/

/-- The source text of an inline link holds its target as it was read, in angle brackets or not. -/
def Link.WrittenAsRead (l : Link) : Prop :=
  ∃ text before after, l.raw.toList
      = '[' :: text ++ ']' :: '(' :: (before ++ l.writtenTarget ++ after ++ [')']) ∧
    (before = [] ∨ before = ['<']) ∧ (after = [] ∨ after = ['>'])

/-- The target of such a link is found on the line that the link stands on. -/
theorem Link.WrittenAsRead.found {l : Link} (h : l.WrittenAsRead) {line : List Char}
    (hline : l.raw.toList <:+: line) (replacement : List Char) :
    (replaceOccurrences l.writtenTarget replacement line).2 = true := by
  obtain ⟨text, o, e, hraw, ho, he⟩ := h
  obtain ⟨front, back, hline⟩ := hline
  rw [replaceOccurrences_found_iff]
  refine ⟨front ++ '[' :: text, ']' :: '(' :: (o ++ l.writtenTarget ++ e ++ ')' :: back), ?_, ?_⟩
  · rw [← hline, hraw]
    simp
  · exact Option.isSome_iff_exists.2
      ⟨back, behindTarget?_eq_some.2 ⟨o, e, rfl, ho, he⟩⟩

/-- **Fixes of links that are there.** After a check, the fix of an inline link succeeds if the target
is written as it is read, the page is not too large to be read again and can be written, and the
earlier results on the same line are about other targets. Where there are such results, the targets
have to be plain. -/
theorem inlineLink_is_fixed {w w₁ v : Workspace Checker} {report : CheckReport} {tier : Option Value}
    {approve : Option (SuggestedFix → Bool)} {batch : FixBatch} {asked : List SuggestedFix}
    (ht : w.tree.Proper) (hcheck : Checker.check w = (.ok report, w₁))
    (hfix : Checker.fix (some report) tier approve w₁ = (.ok (batch, asked), v))
    {before after : List FixResult} {r : FixResult} (hsplit : batch.results = before ++ r :: after)
    (hwritten : r.link.WrittenAsRead)
    (hfirst : ∀ q ∈ before, q.sourceFile = r.sourceFile → q.link.line = r.link.line →
      q.link.writtenTarget ≠ r.link.writtenTarget ∧ PlainTarget q.link.writtenTarget ∧
        PlainTarget r.link.writtenTarget)
    (hsize : ∀ c, w.tree.stat (projectPath w.scope.context.root r.sourceFile) = .ok (.file c) →
      c.size ≤ 10 * 1024 * 1024)
    (hwrite : ∀ text, (w.tree.write (projectPath w.scope.context.root r.sourceFile) text).2 = none) :
    r.success = true := by
  obtain ⟨pages, fixes, hrun⟩ := checkThenFix ht hcheck hfix
  -- The result is about a fix of the run, and so about a link that the check has read.
  obtain ⟨g, hgf, hgr⟩ := hrun.exists_fix (r := r)
    (hsplit ▸ List.mem_append_right _ (List.mem_cons_self ..))
  have hsource : g.broken.sourceFile = r.sourceFile := congrArg (·.1) hgr
  have hlink : g.broken.link = r.link := congrArg (·.2.1) hgr
  obtain ⟨_, _, _, limit, text, htext, hlinks⟩ := exists_text_of_broken (hrun.broken g hgf)
  rw [hsource] at htext
  rw [hlink] at hlinks
  obtain ⟨_, c, _, _, hstat, hread⟩ := read_eq_ok htext
  have hdoc : documentText w.tree w.scope.context.root r.sourceFile = .ok text := by
    refine read_of_stat hstat rfl ?_ hread
    have := hsize c hstat
    simp only [defaultLimit, Limit.isExceededBy, decide_eq_false_iff_not, Int.not_lt]
    omega
  have hcan := (write_snd_eq_none_iff hstat "").1 (hwrite "")
  obtain ⟨i, line, hline, _, m, hm, hsome⟩ := mem_links_iff.1 hlinks
  obtain ⟨hnumber, hraw, _⟩ := link?_eq_some hsome
  have hinfix : r.link.raw.toList <:+: line := hraw ▸ infix_of_mem_matchesOf hm
  -- At its turn the line has been through fixes of other targets only.
  obtain ⟨earlier, f, later, horder, hattempt, hearlier, hsuccess⟩ :=
    result_turn hrun.verdicts hsplit hdoc hcan
  have hf : f ∈ fixesOf r.sourceFile fixes := by
    rw [← (lastLineFirst_fromLastLine _).perm.mem_iff, horder]
    exact List.mem_append_right _ (List.mem_cons_self ..)
  have hflink : f.broken.link = r.link := congrArg (·.2.1) hattempt
  have hothers : ∀ e ∈ earlier.filter (·.broken.link.line = ((i : Int) + 1)),
      PlainTarget r.link.writtenTarget ∧ PlainTarget e.broken.link.writtenTarget ∧
        e.broken.link.writtenTarget ≠ r.link.writtenTarget := by
    intro e he
    obtain ⟨he, hnum⟩ := List.mem_filter.1 he
    have hmem : e.attempt ∈ (resultsOf r.sourceFile before).map FixResult.attempt := by
      rw [hearlier]
      exact List.mem_map_of_mem he
    obtain ⟨q, hq, hqe⟩ := List.mem_map.1 hmem
    have hqlink : q.link = e.broken.link := congrArg (·.2.1) hqe
    obtain ⟨hq, hqs⟩ := mem_resultsOf.1 hq
    obtain ⟨hne, hqplain, hplain⟩ := hfirst q hq hqs (by
      rw [hqlink, hnumber]
      simpa using hnum)
    rw [hqlink] at hne hqplain
    exact ⟨hplain, hqplain, hne⟩
  rw [hsuccess]
  have hrewritten : (rewrittenLines w.tree.cwd earlier (linesOf text))[i]?
      = some (rewrittenLine w.tree.cwd earlier (i + 1) line) := by
    rw [getElem?_rewrittenLines, hline]
    rfl
  refine findsLink_of_found ((hrun.suggested f (mem_fixesOf.1 hf).1).hasFile ht).1 ?_ hrewritten
    fun replacement => ?_
  · rw [hflink, hnumber]
    rfl
  · rw [hflink]
    unfold rewrittenLine
    generalize hgs : earlier.filter (fun e => e.broken.link.line = ((i : Int) + 1)) = gs at hothers ⊢
    rcases gs with _ | ⟨e, es⟩
    · exact hwritten.found hinfix replacement
    · obtain ⟨hplain, _⟩ := hothers e (List.mem_cons_self ..)
      refine (occurs_iff_found hplain.noOpening replacement _).1 ?_
      exact ((occurs_iff_found hplain.noOpening [] line).2 (hwritten.found hinfix [])).foldl_fixedLine
        hplain _ fun g hg => (hothers g hg).2

theorem inlineLink_is_fixed_onePage :
    ∃ report w₁ batch asked v r,
      Checker.check (onePageProject "[x](<../old.md>)") = (.ok report, w₁) ∧
        Checker.fix (some report) none none w₁ = (.ok (batch, asked), v) ∧
        batch.results = [r] ∧ r.link.raw = "[x](<../old.md>)" ∧ r.success = true := by
  obtain ⟨⟨batch, asked⟩, v, hrun, hresults⟩ := Work.exists_of_view
    (x := Checker.fix none none none) (w := onePageProject "[x](<../old.md>)")
    (f := fun answer _ => answer.1.results.map FixResult.attempt)
    (c := [("docs/old.md", ⟨"[x](<../old.md>)", "x", "../old.md", none, 1, 1, .internal⟩,
      "docs/old.md")]) (by decide +kernel)
  obtain ⟨report, w₁, hcheck, hfix⟩ := Checker.check_then_fix hrun
  obtain ⟨r, rest, hsplit, hattempt, hrest⟩ := List.map_eq_cons_iff.1 hresults
  obtain rfl := List.map_eq_nil_iff.1 hrest
  have hsource : r.sourceFile = "docs/old.md" := congrArg (·.1) hattempt
  have hlink : r.link = ⟨"[x](<../old.md>)", "x", "../old.md", none, 1, 1, .internal⟩ :=
    congrArg (·.2.1) hattempt
  have hstat : (onePageProject "[x](<../old.md>)").tree.stat (projectPath (.ofString "/p") "docs/old.md")
      = .ok (.file (.text "[x](<../old.md>)")) := by rfl
  refine ⟨report, w₁, batch, asked, v, r, hcheck, hfix, hsplit, by rw [hlink], ?_⟩
  have hfirst : batch.results = [] ++ r :: [] := hsplit
  refine inlineLink_is_fixed (by decide) hcheck hfix hfirst ?_ (by simp) ?_ ?_
  · rw [hlink]
    exact ⟨['x'], ['<'], ['>'], by decide, .inr rfl, .inr rfl⟩
  · rw [hsource]
    intro c hc
    cases hstat.symm.trans hc
    decide
  · rw [hsource]
    exact fun text => (write_snd_eq_none_iff hstat text).2 (by decide)

theorem oldPage_error_ne : "Target not found: old.md" ≠ "" := by decide

/-- The fix of a link to `../old.md` in the page of that project. -/
def oldPageFix (raw display : String) (column : Int) : SuggestedFix where
  broken := ⟨"docs/old.md", ⟨raw, display, "../old.md", none, 1, column, .internal⟩, some "old.md",
    "Target not found: old.md", oldPage_error_ne⟩
  suggestion := ⟨.medium, "docs/old.md", "File with same name found in different location", none⟩

/-- A project whose page has two links with one target on a line. -/
def sameTargetProject : Workspace Checker := onePageProject "[x](../old.md) and [y](../old.md)"

/-- The fixes of that line. -/
def sameTargetFixes : List SuggestedFix :=
  [oldPageFix "[x](../old.md)" "x" 1, oldPageFix "[y](../old.md)" "y" 20]

theorem source_of_mem_sameTargetFixes :
    ∀ f ∈ sameTargetFixes, f.broken.sourceFile = "docs/old.md" := by decide

theorem documentVerdicts_sameTargetFixes :
    (documentVerdicts sameTargetProject.tree sameTargetProject.scope.context.root "docs/old.md"
        sameTargetFixes).map (fun a => (a.1.2.1.raw, a.2))
      = [("[x](../old.md)", true), ("[y](../old.md)", false)] := by
  have htext : documentText sameTargetProject.tree sameTargetProject.scope.context.root "docs/old.md"
      = .ok "[x](../old.md) and [y](../old.md)" := rfl
  have horder : fromLastLine sameTargetFixes = sameTargetFixes :=
    fromLastLine_of_descending (by decide)
  rw [documentVerdicts, answerOrder_of_ok htext, successes_of_ok htext, horder, if_pos (by decide)]
  decide +kernel

/-- Of two links with one target on a line the first fix replaces both, and the second finds
nothing. -/
theorem second_fix_of_a_target_fails :
    ∃ report w₁ batch asked v,
      Checker.check sameTargetProject = (.ok report, w₁) ∧
        Checker.fix (some report) none none w₁ = (.ok (batch, asked), v) ∧
        batch.results.map (fun r => (r.link.raw, r.success))
          = [("[x](../old.md)", true), ("[y](../old.md)", false)] := by
  obtain ⟨report, w₁, hcheck, hfixable⟩ := Work.exists_of_view (x := Checker.check)
    (w := sameTargetProject) (f := fun report _ => report.fixable) (c := sameTargetFixes) (by decide +kernel)
  obtain ⟨hkeep, _⟩ := Checker.check_ok hcheck
  have hdecisions : report.fixable.mapM (Checker.decide (Checker.decisionConfig w₁.scope.config none)
      none) = .ok (report.fixable.map fun f => ⟨f, false, true⟩) := by
    rw [hfixable, hkeep.scope]
    rfl
  obtain ⟨batch, asked, v, hfix, hverdicts⟩ := Checker.fix_run hdecisions
    (by rw [hfixable]; rfl : _ = sameTargetFixes) (by rw [hkeep.scope]; rfl) (by decide)
    fun f hf g hg _ _ _ _ _ => (source_of_mem_sameTargetFixes f hf).trans
      (source_of_mem_sameTargetFixes g hg).symm
  refine ⟨report, w₁, batch, asked, v, hcheck, hfix, ?_⟩
  rw [hkeep.tree, hkeep.root, show sourcesOf sameTargetFixes = ["docs/old.md"] by decide,
    List.flatMap_singleton, show fixesOf "docs/old.md" sameTargetFixes = sameTargetFixes by decide]
    at hverdicts
  have hview := congrArg (List.map fun a => (a.1.2.1.raw, a.2)) hverdicts
  rwa [List.map_map, documentVerdicts_sameTargetFixes] at hview

end DocLinks
