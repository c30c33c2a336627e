import DocLinks.Proofs.Check.Suggestions
import DocLinks.Proofs.Project.Pages
import DocLinks.Proofs.Similarity

/-!
# Letter case never decides

A file whose path differs from that of a broken link in letter case only is at no distance from it, and
every bound lets that pass. So whenever the strategy of letter case knows a file, the similarity of paths
knows one as well, and it is asked before. The search is the same without the strategy of letter case: it
gives the same answer, remembers the same and reports the same (`letterCase_neverDecides`).

When letter case is asked, the index has been built for the strategies before it, so the question leaves
no trace.

## Contents
- `pathDistance_eq_zero_iff`, `similaritySuggestion_of_caseSuggestion`: what letter case knows.
- `HasScannedIndex`, `runStrategy_run`: asking a strategy that looks at the index.
- `runStrategies_without_letterCase`, `reason_ne_of_find`: asking without letter case.
- `letterCase_neverDecides`.
-/

namespace DocLinks

open Text Work

/-! ## What letter case knows -/

/-- A file is at no distance if and only if its path differs in letter case at most. -/
theorem pathDistance_eq_zero_iff {path file : String} :
    pathDistance path file = 0 ↔ lowercase file = lowercase path := by
  unfold pathDistance
  rw [editDistance_eq_leastEdits, leastEdits_eq_zero_iff, eq_comm]
  exact ⟨congrArg String.ofList, String.ofList_injective⟩

/-- **What letter case knows, the similarity of paths knows too.** It suggests a file that differs in
letter case at most, with medium confidence. -/
theorem similaritySuggestion_of_caseSuggestion {s : Surroundings} {b : BrokenLink}
    {suggestion : FixSuggestion} (hindex : s.index.IsScanned)
    (h : caseSuggestion s b = some suggestion) :
    ∃ found, similaritySuggestion s b = some found ∧ found.confidence = .medium ∧
      lowercase found.suggestedPath = lowercase b.probe := by
  have hmem := mem_of_caseSuggestion h
  rw [hindex.findByPath_eq, List.mem_filter, decide_eq_true_eq] at hmem
  obtain ⟨hfile, hsame⟩ := hmem
  have hzero := pathDistance_eq_zero_iff.2 hsame
  rcases hclosest : closest (lower b.probe.toList) (distanceBound b.probe) s.index.allFiles
    with _ | ⟨d, f⟩
  · have hbeyond := closest_eq_none_iff.1 hclosest _ hfile
    omega
  · obtain ⟨hd, -, before, after, hsplit, hbefore, hafter⟩ := closest_eq_some hclosest
    have hleast : f ∈ closestFiles b.probe s.index.allFiles := by
      rw [hsplit]
      rw [hd] at hbefore hafter
      exact List.mem_of_mem_head? (head?_closestFiles hbefore hafter)
    have hle := (mem_closestFiles.1 hleast).2 _ hfile
    obtain rfl : d = 0 := by omega
    refine ⟨_, similaritySuggestion_eq_some_iff.2 ⟨0, f, hclosest, by omega, rfl⟩, rfl, ?_⟩
    exact pathDistance_eq_zero_iff.1 hd.symm

/-! ## Asking in a context -/

/-- The index that is remembered, if there is one, was filled by a scan, however long ago. -/
def HasScannedIndex (c : Context) : Prop := ∀ i, c.index = some i → i.IsScanned

/-- What the index is when it has been asked for: it was filled by a scan, and it is remembered. -/
theorem fileIndex_scanned {w v : Workspace Context} {i : FileIndex} (hw : HasScannedIndex w.scope)
    (h : fileIndex w = (.ok i, v)) : i.IsScanned ∧ v.scope.index = some i := by
  rw [fileIndex_run] at h
  rcases hindex : w.scope.index with _ | j
  · rw [hindex] at h
    rcases hscan : w.tree.scan w.scope.root [".md"] w.scope.excludeDirs with e | files
    · rw [hscan] at h
      cases h
    · rw [hscan] at h
      cases h
      exact ⟨⟨_, _, _, _, files, hscan, rfl⟩, rfl⟩
  · rw [hindex] at h
    cases h
    exact ⟨hw i hindex, hindex⟩

/-- A strategy that looks at the index answers from what is there once the index has been asked for. Only
that of file names has something to report. -/
theorem runStrategy_run (strategy : Strategy) (huse : strategy.usesIndex = true)
    (hquiet : strategy ≠ .basename) (b : BrokenLink) (w : Workspace Context) :
    runStrategy strategy b w = match fileIndex w with
      | (.error e, v) => (.error e, v)
      | (.ok i, v) => (.ok (strategy.find ⟨v.tree, v.scope.root, v.scope.table, i⟩ b), v) := by
  unfold runStrategy surroundings
  rw [if_pos huse, bind_run, bind_run]
  rcases fileIndex w with ⟨e | i, v⟩
  · rfl
  · simp only [if_neg hquiet]
    rfl

/-- Asking a strategy leaves an index behind that was filled by a scan. -/
theorem hasScannedIndex_of_runStrategy {strategy : Strategy} {b : BrokenLink} {w v : Workspace Context}
    {found : Option FixSuggestion} (hw : HasScannedIndex w.scope)
    (h : runStrategy strategy b w = (.ok found, v)) : HasScannedIndex v.scope := by
  unfold runStrategy at h
  obtain ⟨s, u, hs, h⟩ := bind_ok_iff.1 h
  have hu : HasScannedIndex u.scope := by
    unfold surroundings at hs
    by_cases huse : strategy.usesIndex = true
    · rw [if_pos huse] at hs
      obtain ⟨i, u', hrun, hs⟩ := bind_ok_iff.1 hs
      cases hs
      obtain ⟨hscanned, hindex⟩ := fileIndex_scanned hw hrun
      intro j hj
      rw [hindex] at hj
      exact Option.some.inj hj ▸ hscanned
    · rw [if_neg huse] at hs
      cases hs
      exact hw
  -- What is reported does not touch the index.
  split at h
  · obtain ⟨_, u', hreport, h⟩ := bind_ok_iff.1 h
    rw [forM_report_run] at hreport
    cases hreport
    cases h
    exact hu
  · cases h
    exact hu

section Asking

variable {b : BrokenLink} {w v : Workspace Context} (hw : HasScannedIndex w.scope)

include hw

/-- Where letter case has an answer, the similarity of paths has one, and leaves the same behind. -/
theorem runStrategy_similarity_of_letterCase {suggestion : FixSuggestion}
    (h : runStrategy .letterCase b w = (.ok (some suggestion), v)) :
    ∃ found, runStrategy .similarity b w = (.ok (some found), v) ∧ found.confidence = .medium ∧
      lowercase found.suggestedPath = lowercase b.probe := by
  rw [runStrategy_run .letterCase rfl nofun] at h
  rw [runStrategy_run .similarity rfl nofun]
  rcases hrun : fileIndex w with ⟨e | i, u⟩
  · rw [hrun] at h
    cases h
  · rw [hrun] at h
    obtain ⟨hanswer, rfl⟩ := Prod.mk.inj h
    have hcase : caseSuggestion ⟨u.tree, u.scope.root, u.scope.table, i⟩ b = some suggestion :=
      Except.ok.inj hanswer
    obtain ⟨found, hfound, hrest⟩ :=
      similaritySuggestion_of_caseSuggestion (fileIndex_scanned hw hrun).1 hcase
    refine ⟨found, ?_, hrest⟩
    show (Except.ok (similaritySuggestion _ b), u) = _
    rw [hfound]

/-- **Where the similarity of paths has no answer**, letter case has none, and the question changes
nothing. -/
theorem runStrategy_letterCase_of_similarity (h : runStrategy .similarity b w = (.ok none, v)) :
    runStrategy .letterCase b v = (.ok none, v) := by
  have hv := hasScannedIndex_of_runStrategy hw h
  rw [runStrategy_run .similarity rfl nofun] at h
  rcases hrun : fileIndex w with ⟨e | i, u⟩
  · rw [hrun] at h
    cases h
  · rw [hrun] at h
    obtain ⟨hanswer, rfl⟩ := Prod.mk.inj h
    have hnone : similaritySuggestion ⟨u.tree, u.scope.root, u.scope.table, i⟩ b = none :=
      Except.ok.inj hanswer
    obtain ⟨hscanned, hindex⟩ := fileIndex_scanned hw hrun
    have hagain : fileIndex u = (.ok i, u) := by rw [fileIndex_run, hindex]
    rw [runStrategy_run .letterCase rfl nofun, hagain]
    show (Except.ok (caseSuggestion ⟨u.tree, u.scope.root, u.scope.table, i⟩ b), u) = _
    rcases hcase : caseSuggestion ⟨u.tree, u.scope.root, u.scope.table, i⟩ b with _ | suggestion
    · rfl
    · obtain ⟨found, hfound, -⟩ := similaritySuggestion_of_caseSuggestion hscanned hcase
      rw [hnone] at hfound
      cases hfound

/-- **Letter case is never missed** behind the similarity of paths. -/
theorem runStrategies_without_letterCase (rest : List Strategy) :
    runStrategies b (.similarity :: .letterCase :: rest) w
      = runStrategies b (.similarity :: rest) w := by
  unfold runStrategies
  rw [bind_run, bind_run]
  rcases hrun : runStrategy .similarity b w with ⟨e | found, u⟩
  · rfl
  · cases found with
    | some suggestion => rfl
    | none =>
      have hquiet := runStrategy_letterCase_of_similarity hw hrun
      show runStrategies b (.letterCase :: rest) u = runStrategies b rest u
      rw [runStrategies, bind_run_of_ok hquiet]

/-- Strategies that are asked after one and the same may be exchanged for others that do the same. -/
theorem runStrategies_cons_congr (strategy : Strategy) {rest rest' : List Strategy}
    (h : ∀ u, HasScannedIndex u.scope → runStrategies b rest u = runStrategies b rest' u) :
    runStrategies b (strategy :: rest) w = runStrategies b (strategy :: rest') w := by
  rw [runStrategies, runStrategies, bind_run, bind_run]
  rcases hrun : runStrategy strategy b w with ⟨e | found, u⟩
  · rfl
  · cases found with
    | some suggestion => rfl
    | none => exact h u (hasScannedIndex_of_runStrategy hw hrun)

end Asking

/-! ## What is said about suggestions -/

theorem append_ne_of_not_prefix {front s : String} (h : ¬front.toList <+: s.toList) (rest : String) :
    front ++ rest ≠ s := by
  rintro rfl
  apply h
  rw [String.toList_append]
  exact List.prefix_append ..

theorem reason_of_redirectSuggestion {s : Surroundings} {b : BrokenLink} {suggestion : FixSuggestion}
    (h : redirectSuggestion s b = some suggestion) :
    suggestion.reason = "Redirect exists in .gitbook.yaml" := by
  unfold redirectSuggestion at h
  split at h
  · cases h
  · obtain ⟨spelling, -, hfor⟩ := List.exists_of_findSome?_eq_some h
    unfold redirectFor at hfor
    split at hfor
    · cases hfor
    · split at hfor
      · rw [← Option.some.inj hfor]
      · cases hfor

theorem reason_of_readmeSuggestion {s : Surroundings} {b : BrokenLink} {suggestion : FixSuggestion}
    (h : readmeSuggestion s b = some suggestion) :
    ∃ description, suggestion.reason = "README.md found in " ++ description := by
  obtain ⟨neighbor, -, hoffer⟩ := exists_readmeOffer h
  obtain ⟨-, -, -, rfl⟩ := readmeOffer_eq_some_iff.1 hoffer
  exact ⟨neighbor.2, rfl⟩

/-- **No other strategy says so.** -/
theorem reason_ne_of_find {strategy : Strategy} {s : Surroundings} {b : BrokenLink}
    {suggestion : FixSuggestion} (hother : strategy ≠ .letterCase)
    (h : strategy.find s b = some suggestion) : suggestion.reason ≠ "Case variation of path exists" := by
  cases strategy with
  | redirect =>
    rw [reason_of_redirectSuggestion h]
    decide
  | basename =>
    rcases basenameSuggestion_eq_some h with ⟨f, -, rfl⟩ | ⟨score, f, -, -, rfl⟩
    · show "File with same name found in different location" ≠ "Case variation of path exists"
      decide
    · unfold bestOfNamesakes
      simp only [String.append_assoc]
      exact append_ne_of_not_prefix (by decide) _
  | similarity =>
    rw [(suggestsClosest_of_eq_some h).reason, String.append_assoc]
    exact append_ne_of_not_prefix (by decide) _
  | letterCase => exact absurd rfl hother
  | readme =>
    obtain ⟨description, hreason⟩ := reason_of_readmeSuggestion h
    rw [hreason]
    exact append_ne_of_not_prefix (by decide) _

/-- What a search answers was found by one of the strategies that were asked. -/
theorem exists_find_of_runStrategies {b : BrokenLink} {found : FixSuggestion} {strategies : List Strategy}
    {w v : Workspace Context} (h : runStrategies b strategies w = (.ok (some found), v)) :
    ∃ strategy ∈ strategies, ∃ s, strategy.find s b = some found := by
  induction strategies generalizing w with
  | nil => cases h
  | cons strategy rest ih =>
    unfold runStrategies at h
    obtain ⟨answer, u, hrun, h⟩ := bind_ok_iff.1 h
    cases answer with
    | none =>
      obtain ⟨other, hother, hfind⟩ := ih h
      exact ⟨other, List.mem_cons_of_mem strategy hother, hfind⟩
    | some suggestion =>
      cases h
      unfold runStrategy at hrun
      obtain ⟨s, u', -, hrun⟩ := bind_ok_iff.1 hrun
      refine ⟨strategy, List.mem_cons_self, s, ?_⟩
      split at hrun
      · obtain ⟨_, _, -, hrun⟩ := bind_ok_iff.1 hrun
        exact Except.ok.inj (Prod.mk.inj hrun).1
      · exact Except.ok.inj (Prod.mk.inj hrun).1

/-- **Letter case never decides.** Where it has an answer, the similarity of paths has one, a file that
differs in letter case at most, with medium confidence. So a search is the same without the strategy of
letter case, in what it answers, remembers and reports, and no suggestion is ever one for letter case. -/
theorem letterCase_neverDecides {w : Workspace Context} (hindex : HasScannedIndex w.scope)
    (b : BrokenLink) :
    (∀ suggestion v, runStrategy .letterCase b w = (.ok (some suggestion), v) →
      ∃ found, runStrategy .similarity b w = (.ok (some found), v) ∧ found.confidence = .medium ∧
        lowercase found.suggestedPath = lowercase b.probe) ∧
    searchFix b w = runStrategies b (Strategy.all.erase .letterCase) w ∧
    ∀ found v, searchFix b w = (.ok (some found), v) →
      found.reason ≠ "Case variation of path exists" := by
  have hsame : searchFix b w = runStrategies b (Strategy.all.erase .letterCase) w := by
    show runStrategies b [.redirect, .basename, .similarity, .letterCase, .readme] w
      = runStrategies b [.redirect, .basename, .similarity, .readme] w
    refine runStrategies_cons_congr hindex .redirect fun u hu => ?_
    refine runStrategies_cons_congr hu .basename fun u hu => ?_
    exact runStrategies_without_letterCase hu [.readme]
  refine ⟨?_, hsame, ?_⟩
  · intro suggestion v h
    exact runStrategy_similarity_of_letterCase hindex h
  · intro found v h
    rw [hsame] at h
    obtain ⟨strategy, hmem, s, hfind⟩ := exists_find_of_runStrategies h
    refine reason_ne_of_find ?_ hfind
    rintro rfl
    revert hmem
    decide

/-- The context of a project with three pages of one name, when its pages have been searched for. -/
def namesakeProject : Workspace Context where
  tree := namesakeTree
  scope :=
    { root := .ofString "/p"
      excludeDirs := []
      table := none
      index := some namesakeIndex }
  log := []

/-- The link differs from a page in letter case only, and no page of its name shares enough with it. -/
theorem letterCase_neverDecides_capitals :
    HasScannedIndex namesakeProject.scope ∧
      ∃ suggestion found, runStrategy .letterCase (deadLink "C/setup.md") namesakeProject
          = (.ok (some suggestion), namesakeProject) ∧
        suggestion.suggestedPath = "c/SETUP.md" ∧
        runStrategy .similarity (deadLink "C/setup.md") namesakeProject
          = (.ok (some found), namesakeProject) ∧
        lowercase found.suggestedPath = lowercase "C/setup.md" ∧
        searchFix (deadLink "C/setup.md") namesakeProject
          = runStrategies (deadLink "C/setup.md") (Strategy.all.erase .letterCase)
              namesakeProject := by
  have hindex : HasScannedIndex namesakeProject.scope := by
    intro i hi
    exact Option.some.inj hi ▸ isScanned_namesakeIndex
  obtain ⟨hanswers, hsame, -⟩ := letterCase_neverDecides hindex (deadLink "C/setup.md")
  have hcase : caseSuggestion namesakeSurroundings (deadLink "C/setup.md")
      = some
        { confidence := .low
          suggestedPath := "c/SETUP.md"
          reason := "Case variation of path exists" } := by decide +kernel
  have hrun : runStrategy .letterCase (deadLink "C/setup.md") namesakeProject
      = (.ok (caseSuggestion namesakeSurroundings (deadLink "C/setup.md")), namesakeProject) := rfl
  rw [hcase] at hrun
  obtain ⟨found, hfound, -, hpath⟩ := hanswers _ _ hrun
  exact ⟨hindex, _, found, hrun, rfl, hfound, hpath, hsame⟩

end DocLinks
