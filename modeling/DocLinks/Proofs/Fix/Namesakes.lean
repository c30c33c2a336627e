import DocLinks.Fix.Suggestion
import DocLinks.Proofs.Project.Pages
import DocLinks.Proofs.Scores

/-!
# Files of the same name

A broken link may have meant a page of the same name in another folder. If one page has that name, it is
suggested. Of several the one is suggested whose path shares the greatest part of its names with the path
that the link asks for, the first one in the order of the paths among equals, provided that this is more
than half (`basenameSuggestion_best`).

The search for the best match goes through the pages from the last to the first and keeps what it has
unless a page further to the front is at least as good. So what it ends with is better than all before
it and as good as all behind it (`bestMatch_eq_some`).

## Contents
- `namesakes`, `basenameMatches_eq`: the files of a name, said without the look-up.
- `bestMatch_eq_some`: what the search ends with.
- `basenameSuggestion_of_several`, `basenameSuggestion_eq_some`: what is suggested.
- `BestNamesake`, `basenameSuggestion_best`.
-/

namespace DocLinks

open Text

/-- The indexed files whose name without its extension is that of a path, letter case aside. -/
def namesakes (path : String) (i : FileIndex) : List String :=
  i.allFiles.filter fun f => FileIndex.lowerStem f = FileIndex.lowerStem path

theorem basenameMatches_eq {s : Surroundings} (h : s.index.IsScanned) (b : BrokenLink) :
    basenameMatches s b = namesakes b.probe s.index := by
  have hstem : lowercase (.ofList (DocPath.stem b.probe.toList)) = FileIndex.lowerStem b.probe := by
    unfold lowercase FileIndex.lowerStem
    rw [String.toList_ofList]
  unfold basenameMatches namesakes
  rw [h.findByStem_eq, hstem]

/-! ## The best match -/

section Search

variable {path : String} {ms : List String}

/-- What the search has found behind a file is given up for the file unless it is better. -/
theorem bestMatch_cons (m : String) (ms : List String) :
    bestMatch path (m :: ms) =
      match bestMatch path ms with
      | none => some (pathSimilarity path.toList m.toList, m)
      | some (best, other) =>
        if best.le (pathSimilarity path.toList m.toList) then
          some (pathSimilarity path.toList m.toList, m)
        else some (best, other) := rfl

theorem bestMatch_eq_none_iff : bestMatch path ms = none ↔ ms = [] := by
  cases ms with
  | nil => exact iff_of_true rfl rfl
  | cons m ms =>
    refine iff_of_false ?_ (List.cons_ne_nil m ms)
    rw [bestMatch_cons]
    split
    · exact Option.some_ne_none _
    · split <;> exact Option.some_ne_none _

/-- **What the search ends with** shares more names with the path than the files before it, and no fewer
than those behind it. -/
theorem bestMatch_eq_some {score : Ratio} {m : String} (h : bestMatch path ms = some (score, m)) :
    score = pathSimilarity path.toList m.toList ∧ ∃ before after, ms = before ++ m :: after ∧
      (∀ g ∈ before, sharedNames path g < sharedNames path m) ∧
      ∀ g ∈ after, sharedNames path g ≤ sharedNames path m := by
  induction ms generalizing score m with
  | nil => cases h
  | cons n ms ih =>
    rw [bestMatch_cons] at h
    rcases hrest : bestMatch path ms with _ | ⟨best, other⟩
    · -- There is no file behind this one.
      rw [bestMatch_eq_none_iff.1 hrest]
      rw [hrest] at h
      obtain ⟨rfl, rfl⟩ := Prod.mk.inj (Option.some.inj h)
      exact ⟨rfl, [], [], rfl, nofun, nofun⟩
    · obtain ⟨rfl, before, after, hsplit, hbefore, hafter⟩ := ih hrest
      have hle : (pathSimilarity path.toList other.toList).le (pathSimilarity path.toList n.toList)
          = true ↔ sharedNames path other ≤ sharedNames path n := by
        rw [Ratio.le_iff (whole_pathSimilarity_pos ..) (whole_pathSimilarity_pos ..),
          value_pathSimilarity, value_pathSimilarity]
      simp only [hrest] at h
      by_cases hbest : sharedNames path other ≤ sharedNames path n
      · -- A tie goes to the file that stands in front.
        rw [if_pos (hle.2 hbest)] at h
        obtain ⟨rfl, rfl⟩ := Prod.mk.inj (Option.some.inj h)
        refine ⟨rfl, [], ms, rfl, nofun, ?_⟩
        intro g hg
        rw [hsplit] at hg
        rcases List.mem_append.1 hg with hg | hg
        · exact (hbefore g hg).le.trans hbest
        · rcases List.mem_cons.1 hg with rfl | hg
          · exact hbest
          · exact (hafter g hg).trans hbest
      · rw [if_neg (mt hle.1 hbest)] at h
        obtain ⟨rfl, rfl⟩ := Prod.mk.inj (Option.some.inj h)
        refine ⟨rfl, n :: before, after, by rw [hsplit]; rfl, ?_, hafter⟩
        intro g hg
        rcases List.mem_cons.1 hg with rfl | hg
        · exact not_le.1 hbest
        · exact hbefore g hg

end Search

/-! ## The suggestion -/

/-- What is suggested if one file only has the name. -/
def onlyNamesake (f : String) : FixSuggestion where
  confidence := .medium
  suggestedPath := f
  reason := "File with same name found in different location"

/-- What is suggested if a file is the best one of several. -/
def bestOfNamesakes (f : String) (count : Nat) : FixSuggestion where
  confidence := .medium
  suggestedPath := f
  reason := "Similar file found (" ++ toString count ++ " candidates, best match selected)"

section Suggestion

variable {s : Surroundings} {b : BrokenLink}

theorem basenameSuggestion_of_none (h : basenameMatches s b = []) : basenameSuggestion s b = none := by
  unfold basenameSuggestion
  rw [h]

theorem basenameSuggestion_of_one {f : String} (h : basenameMatches s b = [f]) :
    basenameSuggestion s b = some (onlyNamesake f) := by
  unfold basenameSuggestion
  rw [h]
  rfl

theorem basenameSuggestion_of_several (h : 1 < (basenameMatches s b).length) :
    basenameSuggestion s b = (bestMatch b.probe (basenameMatches s b)).bind fun (score, m) =>
      if score.exceedsHalf then some (bestOfNamesakes m (basenameMatches s b).length) else none := by
  unfold basenameSuggestion
  rcases hms : basenameMatches s b with _ | ⟨m, _ | ⟨m', ms⟩⟩
  · rw [hms] at h
    exact absurd h (by decide)
  · rw [hms] at h
    exact absurd h (Nat.lt_irrefl 1)
  · rcases hbest : bestMatch b.probe (m :: m' :: ms) with _ | ⟨score, f⟩
    · simp only [hbest]
      rfl
    · simp only [hbest]
      rfl

/-- **What a suggestion for a file name is**: the only file of that name, or the best match of several. -/
theorem basenameSuggestion_eq_some {suggestion : FixSuggestion}
    (h : basenameSuggestion s b = some suggestion) :
    (∃ f, basenameMatches s b = [f] ∧ suggestion = onlyNamesake f) ∨
      ∃ score f, bestMatch b.probe (basenameMatches s b) = some (score, f) ∧
        score.exceedsHalf = true ∧ suggestion = bestOfNamesakes f (basenameMatches s b).length := by
  rcases hms : basenameMatches s b with _ | ⟨m, _ | ⟨m', ms⟩⟩
  · rw [basenameSuggestion_of_none hms] at h
    cases h
  · rw [basenameSuggestion_of_one hms] at h
    exact .inl ⟨m, rfl, (Option.some.inj h).symm⟩
  · rw [← hms]
    rw [basenameSuggestion_of_several (by rw [hms]; simp)] at h
    obtain ⟨⟨score, f⟩, hbest, hhalf⟩ := Option.bind_eq_some_iff.1 h
    simp only at hhalf
    by_cases hexceeds : score.exceedsHalf = true
    · rw [if_pos hexceeds] at hhalf
      exact .inr ⟨score, f, hbest, hexceeds, (Option.some.inj hhalf).symm⟩
    · rw [if_neg hexceeds] at hhalf
      cases hhalf

end Suggestion

/-- The best one of the files of a name: no other one shares more names with the path, and among those
that share as many it comes first in the order of the paths. -/
structure BestNamesake (path : String) (i : FileIndex) (f : String) : Prop where
  mem : f ∈ namesakes path i
  best : ∀ g ∈ namesakes path i, sharedNames path g ≤ sharedNames path f
  first : ∀ g ∈ namesakes path i, sharedNames path g = sharedNames path f → f ≤ g

/-- The search in an index ends with the best one. -/
theorem bestNamesake_of_bestMatch {path : String} {i : FileIndex} {score : Ratio} {f : String}
    (hi : i.IsScanned) (h : bestMatch path (namesakes path i) = some (score, f)) :
    BestNamesake path i f := by
  obtain ⟨-, before, after, hsplit, hbefore, hafter⟩ := bestMatch_eq_some h
  have hcases : ∀ g ∈ namesakes path i, g ∈ before ∨ g = f ∨ g ∈ after := by
    intro g hg
    rw [hsplit, List.mem_append, List.mem_cons] at hg
    exact hg
  refine ⟨?_, ?_, ?_⟩
  · rw [hsplit]
    exact List.mem_append_right _ List.mem_cons_self
  · intro g hg
    rcases hcases g hg with hg | rfl | hg
    · exact (hbefore g hg).le
    · exact le_rfl
    · exact hafter g hg
  · -- The files behind it come later in the order of the paths.
    have hsorted : (before ++ f :: after).Pairwise (· < ·) := by
      rw [← hsplit]
      exact hi.sorted.sublist List.filter_sublist
    obtain ⟨-, hbehind, -⟩ := List.pairwise_append.1 hsorted
    intro g hg hsame
    rcases hcases g hg with hg | rfl | hg
    · exact absurd hsame (hbefore g hg).ne
    · exact String.le_refl g
    · exact String.not_lt.1 (String.lt_asymm ((List.pairwise_cons.1 hbehind).1 g hg))

/-- A search that has ended has found more than half exactly if some file shares that much. -/
theorem exceedsHalf_iff_of_bestMatch {path : String} {i : FileIndex} {score : Ratio} {f : String}
    (hi : i.IsScanned) (h : bestMatch path (namesakes path i) = some (score, f)) :
    score.exceedsHalf = true ↔ ∃ g ∈ namesakes path i, 1 / 2 < sharedNames path g := by
  have hbest := bestNamesake_of_bestMatch hi h
  obtain ⟨rfl, -⟩ := bestMatch_eq_some h
  rw [Ratio.exceedsHalf_iff (whole_pathSimilarity_pos ..), value_pathSimilarity]
  constructor
  · exact fun hhalf => ⟨f, hbest.mem, hhalf⟩
  · rintro ⟨g, hg, hhalf⟩
    exact hhalf.trans_le (hbest.best g hg)

/-- **The page of the name** is suggested if there is one only. Of several the best one is, provided that
some page shares more than half of its names with the path; if none does, or if there is no page of that
name, nothing is. -/
theorem basenameSuggestion_best {s : Surroundings} (hindex : s.index.IsScanned) (b : BrokenLink) :
    (namesakes b.probe s.index = [] → basenameSuggestion s b = none) ∧
    (∀ f, namesakes b.probe s.index = [f] → basenameSuggestion s b = some (onlyNamesake f)) ∧
    (1 < (namesakes b.probe s.index).length →
      (∀ f ∈ namesakes b.probe s.index, sharedNames b.probe f ≤ 1 / 2) →
      basenameSuggestion s b = none) ∧
    (1 < (namesakes b.probe s.index).length →
      (∃ f ∈ namesakes b.probe s.index, 1 / 2 < sharedNames b.probe f) →
      ∃ f, BestNamesake b.probe s.index f ∧
        basenameSuggestion s b
          = some (bestOfNamesakes f (namesakes b.probe s.index).length)) := by
  have hmatches := basenameMatches_eq hindex b
  refine ⟨?_, ?_, ?_, ?_⟩
  · intro hnone
    exact basenameSuggestion_of_none (hmatches.trans hnone)
  · intro f hone
    exact basenameSuggestion_of_one (hmatches.trans hone)
  · intro hseveral hhalf
    rw [basenameSuggestion_of_several (hmatches ▸ hseveral), hmatches]
    rcases hsearch : bestMatch b.probe (namesakes b.probe s.index) with _ | ⟨score, f⟩
    · rfl
    · have hnot : ¬score.exceedsHalf = true := by
        rw [exceedsHalf_iff_of_bestMatch hindex hsearch]
        rintro ⟨g, hg, hg'⟩
        exact absurd hg' (not_lt.2 (hhalf g hg))
      exact if_neg hnot
  · intro hseveral hhalf
    rw [basenameSuggestion_of_several (hmatches ▸ hseveral), hmatches]
    rcases hsearch : bestMatch b.probe (namesakes b.probe s.index) with _ | ⟨score, f⟩
    · rw [bestMatch_eq_none_iff.1 hsearch] at hseveral
      exact absurd hseveral (Nat.not_lt_zero 1)
    · refine ⟨f, bestNamesake_of_bestMatch hindex hsearch, ?_⟩
      exact if_pos ((exceedsHalf_iff_of_bestMatch hindex hsearch).2 hhalf)

/-- A project at `/p` with three pages of one name. Two of them are in folders of the same name. -/
def namesakeTree : FileTree where
  nodes := [(["p"], .folder), (["p", "a"], .folder), (["p", "a", "docs"], .folder),
    (["p", "a", "docs", "setup.md"], .file (.text "")), (["p", "b"], .folder),
    (["p", "b", "docs"], .folder), (["p", "b", "docs", "setup.md"], .file (.text "")),
    (["p", "c"], .folder), (["p", "c", "SETUP.md"], .file (.text ""))]
  cwd := ["p"]
  home := []

/-- The index of that project. -/
def namesakeIndex : FileIndex := .ofFiles ["a/docs/setup.md", "b/docs/setup.md", "c/SETUP.md"]

theorem isScanned_namesakeIndex : namesakeIndex.IsScanned := by
  refine ⟨namesakeTree, .ofString "/p", [".md"], [], _, ?_, rfl⟩
  have hbelow : namesakeTree.scan (.ofString "/p") [".md"] []
      = .ok (namesakeTree.filesBelow ["p"] [".md"] []) := rfl
  rw [hbelow]
  refine congrArg Except.ok ?_
  -- The tree lists the pages in their order.
  change ((namesakeTree.nodes.filterMap _).mergeSort _).eraseDups = _
  rw [List.mergeSort_of_pairwise (by decide +kernel)]
  decide +kernel

/-- What the strategies look at in that project. -/
def namesakeSurroundings : Surroundings := ⟨namesakeTree, .ofString "/p", none, namesakeIndex⟩

/-- A link to a page that is not there. -/
def deadLink (path : String) : BrokenLink where
  sourceFile := "index.md"
  link := ⟨"", "", path, none, 1, 1, .internal⟩
  resolvedPath := some path
  error := notFound path
  error_ne := notFound_ne path

/-- Two pages share as much with the path, and a third one shares nothing. -/
theorem basenameSuggestion_best_tie :
    namesakeSurroundings.index.IsScanned ∧
      namesakes (deadLink "docs/setup.md").probe namesakeSurroundings.index
        = ["a/docs/setup.md", "b/docs/setup.md", "c/SETUP.md"] ∧
      ∃ f, BestNamesake (deadLink "docs/setup.md").probe namesakeSurroundings.index f ∧
        basenameSuggestion namesakeSurroundings (deadLink "docs/setup.md")
          = some (bestOfNamesakes f 3) := by
  have hindex : namesakeSurroundings.index.IsScanned := isScanned_namesakeIndex
  have hthree : namesakes (deadLink "docs/setup.md").probe namesakeSurroundings.index
      = ["a/docs/setup.md", "b/docs/setup.md", "c/SETUP.md"] := by decide +kernel
  have hhalf : 1 / 2 < sharedNames (deadLink "docs/setup.md").probe "a/docs/setup.md" := by
    decide +kernel
  refine ⟨hindex, hthree, ?_⟩
  have hbest := (basenameSuggestion_best hindex (deadLink "docs/setup.md")).2.2.2
  have hseveral := hbest (by rw [hthree]; decide)
    ⟨"a/docs/setup.md", by rw [hthree]; exact List.mem_cons_self, hhalf⟩
  rw [hthree] at hseveral
  exact hseveral

example : (basenameSuggestion namesakeSurroundings (deadLink "docs/setup.md")).map (·.suggestedPath)
    = some "a/docs/setup.md" := by decide +kernel

end DocLinks
