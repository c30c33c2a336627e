import DocLinks.Proofs.Project.Pages

/-!
# The closest file

What is suggested for the similarity of its path is a file of the index at the least distance, and the
first one of these in the order of the index, which is that of the paths (`similaritySuggestion_closest`).

The search passes over files that are farther away than one bound, and what it has found is believed up to
another one. Neither hides a file that is closer: a file that is passed over is farther away than all that
are not, and the second bound looks at the least distance only. So something is suggested exactly if some
file is as close as both bounds ask for.

## Contents
- `pathDistance`, `closestFiles`: the files at the least distance, said without the search.
- `closest_cons`, `closest_eq_none_iff`, `closest_eq_some`: what the search finds.
- `SuggestsClosest`, `similaritySuggestion_closest`.
-/

namespace DocLinks

open Text

/-- How far a file is from a path, letter case aside. -/
def pathDistance (path file : String) : Nat := editDistance (lower path.toList) (lower file.toList)

/-- The files that are as close to a path as any other one, in their order. -/
def closestFiles (path : String) (files : List String) : List String :=
  files.filter fun f => files.all fun g => pathDistance path f ≤ pathDistance path g

theorem mem_closestFiles {path f : String} {files : List String} :
    f ∈ closestFiles path files ↔
      f ∈ files ∧ ∀ g ∈ files, pathDistance path f ≤ pathDistance path g := by
  unfold closestFiles
  rw [List.mem_filter, List.all_eq_true]
  simp only [decide_eq_true_eq]

/-! ## The search -/

section Search

variable {path : String} {bound : Nat} {files : List String}

/-- A file is found if what is found behind it is farther away, and, if nothing is, if it is within the
bound. -/
theorem closest_cons (f : String) (fs : List String) :
    closest (lower path.toList) bound (f :: fs) =
      match closest (lower path.toList) bound fs with
      | none => if pathDistance path f ≤ bound then some (pathDistance path f, f) else none
      | some (best, other) =>
        if pathDistance path f ≤ best then some (pathDistance path f, f) else some (best, other) := rfl

/-- **Nothing is found** if and only if every file is beyond the bound. -/
theorem closest_eq_none_iff :
    closest (lower path.toList) bound files = none ↔ ∀ f ∈ files, bound < pathDistance path f := by
  induction files with
  | nil => simp [closest]
  | cons f fs ih =>
    rw [closest_cons, List.forall_mem_cons, ← ih]
    rcases closest (lower path.toList) bound fs with _ | ⟨best, other⟩
    · simp
    · by_cases hbest : pathDistance path f ≤ best
      · simp [hbest]
      · simp [hbest]

/-- **What is found** is within the bound. The files before it are farther away, and none of those behind it is
closer. -/
theorem closest_eq_some {d : Nat} {f : String}
    (h : closest (lower path.toList) bound files = some (d, f)) :
    d = pathDistance path f ∧ d ≤ bound ∧ ∃ before after, files = before ++ f :: after ∧
      (∀ g ∈ before, d < pathDistance path g) ∧ ∀ g ∈ after, d ≤ pathDistance path g := by
  induction files generalizing d f with
  | nil => cases h
  | cons g gs ih =>
    rw [closest_cons] at h
    rcases hrest : closest (lower path.toList) bound gs with _ | ⟨best, other⟩
    · -- The files behind this one are beyond the bound.
      have hbeyond := closest_eq_none_iff.1 hrest
      simp only [hrest] at h
      by_cases hbound : pathDistance path g ≤ bound
      · rw [if_pos hbound] at h
        obtain ⟨rfl, rfl⟩ := Prod.mk.inj (Option.some.inj h)
        refine ⟨rfl, hbound, [], gs, rfl, nofun, ?_⟩
        intro f hf
        have := hbeyond f hf
        omega
      · rw [if_neg hbound] at h
        cases h
    · obtain ⟨hd, hbound, before, after, hsplit, hbefore, hafter⟩ := ih hrest
      have hrest' : ∀ f ∈ gs, best ≤ pathDistance path f := by
        intro f hf
        rw [hsplit] at hf
        rcases List.mem_append.1 hf with hf | hf
        · exact (hbefore f hf).le
        · rcases List.mem_cons.1 hf with rfl | hf
          · exact hd.le
          · exact hafter f hf
      simp only [hrest] at h
      by_cases hbest : pathDistance path g ≤ best
      · -- A tie goes to the file that stands in front.
        rw [if_pos hbest] at h
        obtain ⟨rfl, rfl⟩ := Prod.mk.inj (Option.some.inj h)
        exact ⟨rfl, hbest.trans hbound, [], gs, rfl, nofun, fun f hf => hbest.trans (hrest' f hf)⟩
      · rw [if_neg hbest] at h
        obtain ⟨rfl, rfl⟩ := Prod.mk.inj (Option.some.inj h)
        refine ⟨hd, hbound, g :: before, after, by rw [hsplit]; rfl, ?_, hafter⟩
        intro f hf
        rcases List.mem_cons.1 hf with rfl | hf
        · omega
        · exact hbefore f hf

example : closest "docs/setus.md".toList 3 ["docs/abc.md", "docs/setup.md", "docs/setups.md"]
    = some (1, "docs/setup.md") := by decide +kernel

/-- What stands behind files that are farther away and before none that is closer is the first of the closest
ones. -/
theorem head?_closestFiles {before after : List String} {f : String}
    (hbefore : ∀ g ∈ before, pathDistance path f < pathDistance path g)
    (hafter : ∀ g ∈ after, pathDistance path f ≤ pathDistance path g) :
    (closestFiles path (before ++ f :: after)).head? = some f := by
  have hleast : ∀ g ∈ before ++ f :: after, pathDistance path f ≤ pathDistance path g := by
    intro g hg
    rcases List.mem_append.1 hg with hg | hg
    · exact (hbefore g hg).le
    · rcases List.mem_cons.1 hg with rfl | hg
      · exact le_rfl
      · exact hafter g hg
  unfold closestFiles
  rw [List.filter_append]
  have hnone : before.filter (fun g => (before ++ f :: after).all fun h =>
      pathDistance path g ≤ pathDistance path h) = [] := by
    rw [List.filter_eq_nil_iff]
    intro g hg hall
    have hle := List.all_eq_true.1 hall f (List.mem_append_right _ List.mem_cons_self)
    have hlt := hbefore g hg
    simp only [decide_eq_true_eq] at hle
    omega
  rw [hnone, List.nil_append, List.filter_cons_of_pos]
  · rfl
  · exact List.all_eq_true.2 fun g hg => decide_eq_true (hleast g hg)

end Search

/-! ## The suggestion -/

/-- A suggestion names the closest file of an index: the first one at the least distance from the path that a
broken link asks for. -/
structure SuggestsClosest (i : FileIndex) (b : BrokenLink) (s : FixSuggestion) : Prop where
  first : (closestFiles b.probe i.allFiles).head? = some s.suggestedPath
  reason : s.reason = "Similar path found (edit distance: " ++
    toString (pathDistance b.probe s.suggestedPath) ++ ")"
  medium_iff : s.confidence = .medium ↔ pathDistance b.probe s.suggestedPath ≤ 2
  low_iff : s.confidence = .low ↔ 2 < pathDistance b.probe s.suggestedPath
  noRedirect : s.redirectEntry = none

variable {s : Surroundings} {b : BrokenLink}

/-- What is suggested, by its distance. -/
theorem similaritySuggestion_eq_some_iff {suggestion : FixSuggestion} :
    similaritySuggestion s b = some suggestion ↔
      ∃ d f, closest (lower b.probe.toList) (distanceBound b.probe) s.index.allFiles = some (d, f) ∧
        d ≤ 5 ∧ suggestion =
          { confidence := if d ≤ 2 then .medium else .low
            suggestedPath := f
            reason := "Similar path found (edit distance: " ++ toString d ++ ")" } := by
  unfold similaritySuggestion
  rcases closest (lower b.probe.toList) (distanceBound b.probe) s.index.allFiles with _ | ⟨d, f⟩
  · simp
  · by_cases hd : d ≤ 5
    · have haccepted : d ≤ maxAcceptedDistance := hd
      simp only [if_pos haccepted, Option.some.injEq, Prod.mk.injEq]
      constructor
      · intro h
        exact ⟨d, f, ⟨rfl, rfl⟩, hd, h.symm⟩
      · rintro ⟨_, _, ⟨rfl, rfl⟩, -, rfl⟩
        rfl
    · have hrejected : ¬d ≤ maxAcceptedDistance := hd
      simp only [if_neg hrejected, Option.some.injEq, Prod.mk.injEq]
      constructor
      · exact nofun
      · rintro ⟨_, _, ⟨rfl, rfl⟩, hd', -⟩
        exact absurd hd' hd

theorem suggestsClosest_of_eq_some {suggestion : FixSuggestion}
    (h : similaritySuggestion s b = some suggestion) : SuggestsClosest s.index b suggestion := by
  obtain ⟨d, f, hclosest, -, rfl⟩ := similaritySuggestion_eq_some_iff.1 h
  obtain ⟨rfl, -, before, after, hsplit, hbefore, hafter⟩ := closest_eq_some hclosest
  refine ⟨?_, rfl, ?_, ?_, rfl⟩
  · rw [hsplit]
    exact head?_closestFiles hbefore hafter
  · by_cases hmedium : pathDistance b.probe f ≤ 2
    · simp [hmedium]
    · simp [hmedium]
  · by_cases hmedium : pathDistance b.probe f ≤ 2
    · simp [hmedium]
    · simp [hmedium]
      omega

/-- **The similarity of paths leads to a closest file.** Something is suggested if and only if some file of the
index is at a distance of at most five, and of at most three tenths of the length of the path; it is the
first file at the least distance over the whole index. An index that a scan has filled lists its files in
the order of their paths. -/
theorem similaritySuggestion_closest (s : Surroundings) (b : BrokenLink) :
    ((similaritySuggestion s b).isSome = true ↔
        ∃ f ∈ s.index.allFiles, pathDistance b.probe f ≤ min 5 (3 * b.probe.length / 10)) ∧
      (∀ suggestion ∈ similaritySuggestion s b, SuggestsClosest s.index b suggestion) ∧
      ∀ t folder extensions excluded files,
        FileTree.scan t folder extensions excluded = .ok files →
          (FileIndex.ofFiles files).allFiles.Pairwise (· < ·) := by
  refine ⟨⟨?_, ?_⟩, fun _ h => suggestsClosest_of_eq_some h, ?_⟩
  · intro hsome
    obtain ⟨suggestion, hsuggestion⟩ := Option.isSome_iff_exists.1 hsome
    obtain ⟨d, f, hclosest, haccepted, -⟩ := similaritySuggestion_eq_some_iff.1 hsuggestion
    obtain ⟨rfl, hbound, before, after, hsplit, -, -⟩ := closest_eq_some hclosest
    refine ⟨f, ?_, ?_⟩
    · rw [hsplit]
      exact List.mem_append_right _ List.mem_cons_self
    · unfold distanceBound at hbound
      omega
  · rintro ⟨f, hf, hdistance⟩
    rcases hclosest : closest (lower b.probe.toList) (distanceBound b.probe) s.index.allFiles
      with _ | ⟨d, g⟩
    · -- The file is within the first bound, so the search finds something.
      have hbeyond := closest_eq_none_iff.1 hclosest f hf
      unfold distanceBound maxEditDistance at hbeyond
      omega
    · obtain ⟨rfl, -, before, after, hsplit, hbefore, hafter⟩ := closest_eq_some hclosest
      have hleast : g ∈ closestFiles b.probe s.index.allFiles := by
        rw [hsplit]
        exact List.mem_of_mem_head? (head?_closestFiles hbefore hafter)
      have hle := (mem_closestFiles.1 hleast).2 f hf
      rw [similaritySuggestion_eq_some_iff.2 ⟨_, g, hclosest, by omega, rfl⟩]
      rfl
  · intro t folder extensions excluded files h
    exact sorted_scan h

end DocLinks
