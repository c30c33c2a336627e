import DocLinks.Proofs.Check.Answers
import DocLinks.Proofs.Markdown.Headings
import DocLinks.Proofs.Scores

/-!
# Anchors and their suggestions

An anchor is valid exactly if a heading of the document has its id, letter case aside. For an anchor that
is not, the three best headings are suggested: those with the ids that are most like it, in the order of
the document among equals, as far as fewer than half of the characters differ. What is suggested is valid
when it is asked for (`validateAnchor_exact`).

Whether the headings are remembered or read makes no difference, as long as what is remembered is what
the text says (`HasDocument`).

## Contents
- `pairwise_mergeSort_of_ties`: sorting keeps the order of equals.
- `IsClose`, `Precedes`, `ClosestHeadings`, `exists_closestHeadings`: the headings that are suggested.
- `HasDocument`, `HasDocument.validateAnchor_run`: the check of an anchor of a document.
- `validateAnchor_exact`.
-/

namespace DocLinks

open Text Work

/-! ## The best headings -/

/-- **Sorting keeps the order of equals.** -/
theorem pairwise_mergeSort_of_ties {α : Type} {le : α → α → Bool} {R : α → α → Prop}
    (trans : ∀ a b c, le a b = true → le b c = true → le a c = true)
    (total : ∀ a b, (le a b || le b a) = true) {l : List α} (hl : l.Pairwise R) :
    (l.mergeSort le).Pairwise fun a b => le b a = true → R a b := by
  induction l with
  | nil => simp
  | cons a l ih =>
    obtain ⟨hhead, htail⟩ := List.pairwise_cons.1 hl
    -- The new item goes behind those only that are strictly before it.
    obtain ⟨front, back, hsort, hrest, hfront⟩ := List.mergeSort_cons trans total a l
    have hsorted := ih htail
    rw [hrest] at hsorted
    obtain ⟨hfronts, hbacks, hacross⟩ := List.pairwise_append.1 hsorted
    have hback : ∀ b ∈ back, R a b := by
      intro b hb
      have hmem : b ∈ l.mergeSort le := by
        rw [hrest]
        exact List.mem_append_right _ hb
      exact hhead b (List.mem_mergeSort.1 hmem)
    rw [hsort, List.pairwise_append]
    refine ⟨hfronts, List.pairwise_cons.2 ⟨fun b hb _ => hback b hb, hbacks⟩, ?_⟩
    intro b hb c hc
    rcases List.mem_cons.1 hc with rfl | hc
    · intro hle
      have hlt := hfront b hb
      rw [hle] at hlt
      cases hlt
    · exact hacross b hb c hc

/-- What carries its score is kept and sorted like what the score was given to. -/
theorem mergeSort_filter_scored {α : Type} (score : α → Ratio) (id : α → String) (as : List α) :
    ((as.map fun a => (score a, id a)).filter (·.1.exceedsHalf)).mergeSort (fun a b => b.1.le a.1)
      = ((as.filter fun a => (score a).exceedsHalf).mergeSort fun a b => (score b).le (score a)).map
          fun a => (score a, id a) := by
  have hle : ∀ a ∈ as.filter fun a => (score a).exceedsHalf,
      ∀ b ∈ as.filter fun a => (score a).exceedsHalf,
        (score b).le (score a) = (score b, id b).1.le (score a, id a).1 := fun _ _ _ _ => rfl
  rw [List.filter_map]
  exact (List.map_mergeSort hle).symm

/-- An id is close to an anchor if fewer than half of the longer one's characters have to be changed to
make one of the other, letter case aside. -/
def IsClose (anchor id : String) : Prop :=
  2 * editDistance (lower anchor.toList) (lower id.toList)
    < max (lower anchor.toList).length (lower id.toList).length

/-- A heading is suggested before another one: it is more like the anchor, or as much like it and further
up in the document. -/
def Precedes (anchor : String) (g h : Heading) : Prop :=
  likeness anchor h.id < likeness anchor g.id ∨
    likeness anchor g.id = likeness anchor h.id ∧ g.line < h.line

/-- **The headings closest to an anchor**, three at most. A close one is left out only if there are three
that go before it. -/
structure ClosestHeadings (anchor : String) (headings picked : List Heading) : Prop where
  few : picked.length ≤ 3
  mem : ∀ h ∈ picked, h ∈ headings
  close : ∀ h ∈ picked, IsClose anchor h.id
  ordered : picked.Pairwise (Precedes anchor)
  full : ∀ h ∈ headings, IsClose anchor h.id → h ∉ picked →
    picked.length = 3 ∧ ∀ g ∈ picked, Precedes anchor g h

section Closest

variable {anchor : String} {headings : List Heading}

/-- How much a heading is like an anchor. -/
def headingScore (anchor : String) (h : Heading) : Ratio :=
  textSimilarity anchor.toList h.id.toList

/-- The close headings in the order in which they are suggested. -/
def rankedHeadings (anchor : String) (headings : List Heading) : List Heading :=
  (headings.filter fun h => (headingScore anchor h).exceedsHalf).mergeSort fun g h =>
    (headingScore anchor h).le (headingScore anchor g)

theorem similarAnchors_eq (anchor : String) (headings : List Heading) :
    similarAnchors anchor (headings.map (·.id))
      = ((rankedHeadings anchor headings).take maxAnchorSuggestions).map (·.id) := by
  have hscored : (headings.map (·.id)).map (fun id => (textSimilarity anchor.toList id.toList, id))
      = headings.map fun h => (headingScore anchor h, h.id) := List.map_map
  unfold similarAnchors rankedHeadings
  simp only
  rw [hscored, mergeSort_filter_scored, ← List.map_take, List.map_map]
  rfl

theorem mem_rankedHeadings_iff (hne : anchor ≠ "") {h : Heading} :
    h ∈ rankedHeadings anchor headings ↔ h ∈ headings ∧ IsClose anchor h.id := by
  have hne' : anchor.toList ≠ [] := fun hnil => hne (String.toList_eq_nil_iff.1 hnil)
  unfold rankedHeadings
  rw [List.mem_mergeSort, List.mem_filter, headingScore, exceedsHalf_textSimilarity_iff hne']
  rfl

theorem headingScore_le_iff {g h : Heading} :
    (headingScore anchor g).le (headingScore anchor h) = true ↔
      likeness anchor g.id ≤ likeness anchor h.id := by
  unfold headingScore
  rw [Ratio.le_iff (whole_textSimilarity_pos ..) (whole_textSimilarity_pos ..), value_textSimilarity,
    value_textSimilarity]

/-- The order of the suggestions. -/
theorem pairwise_rankedHeadings (hlines : headings.Pairwise fun g h => g.line < h.line) :
    (rankedHeadings anchor headings).Pairwise (Precedes anchor) := by
  have trans : ∀ f g h : Heading, (headingScore anchor g).le (headingScore anchor f) = true →
      (headingScore anchor h).le (headingScore anchor g) = true →
      (headingScore anchor h).le (headingScore anchor f) = true := by
    intro f g h hfg hgh
    rw [headingScore_le_iff] at hfg hgh ⊢
    exact hgh.trans hfg
  have total : ∀ g h : Heading, ((headingScore anchor h).le (headingScore anchor g) ||
      (headingScore anchor g).le (headingScore anchor h)) = true := by
    intro g h
    rw [Bool.or_eq_true, headingScore_le_iff, headingScore_le_iff]
    exact le_total _ _
  have hclose := hlines.filter fun h => (headingScore anchor h).exceedsHalf
  have hsorted := List.pairwise_mergeSort trans total
    (headings.filter fun h => (headingScore anchor h).exceedsHalf)
  have hties := pairwise_mergeSort_of_ties trans total hclose
  refine (hsorted.and hties).imp ?_
  rintro g h ⟨hle, htie⟩
  rw [headingScore_le_iff] at hle
  rcases hle.lt_or_eq with hlt | heq
  · exact .inl hlt
  · exact .inr ⟨heq.symm, htie (headingScore_le_iff.2 heq.ge)⟩

/-- **The similar ids** are those of the closest headings. -/
theorem exists_closestHeadings (hne : anchor ≠ "")
    (hlines : headings.Pairwise fun g h => g.line < h.line) :
    ∃ picked, similarAnchors anchor (headings.map (·.id)) = picked.map (·.id) ∧
      ClosestHeadings anchor headings picked := by
  have hranked : (rankedHeadings anchor headings).Pairwise (Precedes anchor) :=
    pairwise_rankedHeadings hlines
  have hpicked : ∀ h ∈ (rankedHeadings anchor headings).take maxAnchorSuggestions,
      h ∈ headings ∧ IsClose anchor h.id := by
    intro h hh
    exact (mem_rankedHeadings_iff hne).1 (List.mem_of_mem_take hh)
  refine ⟨_, similarAnchors_eq anchor headings, ?_⟩
  constructor
  case few => exact List.length_take_le _ _
  case mem => exact fun h hh => (hpicked h hh).1
  case close => exact fun h hh => (hpicked h hh).2
  case ordered => exact hranked.sublist (List.take_sublist _ _)
  case full =>
    intro h hh hclose hleft
    have hmem : h ∈ rankedHeadings anchor headings := (mem_rankedHeadings_iff hne).2 ⟨hh, hclose⟩
    rw [← List.take_append_drop maxAnchorSuggestions (rankedHeadings anchor headings)] at hmem hranked
    have hdrop := (List.mem_append.1 hmem).resolve_left hleft
    constructor
    · have hlength := List.length_pos_of_mem hdrop
      rw [List.length_drop] at hlength
      rw [List.length_take, Nat.min_eq_left (by omega)]
      rfl
    · intro g hg
      exact (List.pairwise_append.1 hranked).2.2 g hg h hdrop

end Closest

example : similarAnchors "set" ["sat", "use", "Sets"] = ["Sets", "sat"] := by cbv

/-! ## The check of an anchor -/

/-- **A workspace with a document**: what is remembered of its headings is what its text says, or nothing
is remembered and its file has the text. -/
def HasDocument (w : Workspace Context) (path content : String) : Prop :=
  w.scope.headings.get? path = some (Markdown.parseHeadings path content) ∨
    w.scope.headings.get? path = none ∧ w.tree.hasFile w.scope.root path = true ∧
      w.tree.read (projectPath w.scope.root path) FileTree.defaultLimit = .ok content

section Document

variable {w : Workspace Context} {path content : String}

/-- **The headings of the document** are looked up, and the document stays. -/
theorem HasDocument.headingsOf_run (h : HasDocument w path content) :
    ∃ v, headingsOf path w = (.ok (some (Markdown.parseHeadings path content)), v) ∧
      HasDocument v path content := by
  rcases h with hremembered | ⟨hnothing, hfile, hread⟩
  · exact ⟨w, headingsOf_of_remembered hremembered, .inl hremembered⟩
  · have hrun := headingsOf_of_file hnothing hfile
    rw [hread] at hrun
    exact ⟨_, hrun, .inl (by rw [Assoc.get?_put, if_pos rfl])⟩

/-- **The verdict on an anchor of the document** is the one on its headings. -/
theorem HasDocument.validateAnchor_run (h : HasDocument w path content) (anchor source : String)
    (link : Option Link) :
    ∃ v, validateAnchor path anchor source link w
        = (.ok (checkAnchor path anchor (some (Markdown.parseHeadings path content)) source link), v) ∧
      HasDocument v path content := by
  obtain ⟨v, hrun, hv⟩ := h.headingsOf_run
  exact ⟨v, by rw [validateAnchor, bind_run_of_ok hrun]; rfl, hv⟩

end Document

section Verdict

variable {target anchor source : String} {link : Option Link} {h : FileHeadings}

theorem valid_checkAnchor_iff :
    (checkAnchor target anchor (some h) source link).valid = true ↔
      ∃ g ∈ h.headings, lowercase g.id = lowercase anchor := by
  unfold checkAnchor
  simp only [List.any_map, List.any_eq_true, Function.comp_apply, decide_eq_true_eq]
  split
  · rename_i hany
    exact iff_of_true rfl hany
  · rename_i hany
    exact iff_of_false Bool.false_ne_true hany

/-- What is suggested for an anchor in lower case is suggested for the anchor. -/
theorem suggestions_checkAnchor
    (hvalid : (checkAnchor target anchor (some h) source link).valid = false) :
    (checkAnchor target anchor (some h) source link).suggestions
      = similarAnchors anchor (h.headings.map (·.id)) := by
  have hlower : similarAnchors (lowercase anchor) (h.headings.map (·.id))
      = similarAnchors anchor (h.headings.map (·.id)) := by
    unfold similarAnchors
    simp only [toList_lowercase, textSimilarity_lower]
  unfold checkAnchor at hvalid ⊢
  simp only at hvalid ⊢
  split
  · rename_i hany
    rw [if_pos hany] at hvalid
    cases hvalid
  · exact hlower

end Verdict

/-- **Anchors are checked exactly.** An anchor of a document is valid if and only if a heading has its id,
letter case aside. For one that is not, the ids of the closest headings are suggested, and each of them
is a valid anchor of the document. -/
theorem validateAnchor_exact {w : Workspace Context} {path content : String}
    (hdocument : HasDocument w path content) {anchor : String} (hne : anchor ≠ "") (source : String)
    (link : Option Link) :
    ∃ check v, validateAnchor path anchor source link w = (.ok check, v) ∧
      (check.valid = true ↔ ∃ h ∈ Markdown.headings content, lowercase h.id = lowercase anchor) ∧
      (check.valid = false → ∃ picked, check.suggestions = picked.map (·.id) ∧
        ClosestHeadings anchor (Markdown.headings content) picked ∧
        ∀ h ∈ picked, ∀ u, HasDocument u path content → ∀ source link, ∃ check v,
          validateAnchor path h.id source link u = (.ok check, v) ∧ check.valid = true) := by
  obtain ⟨v, hrun, -⟩ := hdocument.validateAnchor_run anchor source link
  refine ⟨_, v, hrun, valid_checkAnchor_iff, ?_⟩
  intro hvalid
  rw [suggestions_checkAnchor hvalid]
  obtain ⟨picked, hpicked, hclosest⟩ := exists_closestHeadings hne (Markdown.pairwise_headings content)
  refine ⟨picked, hpicked, hclosest, ?_⟩
  intro h hh u hu source link
  obtain ⟨v, hrun, -⟩ := hu.validateAnchor_run h.id source link
  exact ⟨_, v, hrun, valid_checkAnchor_iff.2 ⟨h, hclosest.mem h hh, rfl⟩⟩

/-- A guide with two headings. -/
def guideText : String := "# Installation\n\n## Install \x7b#install\x7d\n"

/-- A project at `/p` with that guide. Nothing is remembered of it. -/
def guideProject : Workspace Context where
  tree :=
    { nodes := [(["p"], .folder), (["p", "guide.md"], .file (.text guideText))]
      cwd := ["p"]
      home := [] }
  scope :=
    { root := .ofString "/p"
      excludeDirs := []
      table := none }

/-- A letter is missing from the anchor. -/
theorem validateAnchor_exact_typo :
    HasDocument guideProject "guide.md" guideText ∧ "instalation" ≠ "" ∧
      ∃ check v, validateAnchor "guide.md" "instalation" "index.md" none guideProject
          = (.ok check, v) ∧
        check.valid = false ∧ ∃ picked, check.suggestions = picked.map (·.id) ∧
          ClosestHeadings "instalation" (Markdown.headings guideText) picked := by
  have hdocument : HasDocument guideProject "guide.md" guideText :=
    .inr ⟨rfl, by decide +kernel, rfl⟩
  have hne : "instalation" ≠ "" := by decide
  obtain ⟨check, v, hrun, hvalid, hsuggested⟩ := validateAnchor_exact hdocument hne "index.md" none
  have hinvalid : check.valid = false := by
    rw [Bool.eq_false_iff, ne_eq, hvalid]
    decide +kernel
  obtain ⟨picked, hpicked, hclosest, -⟩ := hsuggested hinvalid
  exact ⟨hdocument, hne, check, v, hrun, hinvalid, picked, hpicked, hclosest⟩

end DocLinks
