import DocLinks.Proofs.Markdown.Lines
import Mathlib.Algebra.Ring.Parity

/-!
# Fenced text

What is written between two fences has no say in what is read of a document. The marks of the lines are
decided by the fences alone: a line is marked if and only if it is a fence, or the number of fences
before it is odd (`getElem?_codeMarks`). So two documents that differ in nothing but fenced text have
the same marks, the same visible lines under the same numbers, and hence the same links and headings
(`fencedText_isInvisible`).

## Contents
- `fencesBefore`, `getElem?_codeMarks`: the marks by parity.
- `DifferInCode`: documents that differ in fenced text only.
- `visibleLines_congr`, `fencedText_isInvisible`.
-/

namespace DocLinks.Markdown

open Text

/-! ## The marks by parity -/

/-- The number of fences among the first lines of a document. -/
def fencesBefore (lines : List (List Char)) (i : Nat) : Nat := (lines.take i).countP isFence

@[simp] theorem fencesBefore_zero (lines : List (List Char)) : fencesBefore lines 0 = 0 := rfl

theorem fencesBefore_cons_succ (l : List Char) (ls : List (List Char)) (i : Nat) :
    fencesBefore (l :: ls) (i + 1) = fencesBefore ls i + if isFence l then 1 else 0 := by
  unfold fencesBefore
  rw [List.take_succ_cons, List.countP_cons]

/-- The mark of a line behind lines that end inside a block or outside of one: each fence in between
leads from one to the other. -/
theorem getElem?_codeMarksFrom (inBlock : Bool) (lines : List (List Char)) (i : Nat) :
    (codeMarksFrom inBlock lines)[i]? =
      lines[i]?.map fun l => isFence l || (inBlock ^^ decide (Odd (fencesBefore lines i))) := by
  induction lines generalizing inBlock i with
  | nil => rfl
  | cons l ls ih =>
    unfold codeMarksFrom
    by_cases hl : isFence l
    · rw [if_pos hl]
      cases i with
      | zero => simp [hl]
      | succ i =>
        rw [List.getElem?_cons_succ, List.getElem?_cons_succ, ih, fencesBefore_cons_succ, if_pos hl]
        -- One fence more on the way, and the other state to start from.
        simp only [Nat.odd_add_one, decide_not, Bool.not_bne, Bool.bne_not]
    · rw [if_neg hl]
      cases i with
      | zero => simp [hl]
      | succ i =>
        rw [List.getElem?_cons_succ, List.getElem?_cons_succ, ih, fencesBefore_cons_succ, if_neg hl,
          Nat.add_zero]

/-- **The mark of a line**: it is a fence, or the number of fences before it is odd. -/
theorem getElem?_codeMarks (lines : List (List Char)) (i : Nat) :
    (codeMarks lines)[i]? =
      lines[i]?.map fun l => isFence l || decide (Odd (fencesBefore lines i)) := by
  show (codeMarksFrom false lines)[i]? = _
  rw [getElem?_codeMarksFrom]
  simp only [Bool.false_bne]

/-- The marks depend on nothing but which lines are fences. -/
theorem codeMarksFrom_congr (inBlock : Bool) {lines lines' : List (List Char)}
    (h : lines.map isFence = lines'.map isFence) :
    codeMarksFrom inBlock lines = codeMarksFrom inBlock lines' := by
  induction lines generalizing inBlock lines' with
  | nil => rw [List.map_eq_nil_iff.1 h.symm]
  | cons l ls ih =>
    cases lines' with
    | nil => cases h
    | cons l' ls' =>
      obtain ⟨hl, hls⟩ := List.cons.inj h
      unfold codeMarksFrom
      rw [hl, ih (!inBlock) hls, ih inBlock hls]

/-- What is passed over may be anything: under the same marks, numbered lists show the same items if they
are as long as each other and have the same items where the marks show them. -/
theorem filterMap_zip_congr {α : Type} {marks : List Bool} {as bs : List α} (n : Nat)
    (hlength : as.length = bs.length) (h : ∀ i : Nat, marks[i]? = some false → as[i]? = bs[i]?) :
    (((numberFrom n as).zip marks).filterMap fun (numbered, marked) =>
        if marked then none else some numbered) =
      ((numberFrom n bs).zip marks).filterMap fun (numbered, marked) =>
        if marked then none else some numbered := by
  induction marks generalizing n as bs with
  | nil => simp
  | cons mark marks ih =>
    cases as with
    | nil => rw [List.length_eq_zero_iff.1 hlength.symm]
    | cons a as =>
      obtain ⟨b, bs, rfl⟩ := List.exists_cons_of_length_pos (l := bs) (by simp [← hlength])
      have hrest := ih (n + 1) (Nat.succ.inj hlength) fun i hi => h (i + 1) hi
      simp only [numberFrom, List.zip_cons_cons, List.filterMap_cons]
      rw [hrest]
      cases mark with
      | true => rfl
      | false =>
        have hab : a = b := Option.some.inj (h 0 rfl)
        rw [hab]

/-! ## Documents that differ in fenced text only -/

/-- Lists of lines that differ in code only: where their lines are not the same, the line is marked in the
first of them, and it is a fence in neither. -/
structure DifferInCode (lines lines' : List (List Char)) : Prop where
  length_eq : lines.length = lines'.length
  marked : ∀ (i : Nat) (l l' : List Char), lines[i]? = some l → lines'[i]? = some l' → l ≠ l' →
    (codeMarks lines)[i]? = some true ∧ isFence l = false ∧ isFence l' = false

instance (lines lines' : List (List Char)) : Decidable (DifferInCode lines lines') :=
  decidable_of_iff (lines.length = lines'.length ∧
      ∀ i < lines.length, ∀ l ∈ lines[i]?, ∀ l' ∈ lines'[i]?, l ≠ l' →
        (codeMarks lines)[i]? = some true ∧ isFence l = false ∧ isFence l' = false)
    ⟨fun ⟨hlength, h⟩ => ⟨hlength, fun i l l' hl hl' =>
        h i (List.getElem?_eq_some_iff.1 hl).1 l hl l' hl'⟩,
      fun ⟨hlength, h⟩ => ⟨hlength, fun i _ l hl l' hl' => h i l l' hl hl'⟩⟩

namespace DifferInCode

variable {lines lines' : List (List Char)}

/-- The same lines are fences in both. -/
theorem map_isFence (h : DifferInCode lines lines') : lines.map isFence = lines'.map isFence := by
  apply List.ext_getElem
  · simp [h.length_eq]
  · intro i hi hi'
    rw [List.length_map] at hi hi'
    rw [List.getElem_map, List.getElem_map]
    by_cases hsame : lines[i] = lines'[i]
    · rw [hsame]
    · obtain ⟨-, hl, hl'⟩ := h.marked i _ _ (List.getElem?_eq_getElem hi)
        (List.getElem?_eq_getElem hi') hsame
      rw [hl, hl']

/-- What is shown at a place is the same. -/
theorem getElem?_eq_of_visible (h : DifferInCode lines lines') {i : Nat}
    (hmark : (codeMarks lines)[i]? = some false) : lines[i]? = lines'[i]? := by
  by_cases hi : i < lines.length
  · have hi' : i < lines'.length := h.length_eq ▸ hi
    rw [List.getElem?_eq_getElem hi, List.getElem?_eq_getElem hi']
    by_contra hne
    have hlines : lines[i] ≠ lines'[i] := fun hsame => hne (congrArg some hsame)
    obtain ⟨hmarked, -, -⟩ := h.marked i _ _ (List.getElem?_eq_getElem hi)
      (List.getElem?_eq_getElem hi') hlines
    rw [hmark] at hmarked
    cases hmarked
  · have hi' : ¬i < lines'.length := h.length_eq ▸ hi
    rw [List.getElem?_eq_none (by omega), List.getElem?_eq_none (by omega)]

/-- **The visible lines** are the same, under the same numbers. -/
theorem visibleLines_congr (h : DifferInCode lines lines') :
    visibleLines lines = visibleLines lines' := by
  have hmarks : codeMarks lines = codeMarks lines' := codeMarksFrom_congr false h.map_isFence
  unfold visibleLines
  rw [← hmarks]
  exact filterMap_zip_congr 1 h.length_eq fun i => h.getElem?_eq_of_visible

end DifferInCode

/-- **Fenced text is invisible.** A line of a document is marked if and only if it is a fence or the number
of fences before it is odd, and a document that differs in nothing but marked lines, fences aside, has
the same links and the same headings. -/
theorem fencedText_isInvisible (path content : String) :
    (∀ i : Nat, (codeMarks (linesOf content))[i]? =
      (linesOf content)[i]?.map fun l =>
        isFence l || decide (Odd (fencesBefore (linesOf content) i))) ∧
    ∀ content' : String, DifferInCode (linesOf content) (linesOf content') →
      parseLinks path content = parseLinks path content' ∧
        parseHeadings path content = parseHeadings path content' := by
  refine ⟨getElem?_codeMarks (linesOf content), ?_⟩
  intro content' h
  have hvisible := h.visibleLines_congr
  constructor
  · unfold parseLinks links
    rw [hvisible]
  · unfold parseHeadings headings
    rw [hvisible]

/-- A page with two blocks. The fence that closes the first one is made of tildes, and the second one is never
closed. -/
def fencedPage : String := "# A\n```\n# B\n~~~\n[c](d.md)\n```\n[e](f.md)"

/-- That page with other text in both blocks. -/
def rewrittenPage : String := "# A\n```\n[b](b.md)\n~~~\n[c](d.md)\n```\n# E"

theorem fencedText_isInvisible_twoBlocks :
    DifferInCode (linesOf fencedPage) (linesOf rewrittenPage) ∧
      parseLinks "p.md" fencedPage = parseLinks "p.md" rewrittenPage ∧
      parseHeadings "p.md" fencedPage = parseHeadings "p.md" rewrittenPage := by
  have hdiffer : DifferInCode (linesOf fencedPage) (linesOf rewrittenPage) := by decide +kernel
  exact ⟨hdiffer, (fencedText_isInvisible "p.md" fencedPage).2 rewrittenPage hdiffer⟩

end DocLinks.Markdown
