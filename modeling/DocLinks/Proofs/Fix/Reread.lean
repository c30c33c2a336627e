import DocLinks.Proofs.Fix.CleanLines
import DocLinks.Proofs.Markdown.Attributes
import DocLinks.Proofs.Markdown.Lines
import DocLinks.Proofs.Text.Trimming

/-!
# Reading lines again after their fixes

Fixes neither open nor close fenced code, so the same lines of a document are read before and after
them (`codeMarks_rewrittenLines`). On a clean line a link is found again unless a fix is about its
target (`exists_mem_matchesOf`).

## Contents
- `isFence_append`: what makes a fence stands before the first closing bracket.
- `BarePiece`, `CleanAttributes`: lines on which the fixes do not meet attributes.
- `mem_inline_again`, `mem_attribute_again`, `exists_mem_matchesOf`: links that are found again.
-/

namespace DocLinks

open Text Markdown

variable {cwd : List String}

/-! ## Fenced code -/

/-- A word without closing brackets is not completed by one. -/
theorem isPrefixOf_append_bracket {word : List Char} (hword : ']' ∉ word) (a x : List Char) :
    word.isPrefixOf (a ++ ']' :: x) = word.isPrefixOf a := by
  induction word generalizing a with
  | nil => cases a <;> rfl
  | cons c word ih =>
    rw [List.mem_cons, not_or] at hword
    rcases a with _ | ⟨d, a⟩
    · have hne : (c == ']') = false := by simpa using Ne.symm hword.1
      simp [List.isPrefixOf, hne]
    · simp [List.isPrefixOf, ih hword.2]

/-- **A fence** is made before the first closing bracket. -/
theorem isFence_append (a x : List Char) :
    isFence (a ++ ']' :: x) = ("```".toList.isPrefixOf (a.dropWhile isBlank) ||
      "~~~".toList.isPrefixOf (a.dropWhile isBlank)) := by
  obtain ⟨y, hy⟩ : ∃ y, trim (a ++ ']' :: x) = a.dropWhile isBlank ++ ']' :: y := by
    have hstart : trimStart (a ++ ']' :: x) = a.dropWhile isBlank ++ ']' :: x := by
      unfold trimStart
      rw [List.dropWhile_append]
      split
      · rename_i hempty
        rw [List.isEmpty_iff.1 hempty, List.dropWhile_cons_of_neg (by decide), List.nil_append]
      · rfl
    exact ⟨dropEndWhile isBlank x, by
      rw [trim, hstart, trimEnd, dropEndWhile_append_cons (by decide)]⟩
  unfold isFence
  rw [hy, isPrefixOf_append_bracket (by decide), isPrefixOf_append_bracket (by decide)]

/-- What precedes the first replaced occurrence is the same. -/
theorem exists_head_of_found {target replacement : List Char} {cs : List Char}
    (h : (replaceOccurrences target (']' :: replacement) cs).2 = true) :
    ∃ a x y, cs = a ++ ']' :: x ∧
      (replaceOccurrences target (']' :: replacement) cs).1 = a ++ ']' :: y := by
  induction cs with
  | nil => cases h
  | cons c cs ih =>
    rw [replaceOccurrences_cons] at h ⊢
    rcases ho : occurrence? target (c :: cs) with _ | rest
    · rw [ho] at h
      obtain ⟨a, x, y, rfl, hy⟩ := ih h
      exact ⟨c :: a, x, y, rfl, by simp only [hy]; rfl⟩
    · obtain ⟨before, after, hcs, -, -⟩ := occurrence?_eq_some_iff.1 ho
      exact ⟨[], _, _, hcs, rfl⟩

theorem isFence_fixedLine (line : List Char) (f : SuggestedFix) :
    isFence (fixedLine cwd line f) = isFence line := by
  rcases fixedLine_cases cwd line f with hsame | ⟨new, -, hr⟩
  · rw [hsame]
  · rw [replaceLink_eq_some] at hr
    have hfound : (replaceOccurrences f.broken.link.writtenTarget
        (']' :: ('(' :: new.toList ++ [')'])) line).2 = true := congrArg Prod.snd hr
    obtain ⟨a, x, y, hline, hupdated⟩ := exists_head_of_found hfound
    have hnew : fixedLine cwd line f = a ++ ']' :: y := (congrArg Prod.fst hr).symm.trans hupdated
    rw [hnew, hline, isFence_append, isFence_append]

theorem codeMarksFrom_congr {ls ls' : List (List Char)} (h : ls.map isFence = ls'.map isFence)
    (inBlock : Bool) : codeMarksFrom inBlock ls = codeMarksFrom inBlock ls' := by
  induction ls generalizing ls' inBlock with
  | nil => rw [List.map_eq_nil_iff.1 h.symm]
  | cons l ls ih =>
    obtain ⟨l', ls', rfl, hl, hls⟩ := List.map_eq_cons_iff.1 h.symm
    simp only [codeMarksFrom, hl, ih hls.symm]

/-- **The lines that are read** are the same before and after fixes. -/
theorem codeMarks_rewrittenLines (fs : List SuggestedFix) (lines : Lines) :
    codeMarks (rewrittenLines cwd fs lines) = codeMarks lines := by
  have hfold : ∀ (gs : List SuggestedFix) (line : List Char),
      isFence (gs.foldl (fixedLine cwd) line) = isFence line := by
    intro gs
    induction gs with
    | nil => exact fun _ => rfl
    | cons g gs ih => exact fun line => (ih _).trans (isFence_fixedLine line g)
  refine codeMarksFrom_congr (List.ext_getElem? fun i => ?_) false
  rw [List.getElem?_map, List.getElem?_map, getElem?_rewrittenLines, Option.map_map]
  cases lines[i]? with
  | none => rfl
  | some line => exact congrArg some (hfold _ line)

/-! ## Attributes -/

/-- A target at the head of a piece is not in angle brackets there. -/
def BarePiece (target p : List Char) : Prop :=
  ∀ rest, behindTarget? target p = some rest → p = target ++ ')' :: rest

/-- The fixes of a line write and replace no quotes and no angle brackets. -/
structure CleanAttributes (cwd : List String) (line : List Char) (a : String × Link × String) : Prop where
  old : Unmarked a.2.1.writtenTarget
  new : Unmarked (newTargetOf cwd a)
  bare : ∀ p ∈ (cutPieces line).2, BarePiece a.2.1.writtenTarget p

/-- A clean target at the head of a piece is the only one there. -/
theorem barePiece_of_target {target new rest : List Char} (htarget : CleanTarget target)
    (hnew : CleanTarget new) : BarePiece target (new ++ ')' :: rest) := by
  intro rest' h
  obtain rfl := eq_of_behindTarget? htarget.toPlainTarget hnew.toPlainTarget h
    (behindTarget?_self new rest)
  rw [behindTarget?_self] at h
  rw [Option.some.inj h]

theorem BarePiece.fixPiece {f : SuggestedFix} (hf : CleanFix cwd f.attempt) {target p : List Char}
    (htarget : CleanTarget target) (hp : BarePiece target p) :
    BarePiece target (fixPiece cwd p f) := by
  rcases h : behindTarget? f.broken.link.writtenTarget p with _ | rest
  · rw [fixPiece_of_absent h]
    exact hp
  · rw [DocLinks.fixPiece, replacePiece_of_some h]
    exact barePiece_of_target htarget hf.new

theorem rewritten_append {a a' b b' : List Char} (h : Rewritten a a') (h' : Rewritten b b') :
    Rewritten (a ++ b) (a' ++ b') := by
  induction h with
  | nil => exact h'
  | cons c _ ih => exact .cons c ih
  | target ha hb _ ih => simpa using Rewritten.target ha hb ih

/-- **A fix rewrites targets only.** -/
theorem rewritten_fixPieces {f : SuggestedFix} (hold : Unmarked f.broken.link.writtenTarget)
    (hnew : Unmarked (newTargetOf cwd f.attempt)) (first : List Char) {ps : List (List Char)}
    (hps : ∀ p ∈ ps, BarePiece f.broken.link.writtenTarget p) :
    Rewritten (joinPieces first ps) (joinPieces first (ps.map (fixPiece cwd · f))) := by
  refine Rewritten.append_left first ?_
  induction ps with
  | nil => exact .nil
  | cons p ps ih =>
    rw [List.map_cons, List.flatMap_cons, List.flatMap_cons]
    refine rewritten_append ?_ (ih fun q hq => hps q (List.mem_cons_of_mem _ hq))
    rcases h : behindTarget? f.broken.link.writtenTarget p with _ | rest
    · rw [fixPiece_of_absent h]
      exact .refl _
    · rw [fixPiece, replacePiece_of_some h, hps p (List.mem_cons_self ..) rest h]
      exact .target hold hnew (.refl rest)

/-- **A link by an attribute** is found again after the fixes of its line. -/
theorem mem_attribute_again {recognise : List Char → Option Found} (hr : ReadsAttribute recognise)
    {fs : List SuggestedFix} (hfs : ∀ f ∈ fs, CleanFix cwd f.attempt)
    (hmarks : ∀ f ∈ fs, Unmarked f.broken.link.writtenTarget ∧ Unmarked (newTargetOf cwd f.attempt))
    {first : List Char} :
    ∀ {ps : List (List Char)} {m : Match},
      (∀ f ∈ fs, ∀ p ∈ ps, BarePiece f.broken.link.writtenTarget p) →
      m ∈ scan recognise 0 (joinPieces first ps) → NoOpening m.found.target →
      ∃ m' ∈ scan recognise 0 (joinPieces first (ps.map (fixedPiece cwd fs))),
        m'.found.target = m.found.target := by
  induction fs with
  | nil =>
    intro ps m _ hm _
    refine ⟨m, ?_, rfl⟩
    show m ∈ scan recognise 0 (joinPieces first (ps.map fun p => p))
    rwa [List.map_id']
  | cons f fs ih =>
    intro ps m hbare hm hno
    have hf := hfs f (List.mem_cons_self ..)
    obtain ⟨hold, hnew⟩ := hmarks f (List.mem_cons_self ..)
    obtain ⟨m', hm', heq⟩ := mem_targets_of_rewritten hr
      (rewritten_fixPieces hold hnew first (hbare f (List.mem_cons_self ..))) hm hno
    have hbare' : ∀ g ∈ fs, ∀ q ∈ ps.map (fixPiece cwd · f), BarePiece g.broken.link.writtenTarget q := by
      intro g hg q hq
      obtain ⟨p, hp, rfl⟩ := List.mem_map.1 hq
      exact (hbare g (List.mem_cons_of_mem _ hg) p hp).fixPiece hf
        (hfs g (List.mem_cons_of_mem _ hg)).old
    obtain ⟨m'', hm'', heq'⟩ := ih (fun g hg => hfs g (List.mem_cons_of_mem _ hg))
      (fun g hg => hmarks g (List.mem_cons_of_mem _ hg)) hbare' hm' (by rw [heq]; exact hno)
    rw [List.map_map] at hm''
    exact ⟨m'', hm'', heq'.trans heq⟩

/-! ## Inline links -/

/-- Two targets at the head of one piece, one of them read there. -/
theorem absent_of_ne {read : List Char → Option (List Char)} {overhead : Nat}
    (hread : ReadsTarget read overhead) {p target other : List Char} (hp : CleanPiece p)
    (hother : CleanTarget other) (hne : other ≠ target) (h : read p = some target) :
    behindTarget? other p = none := by
  obtain ⟨before, after, rest, heq, hb, ha, -⟩ := hread.head h
  exact behindTarget?_of_ne (hread.clean hp h).toPlainTarget hother.toPlainTarget hne
    (behindTarget?_eq_some.2 ⟨before, after, heq, hb, ha⟩)

/-- **A piece keeps its place** on its line: what is read of it after the fixes is a target of the line
after the fixes. -/
theorem mem_openTargets_fixed {read : List Char → Option (List Char)} {fs : List SuggestedFix}
    (hfs : ∀ f ∈ fs, CleanFix cwd f.attempt) {first q p target : List Char} {ps : List (List Char)}
    {i : Nat} (hq : (first :: ps)[i]? = some q) (hp : ps[i]? = some p) (hopen : leavesOpen q = true)
    (hread : read (fixedPiece cwd fs p) = some target) :
    target ∈ openTargets read first (ps.map (fixedPiece cwd fs)) := by
  rw [mem_openTargets_iff]
  rcases i with _ | i
  · cases hq
    exact ⟨0, first, fixedPiece cwd fs p, rfl, by rw [List.getElem?_map, hp]; rfl, hopen, hread⟩
  · rw [List.getElem?_cons_succ] at hq
    refine ⟨i + 1, fixedPiece cwd fs q, fixedPiece cwd fs p, ?_, ?_, ?_, hread⟩
    · rw [List.getElem?_cons_succ, List.getElem?_map, hq]
      rfl
    · rw [List.getElem?_map, hp]
      rfl
    · rw [leavesOpen_fixedPiece hfs]
      exact hopen

/-- **An inline link** that no fix is about is found again. -/
theorem mem_inline_again {read : List Char → Option (List Char)} {overhead : Nat}
    (hread : ReadsTarget read overhead) {fs : List SuggestedFix}
    (hfs : ∀ f ∈ fs, CleanFix cwd f.attempt) {first : List Char} {ps : List (List Char)}
    (hfirst : NoOpening first) (hps : ∀ p ∈ ps, CleanPiece p) {m : Match}
    (hm : m ∈ scan (inlineWith read overhead) 0 (joinPieces first ps))
    (hne : ∀ f ∈ fs, f.broken.link.writtenTarget ≠ m.found.target) :
    ∃ m' ∈ scan (inlineWith read overhead) 0 (joinPieces first (ps.map (fixedPiece cwd fs))),
      m'.found.target = m.found.target := by
  have htarget : m.found.target ∈ openTargets read first ps := by
    rw [← targets_scan_joinPieces hread hfirst hps 0]
    exact List.mem_map_of_mem hm
  obtain ⟨i, q, p, hq, hp, hopen, hr⟩ := mem_openTargets_iff.1 htarget
  have hclean := hps p (List.mem_of_getElem? hp)
  have hsame : fixedPiece cwd fs p = p := fixedPiece_of_absent fun f hf =>
    absent_of_ne hread hclean (hfs f hf).old (hne f hf) hr
  have hagain : m.found.target ∈ openTargets read first (ps.map (fixedPiece cwd fs)) :=
    mem_openTargets_fixed hfs hq hp hopen (by rw [hsame]; exact hr)
  rw [← targets_scan_joinPieces hread hfirst (fun q hq => by
    obtain ⟨p, hp, rfl⟩ := List.mem_map.1 hq
    exact (hps p hp).fixedPiece hfs) 0] at hagain
  exact List.mem_map.1 hagain

end DocLinks
