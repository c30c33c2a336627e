import DocLinks.Proofs.Fix.Lines
import DocLinks.Proofs.Fix.Document
import DocLinks.Proofs.Markdown.Inline

/-!
# Fixes on clean lines

A fix of a clean line goes piece by piece, and leaves a clean line with the same brackets open in the
same pieces. So the pieces that no fix of the line is about keep their links, and what precedes the
first piece is never touched.

## Contents
- `newTargetOf`, `CleanFix`, `CleanLine`: what a fix writes, fixes between clean targets, and lines on
  which nothing can be confused with them.
- `fixedPiece`: a piece after the fixes of its line.
- `foldl_fixedLine_joinPieces`: a line after its fixes.
- `appliedFixes`: the fixes that find their link; the others change nothing.
-/

namespace DocLinks

open Markdown

variable {cwd : List String}

/-! ## Clean fixes -/

/-- The target that a fix writes, given its document, its link and its new path. -/
def newTargetOf (cwd : List String) (a : String × Link × String) : List Char :=
  (((relativeLink? cwd a.1 a.2.2).map a.2.1.withAnchor).getD "").toList

/-- The target that a fix replaces and the one that it writes are clean. -/
structure CleanFix (cwd : List String) (a : String × Link × String) : Prop where
  old : CleanTarget a.2.1.writtenTarget
  new : CleanTarget (newTargetOf cwd a)

instance (cwd : List String) (a : String × Link × String) : Decidable (CleanFix cwd a) :=
  decidable_of_iff (CleanTarget a.2.1.writtenTarget ∧ CleanTarget (newTargetOf cwd a))
    ⟨fun ⟨h, h'⟩ => ⟨h, h'⟩, fun ⟨h, h'⟩ => ⟨h, h'⟩⟩

/-- A line on which nothing can be confused with the targets that are read, replaced and written: what
can be read behind a `](` ends before the next one, and all these targets are clean. -/
structure CleanLine (cwd : List String) (line : List Char) (as : List (String × Link × String)) :
    Prop where
  pieces : ∀ p ∈ (cutPieces line).2, CleanPiece p
  fixes : ∀ a ∈ as, CleanFix cwd a

instance (cwd : List String) (line : List Char) (as : List (String × Link × String)) :
    Decidable (CleanLine cwd line as) :=
  decidable_of_iff ((∀ p ∈ (cutPieces line).2, CleanPiece p) ∧ ∀ a ∈ as, CleanFix cwd a)
    ⟨fun ⟨h, h'⟩ => ⟨h, h'⟩, fun ⟨h, h'⟩ => ⟨h, h'⟩⟩

theorem newTarget?_eq {f : SuggestedFix} (hpath : f.suggestion.suggestedPath ≠ "") :
    newTarget? cwd f.broken f.suggestion = some (.ofList (newTargetOf cwd f.attempt)) := by
  unfold newTarget? newTargetOf SuggestedFix.attempt relativeLink?
  simp only [if_neg hpath, Option.map_some, Option.getD_some, String.ofList_toList]

/-- A piece after a fix. -/
def fixPiece (cwd : List String) (p : List Char) (f : SuggestedFix) : List Char :=
  replacePiece f.broken.link.writtenTarget (newTargetOf cwd f.attempt) p

/-- A piece after the fixes of its line. -/
def fixedPiece (cwd : List String) (fs : List SuggestedFix) (p : List Char) : List Char :=
  fs.foldl (fixPiece cwd) p

theorem fixPiece_of_absent {f : SuggestedFix} {p : List Char}
    (h : behindTarget? f.broken.link.writtenTarget p = none) : fixPiece cwd p f = p :=
  replacePiece_of_none h

/-- A fix finds its link if the target is at the head of some piece. -/
theorem replaced?_joinPieces {f : SuggestedFix} (hpath : f.suggestion.suggestedPath ≠ "")
    (hold : NoOpening f.broken.link.writtenTarget) {first : List Char} {ps : List (List Char)}
    (hfirst : NoOpening first) (hps : ∀ p ∈ ps, NoOpening p) :
    replaced? cwd (joinPieces first ps) f
      = if ps.any fun p => (behindTarget? f.broken.link.writtenTarget p).isSome then
          some (joinPieces first (ps.map (fixPiece cwd · f))) else none := by
  have hrep := replaceOccurrences_joinPieces hold (newTargetOf cwd f.attempt) hfirst hps
  unfold replaced? replaceLink
  rw [newTarget?_eq hpath, Option.bind_some, String.toList_ofList, hrep]
  rcases ps.any fun p => (behindTarget? f.broken.link.writtenTarget p).isSome with _ | _ <;> rfl

/-- **A fix goes piece by piece.** -/
theorem fixedLine_joinPieces {f : SuggestedFix} (hpath : f.suggestion.suggestedPath ≠ "")
    (hold : NoOpening f.broken.link.writtenTarget) {first : List Char} {ps : List (List Char)}
    (hfirst : NoOpening first) (hps : ∀ p ∈ ps, NoOpening p) :
    fixedLine cwd (joinPieces first ps) f = joinPieces first (ps.map (fixPiece cwd · f)) := by
  unfold fixedLine
  rw [replaced?_joinPieces hpath hold hfirst hps]
  rcases hany : ps.any fun p => (behindTarget? f.broken.link.writtenTarget p).isSome with _ | _
  · -- No piece has the target, so no piece is replaced.
    have hsame : ps.map (fixPiece cwd · f) = ps := by
      refine (List.map_congr_left fun p hp => fixPiece_of_absent ?_).trans (List.map_id' ps)
      rw [List.any_eq_false] at hany
      exact Option.not_isSome_iff_eq_none.1 (hany p hp)
    rw [hsame]
    rfl
  · rfl

/-! ## Clean pieces stay clean -/

theorem depthAfter?_of_noParen {cs : List Char} (h : ∀ c ∈ cs, isNoParen c = true) (depth : Nat) :
    depthAfter? depth cs = some depth := by
  induction cs with
  | nil => rfl
  | cons c cs ih =>
    have hc := h c (List.mem_cons_self ..)
    have hcs := ih fun d hd => h d (List.mem_cons_of_mem _ hd)
    unfold depthAfter?
    split
    · cases ‹_ = _›
    · rename_i heq
      cases heq
      exact absurd hc (by decide)
    · rename_i heq
      cases heq
      exact absurd hc (by decide)
    · rename_i heq
      cases heq
      exact hcs

theorem isNoParen_of_isTargetChar {c : Char} (h : isTargetChar c = true) : isNoParen c = true := by
  unfold isTargetChar isNoParen at *
  simp only [Bool.not_eq_true', Bool.or_eq_false_iff] at *
  exact ⟨h.1.1.1.1, h.1.1.1.2⟩

/-- The parentheses of a standard target are paired. -/
theorem Markdown.IsStandardTarget.paired {cs : List Char} (h : IsStandardTarget cs) : Paired cs := by
  have hplain : ∀ {cs : List Char}, (∀ c ∈ cs, isTargetChar c = true) → ∀ depth,
      depthAfter? depth cs = some depth := fun hcs =>
    depthAfter?_of_noParen fun c hc => isNoParen_of_isTargetChar (hcs c hc)
  rcases h with ⟨-, hall⟩ | ⟨first, group, last, rfl, -, hfirst, hgroup, hlast⟩
  · exact hplain hall 0
  · have hsplit : first ++ '(' :: group ++ ')' :: last = first ++ ('(' :: (group ++ ')' :: last)) := by
      simp
    unfold Paired
    rw [hsplit, depthAfter?_append, hplain hfirst, Option.bind_some, depthAfter?,
      depthAfter?_append, depthAfter?_of_noParen hgroup, Option.bind_some, depthAfter?]
    exact hplain hlast 0

/-- A piece with a clean target at its head. -/
theorem cleanPiece_of_target {new rest : List Char} (hnew : CleanTarget new) (hrest : NoOpening rest) :
    CleanPiece (new ++ ')' :: rest) where
  noOpening := by
    rw [noOpening_append_iff, noOpening_cons_iff]
    exact ⟨hnew.noOpening, ⟨by simp, hrest⟩, by simp⟩
  stops := ⟨')', by simp, by decide⟩
  closes h := by
    rcases new with _ | ⟨c, new⟩
    · simp at h
    · simp only [List.cons_append, List.head?_cons, Option.some.injEq] at h
      exact absurd (h ▸ List.mem_cons_self ..) hnew.noAngle.1
  standard target h := by
    obtain ⟨hshape, rest', heq⟩ := standardTarget?_eq_some.1 h
    rw [← hnew.paired.eq_of_append_close hshape.paired heq]
    exact hnew
  angle target h := by
    obtain ⟨-, -, rest', heq⟩ := angleTarget?_eq_some.1 h
    rcases new with _ | ⟨c, new⟩
    · simp at heq
    · simp only [List.cons_append, List.cons.injEq] at heq
      exact absurd (heq.1 ▸ List.mem_cons_self ..) hnew.noAngle.1

theorem Markdown.CleanPiece.fixPiece {f : SuggestedFix} (hf : CleanFix cwd f.attempt) {p : List Char}
    (hp : CleanPiece p) : CleanPiece (fixPiece cwd p f) := by
  rcases h : behindTarget? f.broken.link.writtenTarget p with _ | rest
  · rw [fixPiece_of_absent h]
    exact hp
  · obtain ⟨before, after, heq, -, -⟩ := behindTarget?_eq_some.1 h
    rw [DocLinks.fixPiece, replacePiece_of_some h]
    exact cleanPiece_of_target hf.new (hp.noOpening.of_infix
      ⟨before ++ f.broken.link.writtenTarget ++ after ++ [')'], [], by rw [heq]; simp⟩)

/-- A fix leaves the same brackets open. -/
theorem leavesOpen_fixPiece {f : SuggestedFix} (hf : CleanFix cwd f.attempt) (p : List Char) :
    leavesOpen (fixPiece cwd p f) = leavesOpen p := by
  rcases h : behindTarget? f.broken.link.writtenTarget p with _ | rest
  · rw [fixPiece_of_absent h]
  · obtain ⟨before, after, rfl, hb, ha⟩ := behindTarget?_eq_some.1 h
    have hold : leavesOpen (before ++ f.broken.link.writtenTarget ++ after ++ [')']) = false := by
      have := hf.old.closed
      rcases hb with rfl | rfl <;> rcases ha with rfl | rfl <;>
        simp_all [leavesOpen_append, leavesOpen, SuggestedFix.attempt]
    have hnew : leavesOpen (newTargetOf cwd f.attempt ++ [')']) = false := by
      simp [leavesOpen_append, leavesOpen, hf.new.closed]
    rw [fixPiece, replacePiece_of_some h, List.append_cons, leavesOpen_append_of_closed hnew,
      List.append_cons _ ')' rest, leavesOpen_append_of_closed hold]

/-! ## All fixes of a line -/

theorem Markdown.CleanPiece.fixedPiece {fs : List SuggestedFix} (hfs : ∀ f ∈ fs, CleanFix cwd f.attempt) :
    ∀ {p : List Char}, CleanPiece p → CleanPiece (fixedPiece cwd fs p) := by
  induction fs with
  | nil => exact id
  | cons f fs ih =>
    intro p hp
    exact ih (fun g hg => hfs g (List.mem_cons_of_mem _ hg)) (hp.fixPiece (hfs f (List.mem_cons_self ..)))

theorem leavesOpen_fixedPiece {fs : List SuggestedFix} (hfs : ∀ f ∈ fs, CleanFix cwd f.attempt) :
    ∀ p, leavesOpen (fixedPiece cwd fs p) = leavesOpen p := by
  induction fs with
  | nil => exact fun _ => rfl
  | cons f fs ih =>
    intro p
    exact (ih (fun g hg => hfs g (List.mem_cons_of_mem _ hg)) _).trans
      (leavesOpen_fixPiece (hfs f (List.mem_cons_self ..)) p)

/-- A piece that no fix is about stays. -/
theorem fixedPiece_of_absent {fs : List SuggestedFix} {p : List Char}
    (h : ∀ f ∈ fs, behindTarget? f.broken.link.writtenTarget p = none) : fixedPiece cwd fs p = p := by
  induction fs with
  | nil => rfl
  | cons f fs ih =>
    show fixedPiece cwd fs (fixPiece cwd p f) = p
    rw [fixPiece_of_absent (h f (List.mem_cons_self ..))]
    exact ih fun g hg => h g (List.mem_cons_of_mem _ hg)

/-- **A line after its fixes**: what precedes its first piece, and its pieces after the fixes. -/
theorem foldl_fixedLine_joinPieces {fs : List SuggestedFix}
    (hpath : ∀ f ∈ fs, f.suggestion.suggestedPath ≠ "") (hfs : ∀ f ∈ fs, CleanFix cwd f.attempt)
    {first : List Char} (hfirst : NoOpening first) :
    ∀ {ps : List (List Char)}, (∀ p ∈ ps, CleanPiece p) →
      fs.foldl (fixedLine cwd) (joinPieces first ps)
        = joinPieces first (ps.map (fixedPiece cwd fs)) := by
  induction fs with
  | nil =>
    intro ps _
    show joinPieces first ps = joinPieces first (ps.map fun p => p)
    rw [List.map_id']
  | cons f fs ih =>
    intro ps hps
    have hf := hfs f (List.mem_cons_self ..)
    rw [List.foldl_cons, fixedLine_joinPieces (hpath f (List.mem_cons_self ..)) hf.old.noOpening hfirst
      fun p hp => (hps p hp).noOpening,
      ih (fun g hg => hpath g (List.mem_cons_of_mem _ hg)) (fun g hg => hfs g (List.mem_cons_of_mem _ hg))
        fun q hq => ?_, List.map_map]
    · rfl
    · obtain ⟨p, hp, rfl⟩ := List.mem_map.1 hq
      exact (hps p hp).fixPiece hf

/-! ## What is written stays -/

/-- A target that is at the head of no piece, or is replaced there, is not there after the fix. -/
theorem behindTarget?_fixPiece_eq_none {f : SuggestedFix} (hf : CleanFix cwd f.attempt)
    {target : List Char} (htarget : CleanTarget target) (hne : newTargetOf cwd f.attempt ≠ target)
    {p : List Char}
    (h : behindTarget? f.broken.link.writtenTarget p = none → behindTarget? target p = none) :
    behindTarget? target (fixPiece cwd p f) = none := by
  rcases hp : behindTarget? f.broken.link.writtenTarget p with _ | rest
  · rw [fixPiece_of_absent hp]
    exact h hp
  · rw [fixPiece, replacePiece_of_some hp]
    exact behindTarget?_of_ne hf.new.toPlainTarget htarget.toPlainTarget (Ne.symm hne)
      (behindTarget?_self ..)

/-- On a line without a target no fix of the target finds its link. -/
theorem ne_of_eachFound {fs : List SuggestedFix} (hpath : ∀ f ∈ fs, f.suggestion.suggestedPath ≠ "")
    (hfs : ∀ f ∈ fs, CleanFix cwd f.attempt) {target : List Char} (htarget : CleanTarget target)
    (hne : ∀ f ∈ fs, newTargetOf cwd f.attempt ≠ target) {first : List Char} (hfirst : NoOpening first) :
    ∀ {ps : List (List Char)}, (∀ p ∈ ps, CleanPiece p) → (∀ p ∈ ps, behindTarget? target p = none) →
      EachFound cwd (joinPieces first ps) fs → ∀ f ∈ fs, f.broken.link.writtenTarget ≠ target := by
  induction fs with
  | nil => simp
  | cons g fs ih =>
    intro ps hps habsent hfound
    have hg := hfs g (List.mem_cons_self ..)
    have hno : ∀ p ∈ ps, NoOpening p := fun p hp => (hps p hp).noOpening
    obtain ⟨hhead, htail⟩ := hfound
    rw [fixedLine_joinPieces (hpath g (List.mem_cons_self ..)) hg.old.noOpening hfirst hno] at htail
    intro f hf
    rcases List.mem_cons.1 hf with rfl | hf
    · rintro rfl
      rw [replaced?_joinPieces (hpath f (List.mem_cons_self ..)) hg.old.noOpening hfirst hno,
        if_neg] at hhead
      · cases hhead
      · rw [List.any_eq_true]
        rintro ⟨p, hp, hsome⟩
        rw [habsent p hp] at hsome
        cases hsome
    · refine ih (fun f hf => hpath f (List.mem_cons_of_mem _ hf))
        (fun f hf => hfs f (List.mem_cons_of_mem _ hf)) (fun f hf => hne f (List.mem_cons_of_mem _ hf))
        (fun q hq => ?_) (fun q hq => ?_) htail f hf
      · obtain ⟨p, hp, rfl⟩ := List.mem_map.1 hq
        exact (hps p hp).fixPiece hg
      · obtain ⟨p, hp, rfl⟩ := List.mem_map.1 hq
        exact behindTarget?_fixPiece_eq_none hg htarget (hne g (List.mem_cons_self ..)) fun _ => habsent p hp

/-- **What a fix writes stays**: a piece with a target at its head has, after the fixes of its line, what
the fix of the target has written, if no other fix writes the target or replaces what was written. -/
theorem exists_fixedPiece_eq {fs : List SuggestedFix}
    (hpath : ∀ f ∈ fs, f.suggestion.suggestedPath ≠ "") (hfs : ∀ f ∈ fs, CleanFix cwd f.attempt)
    {target new : List Char} (hne : ∀ f ∈ fs, newTargetOf cwd f.attempt ≠ target)
    (hnew : ∀ f ∈ fs, f.broken.link.writtenTarget ≠ new)
    (hfix : ∃ f ∈ fs, f.broken.link.writtenTarget = target ∧ newTargetOf cwd f.attempt = new)
    {first : List Char} (hfirst : NoOpening first) :
    ∀ {ps : List (List Char)}, (∀ p ∈ ps, CleanPiece p) → EachFound cwd (joinPieces first ps) fs →
      ∀ {p rest}, p ∈ ps → behindTarget? target p = some rest →
        ∃ rest', fixedPiece cwd fs p = new ++ ')' :: rest' := by
  obtain ⟨f₀, hf₀, rfl, rfl⟩ := hfix
  induction fs with
  | nil => cases hf₀
  | cons g fs ih =>
    intro ps hps hfound p rest hp hbehind
    have hg := hfs g (List.mem_cons_self ..)
    have hpath' := fun f hf => hpath f (List.mem_cons_of_mem g hf)
    have hfs' := fun f hf => hfs f (List.mem_cons_of_mem g hf)
    have hne' := fun f hf => hne f (List.mem_cons_of_mem g hf)
    have hnew' := fun f hf => hnew f (List.mem_cons_of_mem g hf)
    have hps' : ∀ q ∈ ps.map (fixPiece cwd · g), CleanPiece q := by
      intro q hq
      obtain ⟨p, hp, rfl⟩ := List.mem_map.1 hq
      exact (hps p hp).fixPiece hg
    have htail := hfound.2
    rw [fixedLine_joinPieces (hpath g (List.mem_cons_self ..)) hg.old.noOpening hfirst
      fun p hp => (hps p hp).noOpening] at htail
    have htarget := (hfs f₀ hf₀).old
    by_cases heq : g.broken.link.writtenTarget = f₀.broken.link.writtenTarget
    · -- All occurrences are replaced at once, so this is the only fix of the target.
      have hothers := ne_of_eachFound hpath' hfs' htarget hne' hfirst hps' (fun q hq => by
        obtain ⟨p, _, rfl⟩ := List.mem_map.1 hq
        exact behindTarget?_fixPiece_eq_none hg htarget (hne g (List.mem_cons_self ..)) fun h => heq ▸ h)
        htail
      rcases List.mem_cons.1 hf₀ with rfl | hf₀
      · refine ⟨rest, ?_⟩
        show fixedPiece cwd fs (fixPiece cwd p f₀) = _
        rw [fixPiece, replacePiece_of_some hbehind]
        refine fixedPiece_of_absent fun f hf => ?_
        exact behindTarget?_of_ne hg.new.toPlainTarget (hfs' f hf).old.toPlainTarget (hnew' f hf)
          (behindTarget?_self ..)
      · exact absurd rfl (hothers f₀ hf₀)
    · have hsame : fixPiece cwd p g = p := fixPiece_of_absent
        (behindTarget?_of_ne htarget.toPlainTarget hg.old.toPlainTarget heq hbehind)
      have hf₀ : f₀ ∈ fs := (List.mem_cons.1 hf₀).resolve_left fun h => heq (h ▸ rfl)
      show ∃ rest', fixedPiece cwd fs (fixPiece cwd p g) = _
      rw [hsame]
      exact ih hpath' hfs' hf₀ hne' hnew' hps' htail (List.mem_map.2 ⟨p, hp, hsame⟩) hbehind

end DocLinks
