import DocLinks.Proofs.Fix.Order
import DocLinks.Proofs.Runs

/-!
# Fixes on lines

What `fixLines` makes of the lines of a document, said line by line: a line has been through the
fixes that are recorded for it, in their order, and through no other. The lines therefore depend on
the order of the fixes within each line only (`rewrittenLines_congr`), there are as many as before,
and those that no fix is recorded for are the same.

## Contents
- `fixedLine`, `rewrittenLine`, `rewrittenLines`: one fix on a line, the fixes of a line, all lines.
- `findsLink`, `foundEach`: which fixes find their link, each on what the earlier ones leave.
- `appliedFixes`, `EachFound`: the fixes that find their link.
- `lineFailure`, `fixOutcomes`: why a fix does not find its link, and what becomes of each fix.
- `fixLines_run`: the computation, in these terms.
-/

namespace DocLinks

/-- What a fix makes of a line, if its link is there. -/
def replaced? (cwd : List String) (line : List Char) (f : SuggestedFix) : Option (List Char) :=
  (newTarget? cwd f.broken f.suggestion).bind fun target =>
    replaceLink line f.broken.link target.toList

/-- A line after a fix; without the link it stays. -/
def fixedLine (cwd : List String) (line : List Char) (f : SuggestedFix) : List Char :=
  (replaced? cwd line f).getD line

/-- The line with the given number after the fixes that are recorded for it, in order. -/
def rewrittenLine (cwd : List String) (fs : List SuggestedFix) (number : Int) (line : List Char) :
    List Char :=
  (fs.filter (·.broken.link.line = number)).foldl (fixedLine cwd) line

/-- The lines of a document after fixes. -/
def rewrittenLines (cwd : List String) (fs : List SuggestedFix) (lines : Lines) : Lines :=
  lines.mapIdx fun i line => rewrittenLine cwd fs (i + 1) line

/-- Whether a fix finds its link on the line that is recorded for it. -/
def findsLink (cwd : List String) (lines : Lines) (f : SuggestedFix) : Bool :=
  match lineIndex? lines f.broken.link.line with
  | some i => (replaced? cwd (lines.getD i []) f).isSome
  | none => false

/-- Which fixes find their link, each on the lines that the earlier ones leave. -/
def foundEach (cwd : List String) (lines : Lines) : List SuggestedFix → List Bool
  | [] => []
  | f :: fs => findsLink cwd lines f :: foundEach cwd (rewrittenLines cwd [f] lines) fs

variable {cwd : List String} {lines : Lines} {f : SuggestedFix} {fs gs : List SuggestedFix}

/-! ## Line by line -/

/-- **A line after a fix** is the line, or its link has been replaced. -/
theorem fixedLine_cases (cwd : List String) (line : List Char) (f : SuggestedFix) :
    fixedLine cwd line f = line ∨ ∃ new, newTarget? cwd f.broken f.suggestion = some new ∧
      replaceLink line f.broken.link new.toList = some (fixedLine cwd line f) := by
  unfold fixedLine replaced?
  rcases newTarget? cwd f.broken f.suggestion with _ | new
  · exact .inl rfl
  · rw [Option.bind_some]
    rcases hr : replaceLink line f.broken.link new.toList with _ | updated
    · exact .inl rfl
    · exact .inr ⟨new, rfl, hr⟩

@[simp] theorem rewrittenLines_nil : rewrittenLines cwd [] lines = lines := by
  apply List.ext_getElem? fun i => ?_
  rw [rewrittenLines, List.getElem?_mapIdx]
  cases lines[i]? <;> rfl

theorem rewrittenLine_append (number : Int) (line : List Char) :
    rewrittenLine cwd (fs ++ gs) number line
      = rewrittenLine cwd gs number (rewrittenLine cwd fs number line) := by
  simp [rewrittenLine, List.filter_append, List.foldl_append]

theorem rewrittenLines_append (fs gs : List SuggestedFix) (lines : Lines) :
    rewrittenLines cwd (fs ++ gs) lines = rewrittenLines cwd gs (rewrittenLines cwd fs lines) := by
  unfold rewrittenLines
  rw [List.mapIdx_mapIdx]
  simp only [rewrittenLine_append, Function.comp_def]

theorem rewrittenLines_cons (f : SuggestedFix) (fs : List SuggestedFix) (lines : Lines) :
    rewrittenLines cwd (f :: fs) lines = rewrittenLines cwd fs (rewrittenLines cwd [f] lines) :=
  rewrittenLines_append [f] fs lines

/-- Only the order of the fixes within each line matters. -/
theorem rewrittenLines_congr
    (h : ∀ line : Int, fs.filter (·.broken.link.line = line) = gs.filter (·.broken.link.line = line)) :
    rewrittenLines cwd fs lines = rewrittenLines cwd gs lines := by
  unfold rewrittenLines rewrittenLine
  simp only [h]

@[simp] theorem length_rewrittenLines : (rewrittenLines cwd fs lines).length = lines.length :=
  List.length_mapIdx

theorem getElem?_rewrittenLines (i : Nat) :
    (rewrittenLines cwd fs lines)[i]? = lines[i]?.map (rewrittenLine cwd fs (i + 1)) :=
  List.getElem?_mapIdx

/-- A line that no fix is recorded for is the same. -/
theorem getElem?_rewrittenLines_of_forall_ne {i : Nat}
    (h : ∀ f ∈ fs, f.broken.link.line ≠ i + 1) :
    (rewrittenLines cwd fs lines)[i]? = lines[i]? := by
  rw [getElem?_rewrittenLines]
  have hnone : fs.filter (·.broken.link.line = (i : Int) + 1) = [] := by
    rw [List.filter_eq_nil_iff]
    intro f hf
    simpa using h f hf
  cases lines[i]? with
  | none => rfl
  | some line => simp [rewrittenLine, hnone]

theorem lineIndex?_eq_some_iff {number : Int} {i : Nat} :
    lineIndex? lines number = some i ↔ number = i + 1 ∧ i < lines.length := by
  unfold lineIndex?
  split
  · rw [Option.some.injEq]; omega
  · simp only [reduceCtorEq, false_iff]; omega

theorem lineIndex?_eq_none_iff {number : Int} :
    lineIndex? lines number = none ↔ number < 1 ∨ lines.length < number := by
  unfold lineIndex?
  split
  · simp only [reduceCtorEq, false_iff]; omega
  · simp only [true_iff]; omega

/-- A fix on a document that has its line. -/
theorem rewrittenLines_singleton {i : Nat} (hi : lineIndex? lines f.broken.link.line = some i) :
    rewrittenLines cwd [f] lines = lines.set i (fixedLine cwd (lines.getD i []) f) := by
  obtain ⟨hnumber, hlt⟩ := lineIndex?_eq_some_iff.1 hi
  apply List.ext_getElem? fun j => ?_
  rw [getElem?_rewrittenLines, List.getElem?_set]
  by_cases hj : i = j
  · subst hj
    simp [hlt, rewrittenLine, hnumber]
  · have hne : ¬f.broken.link.line = (j : Int) + 1 := by omega
    rw [if_neg hj]
    cases lines[j]? <;> simp [rewrittenLine, hne]

/-- A fix that does not find its link leaves the lines as they are. -/
theorem rewrittenLines_of_not_findsLink (h : findsLink cwd lines f = false) :
    rewrittenLines cwd [f] lines = lines := by
  unfold findsLink at h
  rcases hi : lineIndex? lines f.broken.link.line with _ | i
  · apply List.ext_getElem? fun j => ?_
    by_cases hj : j < lines.length
    · refine getElem?_rewrittenLines_of_forall_ne fun g hg => ?_
      have := lineIndex?_eq_none_iff.1 hi
      rw [List.mem_singleton.1 hg]
      omega
    · rw [List.getElem?_eq_none (by simpa using hj), List.getElem?_eq_none (by simpa using hj)]
  · rw [hi] at h
    simp only [Option.isSome_eq_false_iff, Option.isNone_iff_eq_none] at h
    rw [rewrittenLines_singleton hi, fixedLine, h, Option.getD_none]
    have hlt := (lineIndex?_eq_some_iff.1 hi).2
    simp [hlt]

/-- What every fix preserves on a line, all fixes preserve on all lines. -/
theorem forall_mem_rewrittenLines {P : List Char → Prop}
    (hstep : ∀ f ∈ fs, ∀ line, P line → P (fixedLine cwd line f)) (hlines : ∀ l ∈ lines, P l) :
    ∀ l ∈ rewrittenLines cwd fs lines, P l := by
  have hfold : ∀ (gs : List SuggestedFix), (∀ f ∈ gs, f ∈ fs) → ∀ line, P line →
      P (gs.foldl (fixedLine cwd) line) := by
    intro gs
    induction gs with
    | nil => intro _ line h; exact h
    | cons g gs ih =>
      intro hsub line h
      exact ih (fun f hf => hsub f (List.mem_cons_of_mem _ hf)) _
        (hstep g (hsub g (List.mem_cons_self ..)) line h)
  intro l hl
  obtain ⟨i, hi, rfl⟩ := List.mem_mapIdx.1 hl
  exact hfold _ (fun f hf => (List.mem_filter.1 hf).1) _ (hlines _ (List.getElem_mem hi))

theorem length_foundEach (fs : List SuggestedFix) :
    ∀ lines : Lines, (foundEach cwd lines fs).length = fs.length := by
  induction fs with
  | nil => intro lines; rfl
  | cons f fs ih => intro lines; simp [foundEach, ih]

/-- If no fix finds its link, the lines stay. -/
theorem rewrittenLines_of_foundEach (fs : List SuggestedFix) :
    ∀ lines : Lines, (∀ b ∈ foundEach cwd lines fs, b = false) →
      rewrittenLines cwd fs lines = lines := by
  induction fs with
  | nil => intro lines _; exact rewrittenLines_nil
  | cons f fs ih =>
    intro lines h
    have hf := rewrittenLines_of_not_findsLink (h _ (List.mem_cons_self ..))
    have hrest := fun b hb => h b (List.mem_cons_of_mem _ hb)
    rw [rewrittenLines_cons f fs, hf]
    rw [hf] at hrest
    exact ih lines hrest

/-- The fixes that find their link, each on the lines that the earlier ones leave. -/
def appliedFixes (cwd : List String) (lines : Lines) : List SuggestedFix → List SuggestedFix
  | [] => []
  | f :: fs =>
    if findsLink cwd lines f then f :: appliedFixes cwd (rewrittenLines cwd [f] lines) fs
    else appliedFixes cwd lines fs

/-- The other fixes change nothing. -/
theorem rewrittenLines_appliedFixes (fs : List SuggestedFix) :
    ∀ lines : Lines, rewrittenLines cwd (appliedFixes cwd lines fs) lines
      = rewrittenLines cwd fs lines := by
  induction fs with
  | nil => intro lines; rfl
  | cons f fs ih =>
    intro lines
    unfold appliedFixes
    rcases hf : findsLink cwd lines f with _ | _
    · rw [if_neg Bool.false_ne_true, ih, rewrittenLines_cons f fs,
        rewrittenLines_of_not_findsLink hf]
    · rw [if_pos rfl, rewrittenLines_cons, ih, ← rewrittenLines_cons]

theorem mem_appliedFixes_iff (fs : List SuggestedFix) :
    ∀ lines : Lines, f ∈ appliedFixes cwd lines fs ↔
      ∃ k : Nat, fs[k]? = some f ∧ (foundEach cwd lines fs)[k]? = some true := by
  induction fs with
  | nil => intro lines; simp [appliedFixes]
  | cons g fs ih =>
    intro lines
    unfold appliedFixes foundEach
    rcases hg : findsLink cwd lines g with _ | _
    · rw [if_neg Bool.false_ne_true, ih lines, rewrittenLines_of_not_findsLink hg]
      constructor
      · rintro ⟨k, hk, hfound⟩
        exact ⟨k + 1, hk, hfound⟩
      · rintro ⟨k, hk, hfound⟩
        rcases k with _ | k
        · cases hfound
        · exact ⟨k, hk, hfound⟩
    · rw [if_pos rfl, List.mem_cons, ih]
      constructor
      · rintro (rfl | ⟨k, hk, hfound⟩)
        · exact ⟨0, rfl, rfl⟩
        · exact ⟨k + 1, hk, hfound⟩
      · rintro ⟨k, hk, hfound⟩
        rcases k with _ | k
        · exact .inl (Option.some.inj hk).symm
        · exact .inr ⟨k, hk, hfound⟩

/-- Every fix finds its link on the line that the earlier ones leave. -/
def EachFound (cwd : List String) : List Char → List SuggestedFix → Prop
  | _, [] => True
  | line, f :: fs => (replaced? cwd line f).isSome ∧ EachFound cwd (fixedLine cwd line f) fs

/-- **The applied fixes of a line** find their links one after the other. -/
theorem eachFound_appliedFixes {i : Nat} (fs : List SuggestedFix) :
    ∀ {lines : Lines} {line : List Char}, lines[i]? = some line →
      EachFound cwd line ((appliedFixes cwd lines fs).filter (·.broken.link.line = (i : Int) + 1)) := by
  induction fs with
  | nil => exact fun _ => trivial
  | cons f fs ih =>
    intro lines line hline
    unfold appliedFixes
    rcases hf : findsLink cwd lines f with _ | _
    · rw [if_neg Bool.false_ne_true]
      exact ih hline
    · rw [if_pos rfl]
      have hlt : i < lines.length := (List.getElem?_eq_some_iff.1 hline).1
      have hnext : (rewrittenLines cwd [f] lines)[i]? = some (rewrittenLine cwd [f] (i + 1) line) := by
        rw [getElem?_rewrittenLines, hline]
        rfl
      by_cases hnumber : f.broken.link.line = (i : Int) + 1
      · rw [List.filter_cons_of_pos (by simpa using hnumber)]
        have hget : lines.getD i [] = line := by rw [List.getD, hline, Option.getD_some]
        unfold findsLink at hf
        rw [lineIndex?_eq_some_iff.2 ⟨hnumber, hlt⟩] at hf
        simp only [hget] at hf
        refine ⟨hf, ih ?_⟩
        rw [hnext]
        simp [rewrittenLine, hnumber]
      · rw [List.filter_cons_of_neg (by simpa using hnumber)]
        refine ih ?_
        rw [hnext]
        simp [rewrittenLine, hnumber]

/-! ## The computation -/

theorem newTarget?_isSome (cwd : List String) (hf : f.suggestion.suggestedPath ≠ "") :
    ∃ target, newTarget? cwd f.broken f.suggestion = some target := by
  unfold newTarget? relativeLink?
  rw [if_neg hf]
  exact ⟨_, rfl⟩

/-- Why a fix does not find its link, if it does not. -/
def lineFailure (cwd : List String) (lines : Lines) (f : SuggestedFix) : Option FixFailure :=
  match lineIndex? lines f.broken.link.line with
  | none => some (.lineMissing f.broken.link.line)
  | some i =>
    if (replaced? cwd (lines.getD i []) f).isSome then none
    else some (.linkMissing f.broken.link.line)

/-- What becomes of each fix on the lines that the earlier ones leave. -/
def fixOutcomes (cwd : List String) (lines : Lines) :
    List SuggestedFix → List (SuggestedFix × Option FixFailure)
  | [] => []
  | f :: fs => (f, lineFailure cwd lines f) :: fixOutcomes cwd (rewrittenLines cwd [f] lines) fs

theorem isNone_lineFailure (cwd : List String) (lines : Lines) (f : SuggestedFix) :
    (lineFailure cwd lines f).isNone = findsLink cwd lines f := by
  unfold lineFailure findsLink
  rcases lineIndex? lines f.broken.link.line with _ | i
  · rfl
  · simp only
    rcases replaced? cwd (lines.getD i []) f with _ | _ <;> rfl

theorem map_fst_fixOutcomes (fs : List SuggestedFix) :
    ∀ lines : Lines, (fixOutcomes cwd lines fs).map Prod.fst = fs := by
  induction fs with
  | nil => intro lines; rfl
  | cons f fs ih => intro lines; rw [fixOutcomes, List.map_cons, ih]

theorem map_isNone_fixOutcomes (fs : List SuggestedFix) :
    ∀ lines : Lines, (fixOutcomes cwd lines fs).map (·.2.isNone) = foundEach cwd lines fs := by
  induction fs with
  | nil => intro lines; rfl
  | cons f fs ih => intro lines; rw [fixOutcomes, List.map_cons, ih, isNone_lineFailure, foundEach]

theorem length_fixOutcomes (fs : List SuggestedFix) (lines : Lines) :
    (fixOutcomes cwd lines fs).length = fs.length := by
  have hfst : (fixOutcomes cwd lines fs).map Prod.fst = fs := map_fst_fixOutcomes fs lines
  rw [← List.length_map Prod.fst, hfst]

/-- One fix on the lines of a document. -/
theorem fixLine_eq (cwd : List String) (lines : Lines) (hf : f.suggestion.suggestedPath ≠ "") :
    fixLine cwd lines f = .ok (rewrittenLines cwd [f] lines, lineFailure cwd lines f) := by
  obtain ⟨target, htarget⟩ := newTarget?_isSome cwd hf
  have hfind := isNone_lineFailure cwd lines f
  unfold lineFailure at hfind ⊢
  rcases hi : lineIndex? lines f.broken.link.line with _ | i
  · simp only [hi] at hfind
    rw [rewrittenLines_of_not_findsLink hfind.symm]
    simp only [fixLine, hi]
  · have hrep : replaced? cwd (lines.getD i []) f
        = replaceLink (lines.getD i []) f.broken.link target.toList := by
      unfold replaced?; rw [htarget]; rfl
    simp only [hi, hrep] at hfind ⊢
    rcases hr : replaceLink (lines.getD i []) f.broken.link target.toList with _ | updated
    · rw [hr] at hfind
      rw [rewrittenLines_of_not_findsLink hfind.symm]
      simp only [fixLine, hi, htarget, hr]
      rfl
    · rw [rewrittenLines_singleton hi, fixedLine, hrep, hr]
      simp only [fixLine, hi, htarget, hr, Option.getD_some]
      rfl

/-- A fix that finds its link changes the line that is recorded for it. -/
theorem fixLine_of_replaceLink {i : Nat} {line updated : List Char} {newTarget : String}
    (hnumber : f.broken.link.line = i + 1) (hline : lines[i]? = some line)
    (htarget : newTarget? cwd f.broken f.suggestion = some newTarget)
    (h : replaceLink line f.broken.link newTarget.toList = some updated) :
    fixLine cwd lines f = .ok (lines.set i updated, none) := by
  have hindex : lineIndex? lines f.broken.link.line = some i :=
    lineIndex?_eq_some_iff.2 ⟨hnumber, (List.getElem?_eq_some_iff.1 hline).1⟩
  have hget : lines.getD i [] = line := by rw [List.getD, hline, Option.getD_some]
  simp only [fixLine, hindex, htarget, hget, h]

/-- **Fixes on the lines of a document.** They end with the rewritten lines and with what became of each
fix, and they leave nothing behind but records. -/
theorem fixLines_run {σ : Type} (fs : List SuggestedFix)
    (hfs : ∀ f ∈ fs, f.suggestion.suggestedPath ≠ "") :
    ∀ (lines : Lines) (w : Workspace σ), ∃ log,
      fixLines lines fs w
        = (.ok (rewrittenLines w.tree.cwd fs lines, fixOutcomes w.tree.cwd lines fs),
          { w with log := log }) := by
  induction fs with
  | nil => intro lines w; exact ⟨w.log, by simp [fixLines, fixOutcomes]⟩
  | cons f fs ih =>
    intro lines w
    have hline := fixLine_eq w.tree.cwd lines (hfs f (List.mem_cons_self ..))
    obtain ⟨log, hrest⟩ := ih (fun g hg => hfs g (List.mem_cons_of_mem _ hg))
      (rewrittenLines w.tree.cwd [f] lines)
      { w with log := w.log ++ ((lineFailure w.tree.cwd lines f).bind (lineRecord f)).toList }
    refine ⟨log, ?_⟩
    unfold fixLines
    rw [Work.bind_run_of_ok (Work.tree_run w), hline, Work.bind_run_of_ok (Work.ofExcept_run _ w)]
    simp only
    rw [Work.bind_run_of_ok (Work.forM_report_run _ w), Work.bind_run_of_ok hrest,
      rewrittenLines_cons f fs]
    rfl

end DocLinks
