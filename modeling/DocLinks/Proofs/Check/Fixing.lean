import DocLinks.Proofs.Check.Reports
import DocLinks.Proofs.Fix.Batch
import DocLinks.Proofs.Redirect.Batches

/-!
# What fixing does

`fix` applies some of the fixes that a report suggests, and records redirects for those that came
through. The results are those of `applyFixes`, and besides the documents of the batch the only file
that can change is the one that redirects are recorded in.

## Contents
- `applyFixesWithRedirects_ok`: recording redirects changes one file at most.
- `Checker.fix_ok`: the results of fixing, and the tree that it leaves.
-/

namespace DocLinks

open Text FileTree Work

/-! ## Recording redirects -/

theorem map_verdict_markRecorded (pairs : List RedirectPair) (results : List FixResult) :
    (markRecorded pairs results).map FixResult.verdict = results.map FixResult.verdict := by
  rw [markRecorded, List.map_map]
  refine List.map_congr_left fun r _ => ?_
  simp only [Function.comp_def]
  split <;> rfl

/-- **Recording redirects** changes no result of a fix and no file but that of the redirects. -/
theorem applyFixesWithRedirects_ok {fs : List SuggestedFix} {wanted : Bool} {batch : FixBatch}
    {w v : Workspace Context} (h : applyFixesWithRedirects fs wanted w = (.ok batch, v)) :
    ∃ results u, applyFixes w.scope.root fs w = (.ok results, u) ∧
      batch.results.map FixResult.verdict = results.map FixResult.verdict ∧
      Records (u.scope.table.bind (·.file)) u v := by
  obtain ⟨results, u, hresults, h⟩ := exists_results_of_batch h
  refine ⟨results, u, hresults, ?_⟩
  split at h
  · obtain ⟨hrecords, ⟨hsame, -⟩ | ⟨_, _, _, _, _, _, _, _, _, hmarked⟩⟩ := recordRedirects_cases h
    · exact ⟨by rw [hsame], hrecords⟩
    · exact ⟨by rw [hmarked, map_verdict_markRecorded], hrecords⟩
  · cases h
    exact ⟨rfl, .of_same rfl rfl⟩

/-! ## Choosing fixes -/

namespace Checker

theorem decide_ok {config : Value} {approve : Option (SuggestedFix → Bool)} {f : SuggestedFix}
    {d : Decision} (h : decide config approve f = .ok d) : d.fix = f := by
  unfold decide at h
  rcases hact : fixAction (some f.suggestion.confidence) config with e | action
  · rw [hact] at h
    cases h
  · rw [hact] at h
    rcases action with _ | _ | _ <;> rcases approve with _ | approve <;> cases h <;> rfl

theorem mapM_decide_ok {config : Value} {approve : Option (SuggestedFix → Bool)}
    {fs : List SuggestedFix} :
    ∀ {decisions : List Decision}, fs.mapM (decide config approve) = .ok decisions →
      decisions.map (·.fix) = fs := by
  induction fs with
  | nil =>
    intro decisions h
    cases h
    rfl
  | cons f fs ih =>
    intro decisions h
    rw [List.mapM_cons] at h
    rcases hd : decide config approve f with e | d
    · rw [hd] at h
      cases h
    · rw [hd] at h
      rcases hds : fs.mapM (decide config approve) with e | ds
      · simp only [hds] at h
        cases h
      · simp only [hds] at h
        cases h
        rw [List.map_cons, decide_ok hd, ih hds]

/-- The accepted fixes are fixes of the report, in its order. -/
theorem accepted_sublist {config : Value} {approve : Option (SuggestedFix → Bool)}
    {fs : List SuggestedFix} {decisions : List Decision}
    (h : fs.mapM (decide config approve) = .ok decisions) :
    ((decisions.filter (·.accepted)).map (·.fix)).Sublist fs := by
  have hsub := (List.filter_sublist (p := (·.accepted)) (l := decisions)).map (·.fix)
  rwa [mapM_decide_ok h] at hsub

/-- **Fixing** applies fixes of the report. The results are those of `applyFixes`, and what comes
after that changes the file of the redirects at most. The settings of the checker stay. -/
theorem fix_ok {report : CheckReport} {tier : Option Value}
    {approve : Option (SuggestedFix → Bool)} {batch : FixBatch} {asked : List SuggestedFix}
    {w v : Workspace Checker} (h : fix (some report) tier approve w = (.ok (batch, asked), v)) :
    ∃ fixes results u u', fixes.Sublist report.fixable ∧
      applyFixes w.scope.context.root fixes ⟨w.tree, w.scope.context, w.log⟩ = (.ok results, u) ∧
      batch.results.map FixResult.verdict = results.map FixResult.verdict ∧
      Records (u.scope.table.bind (·.file)) u u' ∧ v.tree = u'.tree ∧
      v.scope = { w.scope with context := v.scope.context } ∧
      v.scope.context.root = u'.scope.root ∧ v.scope.context.excludeDirs = u'.scope.excludeDirs := by
  unfold fix at h
  simp only at h
  rw [bind_run_of_ok (pure_run report w), bind_run_of_ok (scope_run w)] at h
  obtain ⟨decisions, w₁, hdecisions, h⟩ := bind_ok_iff.1 h
  obtain ⟨hmap, hsame⟩ := Prod.mk.inj hdecisions
  rw [← hsame] at h
  refine ⟨(decisions.filter (·.accepted)).map (·.fix), ?_⟩
  have hsub := accepted_sublist hmap
  generalize (decisions.filter (·.accepted)).map (·.fix) = fixes at h hsub
  split at h
  · -- Nothing is accepted.
    rename_i hempty
    obtain rfl := List.isEmpty_iff.1 hempty
    obtain ⟨_, w₂, hsay, h⟩ := bind_ok_iff.1 h
    cases hsay
    cases h
    exact ⟨[], _, _, hsub, rfl, rfl, .of_same rfl rfl, rfl, rfl, rfl, rfl⟩
  · obtain ⟨wanted, w₂, hwanted, h⟩ := bind_ok_iff.1 h
    obtain ⟨_, hsame⟩ := Prod.mk.inj hwanted
    rw [← hsame] at h
    obtain ⟨batch', w₃, happly, h⟩ := bind_ok_iff.1 h
    obtain ⟨u', happly, hw₃⟩ := onContext_ok happly
    obtain ⟨results, u, hresults, hverdicts, hrecords⟩ := applyFixesWithRedirects_ok happly
    obtain ⟨_, w₄, hclear, h⟩ := bind_ok_iff.1 h
    obtain ⟨_, w₅, hdone, h⟩ := bind_ok_iff.1 h
    cases h
    have hkeep : KeepsChecker w₃ v := keepsChecker_isPreorder.trans
      ((keeps_onContext (keeps_modifyHeadings _)).of_run hclear) ((keeps_sayDone _ _ _).of_run hdone)
    refine ⟨results, u, u', hsub, hresults, hverdicts, hrecords, ?_, ?_, ?_, ?_⟩
    · rw [hkeep.tree, hw₃]
    · rw [hkeep.scope, hw₃]
    · rw [hkeep.root, hw₃]
    · rw [hkeep.excludeDirs, hw₃]

theorem sayDone_run (operation : String) (success : Bool) (context : LogContext)
    (w : Workspace Checker) : ∃ v, sayDone operation success context w = (.ok (), v) := by
  cases success <;> exact ⟨_, rfl⟩

/-- **A fixing that records no redirects** ends with the results of the accepted fixes. -/
theorem fix_run {report : CheckReport} {tier : Option Value} {approve : Option (SuggestedFix → Bool)}
    {w : Workspace Checker} {decisions : List Decision} {fixes : List SuggestedFix}
    (hdecisions : report.fixable.mapM (decide (decisionConfig w.scope.config tier) approve)
      = .ok decisions)
    (hfixes : (decisions.filter (·.accepted)).map (·.fix) = fixes)
    (hwanted : wantsRedirects w.scope.config = .ok false)
    (hpath : ∀ f ∈ fixes, f.suggestion.suggestedPath ≠ "")
    (hsep : SeparateFiles w.tree w.scope.context.root fixes) :
    ∃ batch asked v, fix (some report) tier approve w = (.ok (batch, asked), v) ∧
      batch.results.map FixResult.verdict = (sourcesOf fixes).flatMap fun s =>
        documentVerdicts w.tree w.scope.context.root s (fixesOf s fixes) := by
  obtain ⟨results, log, hrun, hverdicts⟩ := applyFixes_run w.scope.context.root fixes hpath
    ⟨w.tree, w.scope.context, w.log⟩ hsep
  unfold fix
  simp only
  rw [bind_run_of_ok (pure_run report w), bind_run_of_ok (scope_run w),
    bind_ofExcept_run hdecisions, hfixes]
  by_cases hempty : fixes = []
  · subst hempty
    exact ⟨_, _, _, rfl, rfl⟩
  · have happly : applyFixesWithRedirects fixes false ⟨w.tree, w.scope.context, w.log⟩
        = (.ok { results }, ⟨finalTree w.tree (batchWrites w.tree w.scope.context.root fixes),
            w.scope.context, log⟩) := by
      rw [applyFixesWithRedirects_eq, hrun]
      rfl
    rw [if_neg (by simpa using hempty), bind_ofExcept_run hwanted,
      bind_run_of_ok (onContext_run happly)]
    obtain ⟨_, hclear⟩ : ∃ u, onContext (modifyScope Context.clearHeadings)
        ⟨finalTree w.tree (batchWrites w.tree w.scope.context.root fixes),
          { w.scope with context := w.scope.context }, log⟩ = (.ok (), u) := ⟨_, rfl⟩
    rw [bind_run_of_ok hclear]
    obtain ⟨_, hdone⟩ := sayDone_run "fix" (Decidable.decide (FixBatch.failedCount { results } = 0)) {} _
    rw [bind_run_of_ok hdone]
    exact ⟨_, _, _, rfl, hverdicts⟩

end Checker

end DocLinks
