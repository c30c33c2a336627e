import DocLinks.Proofs.FileTree.Rewriting
import DocLinks.Proofs.Fix.Lines

/-!
# Fixes on one document

What `applyFileFixes` answers and writes, as functions of the tree it starts from. A document that
can be read and replaced is written at most once, and only if a fix has found its link; in every other
case the tree stays.

## Contents
- `answerOrder`, `successes`, `documentWrite`: the order of the answers, which of them are good, and
  what is written.
- `documentResults`: the answers themselves, with why a fix has failed.
- `applyFileFixes_run`: the computation, in these terms.
-/

namespace DocLinks

open Text FileTree

instance (cwd : List String) (p : FilePath) : Decidable (CanReplace cwd p) :=
  inferInstanceAs (Decidable (_ ∧ _ ∧ ¬(_ ∨ _)))

/-- What a fix was tried on: the document, the link and the new path. -/
def FixResult.attempt (r : FixResult) : String × Link × String := (r.sourceFile, r.link, r.newPath)

/-- What a fix is to be tried on: the document, the link and the new path. -/
def SuggestedFix.attempt (f : SuggestedFix) : String × Link × String :=
  (f.broken.sourceFile, f.broken.link, f.suggestion.suggestedPath)

/-- The text of a document, if it can be read. -/
def documentText (t : FileTree) (root : FilePath) (source : String) : Except FileFault String :=
  t.read (projectPath root source) defaultLimit

/-- The order in which the fixes of a document are answered: from the last line to the first, unless
the document cannot be read. -/
def answerOrder (t : FileTree) (root : FilePath) (source : String) (fs : List SuggestedFix) :
    List SuggestedFix :=
  match documentText t root source with
  | .ok _ => fromLastLine fs
  | .error _ => fs

/-- Which fixes of a document succeed, in the order of the answers. -/
def successes (t : FileTree) (root : FilePath) (source : String) (fs : List SuggestedFix) :
    List Bool :=
  match documentText t root source with
  | .ok text =>
    if CanReplace t.cwd (projectPath root source) then
      foundEach t.cwd (linesOf text) (fromLastLine fs)
    else List.replicate fs.length false
  | .error _ => List.replicate fs.length false

/-- What is written for the fixes of a document, if anything is. -/
def documentWrite (t : FileTree) (root : FilePath) (source : String) (fs : List SuggestedFix) :
    Option (List String × String) :=
  match documentText t root source, t.placeOf (projectPath root source) with
  | .ok text, .ok place =>
    if true ∈ successes t root source fs then
      some (place, ofLines (rewrittenLines t.cwd fs (linesOf text)))
    else none
  | _, _ => none

/-- The tree after a text is written at a place. -/
def afterWrite (t : FileTree) : Option (List String × String) → FileTree
  | some (place, text) => t.put place (.file (.text text))
  | none => t

variable {t : FileTree} {root : FilePath} {source : String} {fs : List SuggestedFix}

theorem successes_of_error {e : FileFault} (h : documentText t root source = .error e)
    (gs : List SuggestedFix) :
    successes t root source gs = List.replicate gs.length false := by
  unfold successes
  rw [h]

theorem successes_of_ok {text : String} (h : documentText t root source = .ok text)
    (gs : List SuggestedFix) :
    successes t root source gs = if CanReplace t.cwd (projectPath root source) then
      foundEach t.cwd (linesOf text) (fromLastLine gs) else List.replicate gs.length false := by
  unfold successes
  rw [h]

theorem answerOrder_of_error {e : FileFault} (h : documentText t root source = .error e)
    (gs : List SuggestedFix) : answerOrder t root source gs = gs := by
  unfold answerOrder
  rw [h]

theorem answerOrder_of_ok {text : String} (h : documentText t root source = .ok text)
    (gs : List SuggestedFix) : answerOrder t root source gs = fromLastLine gs := by
  unfold answerOrder
  rw [h]

theorem documentText_eq_ok {text : String} (h : documentText t root source = .ok text) :
    ∃ place c, t.placeOf (projectPath root source) = .ok place ∧
      t.node? place = some (.file c) ∧
      t.stat (projectPath root source) = .ok (.file c) ∧ c.read = .ok text :=
  read_eq_ok h

/-- What is written goes to the file that the document is. -/
theorem documentWrite_eq_some {place : List String} {new : String}
    (h : documentWrite t root source fs = some (place, new)) :
    ∃ text c, documentText t root source = .ok text ∧
      t.placeOf (projectPath root source) = .ok place ∧ t.node? place = some (.file c) ∧
      true ∈ successes t root source fs ∧
      new = ofLines (rewrittenLines t.cwd fs (linesOf text)) := by
  unfold documentWrite at h
  rcases ht : documentText t root source with e | text
  · rw [ht] at h; cases h
  · obtain ⟨place', c, hp, hnode, _, _⟩ := documentText_eq_ok ht
    rw [ht, hp] at h
    by_cases hs : true ∈ successes t root source fs
    · simp only [if_pos hs, Option.some.injEq, Prod.mk.injEq] at h
      obtain ⟨rfl, rfl⟩ := h
      exact ⟨text, c, rfl, hp, hnode, hs, rfl⟩
    · simp only [if_neg hs] at h
      cases h

theorem documentWrite_eq_none_of (h : true ∉ successes t root source fs) :
    documentWrite t root source fs = none := by
  unfold documentWrite
  split
  · rw [if_neg h]
  · rfl

theorem documentWrite_of_error {e : FileFault} (h : documentText t root source = .error e) :
    documentWrite t root source fs = none :=
  documentWrite_eq_none_of (by rw [successes_of_error h]; simp)

/-- A document is written if a fix comes through. -/
theorem documentWrite_of_success {text : String} {place : List String}
    (h : documentText t root source = .ok text)
    (hplace : t.placeOf (projectPath root source) = .ok place)
    (hsuccess : true ∈ successes t root source fs) :
    documentWrite t root source fs
      = some (place, ofLines (rewrittenLines t.cwd fs (linesOf text))) := by
  unfold documentWrite
  rw [h, hplace]
  simp only [if_pos hsuccess]

/-- A document that can be written is, if a fix finds its link. -/
theorem documentWrite_of_found {text : String} {place : List String}
    (h : documentText t root source = .ok text)
    (hplace : t.placeOf (projectPath root source) = .ok place)
    (hcan : CanReplace t.cwd (projectPath root source))
    (hfound : true ∈ foundEach t.cwd (linesOf text) (fromLastLine fs)) :
    documentWrite t root source fs
      = some (place, ofLines (rewrittenLines t.cwd fs (linesOf text))) := by
  refine documentWrite_of_success h hplace ?_
  rw [successes_of_ok h, if_pos hcan]
  exact hfound

theorem documentWrite_of_not_found {text : String} (h : documentText t root source = .ok text)
    (hfound : true ∉ foundEach t.cwd (linesOf text) (fromLastLine fs)) :
    documentWrite t root source fs = none := by
  refine documentWrite_eq_none_of ?_
  rw [successes_of_ok h]
  split
  · exact hfound
  · simp

/-! ## The answers -/

/-- Why lines cannot be written into a document, if they cannot. -/
def writeFailure (t : FileTree) (root : FilePath) (source : String) (lines : Lines) :
    Option FixFailure :=
  (t.write (projectPath root source) (ofLines lines)).2.map fun f =>
    .unwritable ⟨(projectPath root source).text, f⟩

/-- The answers to the fixes of a document. -/
def documentResults (t : FileTree) (root : FilePath) (source : String) (fs : List SuggestedFix) :
    List FixResult :=
  match documentText t root source with
  | .error e => fs.map (·.result (some (.unreadable e)))
  | .ok text =>
    (fixOutcomes t.cwd (linesOf text) (fromLastLine fs)).map fun o =>
      o.1.result (o.2 <|> writeFailure t root source (rewrittenLines t.cwd fs (linesOf text)))

theorem documentResults_of_error {e : FileFault} (h : documentText t root source = .error e)
    (gs : List SuggestedFix) :
    documentResults t root source gs = gs.map (·.result (some (.unreadable e))) := by
  unfold documentResults
  rw [h]

theorem documentResults_of_ok {text : String} (h : documentText t root source = .ok text)
    (gs : List SuggestedFix) :
    documentResults t root source gs
      = (fixOutcomes t.cwd (linesOf text) (fromLastLine gs)).map fun o =>
          o.1.result (o.2 <|> writeFailure t root source (rewrittenLines t.cwd gs (linesOf text))) := by
  unfold documentResults
  rw [h]

theorem writeFailure_of_write {lines : Lines}
    (h : (t.write (projectPath root source) (ofLines lines)).2 = none) :
    writeFailure t root source lines = none := by
  unfold writeFailure
  rw [h]
  rfl

theorem result_attempt (f : SuggestedFix) (failure : Option FixFailure) :
    (f.result failure).attempt = f.attempt := rfl

theorem result_success (f : SuggestedFix) (failure : Option FixFailure) :
    (f.result failure).success = failure.isNone := rfl

/-- There is one answer to each fix. -/
theorem map_attempt_documentResults (t : FileTree) (root : FilePath) (source : String)
    (fs : List SuggestedFix) : (documentResults t root source fs).map FixResult.attempt
      = (answerOrder t root source fs).map SuggestedFix.attempt := by
  rcases ht : documentText t root source with e | text
  · rw [documentResults_of_error ht, answerOrder_of_error ht, List.map_map]
    exact List.map_congr_left fun f _ => result_attempt f _
  · have hfst : (fixOutcomes t.cwd (linesOf text) (fromLastLine fs)).map Prod.fst = fromLastLine fs :=
      map_fst_fixOutcomes _ _
    rw [documentResults_of_ok ht, answerOrder_of_ok ht, List.map_map]
    conv_rhs => rw [← hfst, List.map_map]
    exact List.map_congr_left fun o _ => result_attempt o.1 _

/-- The answers say which fixes have come through. -/
theorem map_success_documentResults (t : FileTree) (root : FilePath) (source : String)
    (fs : List SuggestedFix) :
    (documentResults t root source fs).map FixResult.success = successes t root source fs := by
  rcases ht : documentText t root source with e | text
  · rw [documentResults_of_error ht, successes_of_error ht, List.map_map]
    exact List.map_const' ..
  · obtain ⟨_, _, _, _, hstat, -⟩ := documentText_eq_ok ht
    rw [documentResults_of_ok ht, successes_of_ok ht, List.map_map]
    by_cases hcan : CanReplace t.cwd (projectPath root source)
    · rw [if_pos hcan, writeFailure_of_write ((write_snd_eq_none_iff hstat _).2 hcan),
        ← map_isNone_fixOutcomes]
      refine List.map_congr_left fun o _ => ?_
      rw [Function.comp_apply, result_success]
      rcases o.2 with _ | _ <;> rfl
    · obtain ⟨f, -, hwrite⟩ := write_of_not_canReplace hstat hcan
        (ofLines (rewrittenLines t.cwd fs (linesOf text)))
      rw [if_neg hcan, List.eq_replicate_iff, List.length_map, length_fixOutcomes,
        (lastLineFirst_fromLastLine fs).perm.length_eq]
      refine ⟨rfl, fun b hb => ?_⟩
      obtain ⟨o, -, rfl⟩ := List.mem_map.1 hb
      unfold writeFailure
      rw [Function.comp_apply, result_success, hwrite]
      rcases o.2 with _ | _ <;> rfl

/-! ## The computation -/

/-- A fix that has failed on its line is answered by that. -/
theorem map_result_of_all_isSome {outcomes : List (SuggestedFix × Option FixFailure)}
    (h : outcomes.all (·.2.isSome) = true) (failure : Option FixFailure) :
    outcomes.map (fun o => o.1.result (o.2 <|> failure)) = outcomes.map fun o => o.1.result o.2 := by
  refine List.map_congr_left fun o ho => ?_
  obtain ⟨e, he⟩ := Option.isSome_iff_exists.1 (List.all_eq_true.1 h o ho)
  rw [he]
  rfl

/-- A fix has found its link, unless all have failed on their lines. -/
theorem true_mem_foundEach_iff (cwd : List String) (lines : List (List Char)) (fs : List SuggestedFix) :
    true ∈ foundEach cwd lines fs ↔ ¬(fixOutcomes cwd lines fs).all (·.2.isSome) = true := by
  rw [← map_isNone_fixOutcomes, List.mem_map, List.all_eq_true]
  simp only [not_forall, Bool.not_eq_true, Option.isSome_eq_false_iff, exists_prop]

/-- **The fixes of one document.** Every fix is answered, and the tree has what was written and nothing
else. -/
theorem applyFileFixes_run {σ : Type} (root : FilePath) (source : String) (fs : List SuggestedFix)
    (hfs : ∀ f ∈ fs, f.suggestion.suggestedPath ≠ "") (w : Workspace σ) :
    ∃ log, applyFileFixes root source fs w
      = (.ok (documentResults w.tree root source fs),
        { w with tree := afterWrite w.tree (documentWrite w.tree root source fs), log := log }) := by
  rcases ht : documentText w.tree root source with e | text
  · -- The document cannot be read.
    have hread : w.tree.read (projectPath root source) defaultLimit = .error e := ht
    unfold applyFileFixes
    rw [Work.bind_run_of_ok (Work.tree_run w), documentWrite_of_error ht, documentResults_of_error ht,
      hread]
    exact ⟨_, rfl⟩
  · obtain ⟨place, c, hplace, hnode, hstat, -⟩ := documentText_eq_ok ht
    have hlast := lastLineFirst_fromLastLine fs
    have hfs' : ∀ f ∈ fromLastLine fs, f.suggestion.suggestedPath ≠ "" :=
      fun f hf => hfs f (hlast.perm.mem_iff.1 hf)
    obtain ⟨log, hrun⟩ := fixLines_run (fromLastLine fs) hfs' (linesOf text) w
    have hlines : rewrittenLines w.tree.cwd (fromLastLine fs) (linesOf text)
        = rewrittenLines w.tree.cwd fs (linesOf text) := rewrittenLines_congr hlast.sameLine
    have hfound := true_mem_foundEach_iff w.tree.cwd (linesOf text) (fromLastLine fs)
    have hread : w.tree.read (projectPath root source) defaultLimit = .ok text := ht
    unfold applyFileFixes
    rw [Work.bind_run_of_ok (Work.tree_run w), hread]
    simp only
    rw [Work.bind_run_of_ok hrun, documentResults_of_ok ht]
    simp only
    by_cases hall : (fixOutcomes w.tree.cwd (linesOf text) (fromLastLine fs)).all (·.2.isSome) = true
    · -- No fix has found its link.
      rw [if_pos hall, map_result_of_all_isSome hall,
        documentWrite_of_not_found ht fun h => hfound.1 h hall]
      exact ⟨log, rfl⟩
    · rw [if_neg hall]
      by_cases hcan : CanReplace w.tree.cwd (projectPath root source)
      · -- The document is written.
        have hput := write_of_canReplace hstat hplace hcan
          (ofLines (rewrittenLines w.tree.cwd fs (linesOf text)))
        rw [hlines, Work.bind_run_of_ok (Work.write_run { w with log := log } hput),
          documentWrite_of_found ht hplace hcan (hfound.2 hall), writeFailure_of_write (by rw [hput])]
        simp only [Option.orElse_eq_orElse, Option.orElse_eq_or, Option.or_none]
        exact ⟨log, rfl⟩
      · -- The document cannot be written.
        obtain ⟨f, hf, hput⟩ := write_of_not_canReplace hstat hcan
          (ofLines (rewrittenLines w.tree.cwd fs (linesOf text)))
        have hnone : documentWrite w.tree root source fs = none :=
          documentWrite_eq_none_of (by rw [successes_of_ok ht, if_neg hcan]; simp)
        unfold writeFailure
        rw [hlines, Work.bind_run_of_ok (Work.write_run_of_fault { w with log := log } hput hf), hnone,
          hput]
        exact ⟨_, rfl⟩

end DocLinks
