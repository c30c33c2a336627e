import DocLinks.Proofs.Fix.ByteExact
import Mathlib.Data.List.Basic

/-!
# Fixes one by one

A batch reads a document once, carries out its fixes on the lines in memory, and writes it once. One by
one, each fix reads the document again, cuts it into lines again, and writes it if it finds its link.
Both come to the same tree and the same answers, if the fixes are taken in the order in which the batch
answers them (`applyFixes_oneByOne`). What carries the step from one fix to the next is that the text
that was written, when it is read again, has the lines that the batch has in memory.

The batch is to answer a document from its last line to its first, and in that order both come to the
same tree again. The answers are the same ones too, but a document that cannot be read is answered by
the batch in the order of its fixes (`OneByOne.promisedOrder`).

## Contents
- `applyEach`: fixes one by one.
- `Rewritable`: the documents can be written, and read again in between.
- `OneByOne`: what a batch has in common with its fixes one by one.
-/

namespace DocLinks

open Text FileTree

/-- Applies fixes one by one. -/
def applyEach {σ : Type} (root : FilePath) : List SuggestedFix → Work σ (List FixResult)
  | [] => return []
  | f :: fs => do
    let r ← applyFix root f
    return r :: (← applyEach root fs)

/-! ## One fix -/

section Single

variable {σ : Type} {t : FileTree} {root : FilePath} {f : SuggestedFix}

theorem fixesOf_singleton (f : SuggestedFix) : fixesOf f.broken.sourceFile [f] = [f] := by
  simp [fixesOf]

theorem sourcesOf_singleton (f : SuggestedFix) : sourcesOf [f] = [f.broken.sourceFile] := by
  simp [sourcesOf, List.eraseDups_cons]

theorem fromLastLine_singleton (f : SuggestedFix) : fromLastLine [f] = [f] :=
  fromLastLine_of_descending (List.pairwise_singleton ..)

/-- **A single fix** is the batch of its document. -/
theorem applyFixes_singleton (hf : f.suggestion.suggestedPath ≠ "") (w : Workspace σ) :
    ∃ log, applyFixes root [f] w = (.ok (documentResults w.tree root f.broken.sourceFile [f]), { w with
      tree := afterWrite w.tree (documentWrite w.tree root f.broken.sourceFile [f])
      log := log }) := by
  have hsep : SeparateFiles w.tree root [f] := by
    intro g hg h hh _ _ _ _ _
    rw [List.mem_singleton.1 hg, List.mem_singleton.1 hh]
  obtain ⟨log, hrun⟩ := applyFixes_results root [f] (by simpa using hf) w hsep
  unfold batchWrites at hrun
  rw [sourcesOf_singleton, List.flatMap_singleton, List.map_singleton, fixesOf_singleton] at hrun
  exact ⟨log, hrun⟩

theorem applyFix_run (hf : f.suggestion.suggestedPath ≠ "") {r : FixResult} {w : Workspace σ}
    (hr : documentResults w.tree root f.broken.sourceFile [f] = [r]) :
    ∃ log, applyFix root f w = (.ok r, { w with
      tree := afterWrite w.tree (documentWrite w.tree root f.broken.sourceFile [f])
      log := log }) := by
  obtain ⟨log, hrun⟩ := applyFixes_singleton hf w
  rw [hr] at hrun
  refine ⟨log, ?_⟩
  unfold applyFix
  rw [Work.bind_run_of_ok hrun]
  rfl

/-- A fix that does not find its link writes nothing. -/
theorem documentWrite_singleton_of_not_findsLink {text : String}
    (h : documentText t root f.broken.sourceFile = .ok text)
    (hfind : findsLink t.cwd (linesOf text) f = false) :
    documentResults t root f.broken.sourceFile [f] = [f.result (lineFailure t.cwd (linesOf text) f)] ∧
      documentWrite t root f.broken.sourceFile [f] = none := by
  have hnone := isNone_lineFailure t.cwd (linesOf text) f
  rw [hfind] at hnone
  obtain ⟨failure, hfailure⟩ := Option.isSome_iff_exists.1 (Option.isNone_eq_false_iff.1 hnone)
  constructor
  · rw [documentResults_of_ok h, fromLastLine_singleton]
    simp only [fixOutcomes, List.map_cons, List.map_nil, hfailure]
    rfl
  · refine documentWrite_of_not_found h ?_
    rw [fromLastLine_singleton]
    simp [foundEach, hfind]

/-- A fix that finds its link writes the line that it has fixed. -/
theorem documentWrite_singleton_of_findsLink {text : String} {place : List String}
    (h : documentText t root f.broken.sourceFile = .ok text)
    (hplace : t.placeOf (projectPath root f.broken.sourceFile) = .ok place)
    (hcan : CanReplace t.cwd (projectPath root f.broken.sourceFile))
    (hfind : findsLink t.cwd (linesOf text) f = true) :
    documentResults t root f.broken.sourceFile [f] = [f.result (lineFailure t.cwd (linesOf text) f)] ∧
      documentWrite t root f.broken.sourceFile [f]
        = some (place, ofLines (rewrittenLines t.cwd [f] (linesOf text))) := by
  obtain ⟨_, _, _, _, hstat, -⟩ := documentText_eq_ok h
  constructor
  · rw [documentResults_of_ok h, fromLastLine_singleton,
      writeFailure_of_write ((write_snd_eq_none_iff hstat _).2 hcan)]
    simp only [fixOutcomes, List.map_cons, List.map_nil, Option.orElse_eq_orElse, Option.orElse_eq_or,
      Option.or_none]
  · refine documentWrite_of_found h hplace hcan ?_
    rw [fromLastLine_singleton]
    simp [foundEach, hfind]

end Single

/-! ## One document -/

section Document

variable {σ : Type} {t : FileTree} {root : FilePath} {source text : String} {place : List String}
  {lines : Lines} {f : SuggestedFix} {order : List SuggestedFix}

/-- A document that can be fixed fix by fix, in a given order. -/
structure Fixable (t : FileTree) (root : FilePath) (source text : String) (place : List String)
    (order : List SuggestedFix) : Prop where
  /-- The fixes are fixes of the document, and each suggests one path. -/
  source_eq : ∀ f ∈ order, f.broken.sourceFile = source
  path_ne : ∀ f ∈ order, f.suggestion.suggestedPath ≠ ""
  path_line : ∀ f ∈ order, '\n' ∉ f.suggestion.suggestedPath.toList
  /-- The current directory has no line feed in its names, which a new target may hold. -/
  cwd_line : ∀ n ∈ t.cwd, '\n' ∉ n.toList
  /-- The document can be read, and written if there is something to write. -/
  readable : documentText t root source = .ok text
  place_eq : t.placeOf (projectPath root source) = .ok place
  writable : true ∈ foundEach t.cwd (linesOf text) order → CanReplace t.cwd (projectPath root source)
  /-- What is written before another fix is not too large to be read again. -/
  fits : ∀ k, 0 < k → k < order.length → defaultLimit.isExceededBy
    (Content.text (ofLines (rewrittenLines t.cwd (order.take k) (linesOf text)))).size = false

/-- After a fix that does not find its link, the document is the same. -/
theorem Fixable.tail_of_not_findsLink (h : Fixable t root source text place (f :: order))
    (hfind : findsLink t.cwd (linesOf text) f = false) : Fixable t root source text place order where
  source_eq g hg := h.source_eq g (List.mem_cons_of_mem f hg)
  path_ne g hg := h.path_ne g (List.mem_cons_of_mem f hg)
  path_line g hg := h.path_line g (List.mem_cons_of_mem f hg)
  cwd_line := h.cwd_line
  readable := h.readable
  place_eq := h.place_eq
  writable hany := by
    refine h.writable (List.mem_cons_of_mem _ ?_)
    rwa [rewrittenLines_of_not_findsLink hfind]
  fits k hk hlt := by
    have hfit := h.fits (k + 1) (Nat.succ_pos k) (Nat.succ_lt_succ hlt)
    rwa [List.take_succ_cons, rewrittenLines_cons f, rewrittenLines_of_not_findsLink hfind] at hfit

/-- What the first fix has written is read again as the lines that were written. -/
theorem Fixable.linesOf_written (h : Fixable t root source text place (f :: order)) :
    linesOf (ofLines (rewrittenLines t.cwd [f] (linesOf text)))
      = rewrittenLines t.cwd [f] (linesOf text) := by
  refine linesOf_ofLines_rewrittenLines h.cwd_line (fun g hg => ?_) text
  rw [List.mem_singleton.1 hg]
  exact h.path_line f (List.mem_cons_self ..)

/-- After a fix that finds its link, the document has the fixed lines. -/
theorem Fixable.tail_of_findsLink (h : Fixable t root source text place (f :: order))
    (hne : order ≠ []) :
    Fixable (t.put place (.file (.text (ofLines (rewrittenLines t.cwd [f] (linesOf text))))))
      root source (ofLines (rewrittenLines t.cwd [f] (linesOf text))) place order := by
  obtain ⟨_, c, hplace, hnode, hstat, -⟩ := documentText_eq_ok h.readable
  cases h.place_eq.symm.trans hplace
  refine ⟨fun g hg => h.source_eq g (List.mem_cons_of_mem f hg),
    fun g hg => h.path_ne g (List.mem_cons_of_mem f hg),
    fun g hg => h.path_line g (List.mem_cons_of_mem f hg), h.cwd_line, ?_, ?_, ?_, ?_⟩
  · exact read_of_stat (stat_put hstat h.place_eq _) rfl
      (h.fits 1 Nat.one_pos (Nat.succ_lt_succ (List.length_pos_iff.2 hne))) rfl
  · rw [(sameShape_put hnode _).placeOf]
    exact h.place_eq
  · intro hany
    rw [h.linesOf_written] at hany
    exact h.writable (List.mem_cons_of_mem _ hany)
  · intro k hk hlt
    have hfit := h.fits (k + 1) (Nat.succ_pos k) (Nat.succ_lt_succ hlt)
    rw [List.take_succ_cons, rewrittenLines_cons f] at hfit
    rw [h.linesOf_written]
    exact hfit

/-- The tree after fixes of one document, in a given order, on its lines. -/
def writtenTree (t : FileTree) (place : List String) (lines : Lines) (order : List SuggestedFix) :
    FileTree :=
  if true ∈ foundEach t.cwd lines order then
    t.put place (.file (.text (ofLines (rewrittenLines t.cwd order lines))))
  else t

theorem writtenTree_cons_of_not_findsLink (h : findsLink t.cwd lines f = false) :
    writtenTree t place lines (f :: order) = writtenTree t place lines order := by
  unfold writtenTree
  rw [foundEach, h, rewrittenLines_cons f order, rewrittenLines_of_not_findsLink h]
  simp

/-- What a later fix writes takes the place of what the earlier ones have written. -/
theorem writtenTree_cons_of_findsLink (h : findsLink t.cwd lines f = true) :
    writtenTree t place lines (f :: order)
      = writtenTree (t.put place (.file (.text (ofLines (rewrittenLines t.cwd [f] lines))))) place
          (rewrittenLines t.cwd [f] lines) order := by
  have hput : ∀ n n', (t.put place n).put place n' = t.put place n' := fun n n' => by
    unfold FileTree.put
    simp only [Assoc.put_put]
  have hcwd : ∀ n, (t.put place n).cwd = t.cwd := fun _ => rfl
  unfold writtenTree
  rw [foundEach, h, rewrittenLines_cons f order, hcwd, if_pos (List.mem_cons_self ..), hput]
  split
  · rfl
  · rename_i hnone
    rw [rewrittenLines_of_foundEach order]
    intro b hb
    rcases b with _ | _
    · rfl
    · exact absurd hb hnone

/-- What the fixes of a document are answered if it can be written. -/
def lineResults (cwd : List String) (lines : Lines) (order : List SuggestedFix) : List FixResult :=
  (fixOutcomes cwd lines order).map fun o => o.1.result o.2

theorem lineResults_cons (cwd : List String) (lines : Lines) (f : SuggestedFix)
    (order : List SuggestedFix) :
    lineResults cwd lines (f :: order)
      = f.result (lineFailure cwd lines f) :: lineResults cwd (rewrittenLines cwd [f] lines) order :=
  rfl

theorem applyEach_cons {r : FixResult} {rs : List FixResult} {w u v : Workspace σ}
    (hr : applyFix root f w = (.ok r, u)) (hrs : applyEach root order u = (.ok rs, v)) :
    applyEach root (f :: order) w = (.ok (r :: rs), v) := by
  unfold applyEach
  rw [Work.bind_run_of_ok hr, Work.bind_run_of_ok hrs]
  rfl

/-- **A document that can be read**, fix by fix: each fix finds the lines that the earlier ones have
left. -/
theorem Fixable.applyEach_run {order : List SuggestedFix} :
    ∀ {w : Workspace σ} {text : String}, Fixable w.tree root source text place order →
      ∃ log, applyEach root order w = (.ok (lineResults w.tree.cwd (linesOf text) order),
        { w with tree := writtenTree w.tree place (linesOf text) order, log := log }) := by
  induction order with
  | nil => exact fun {w} _ _ => ⟨w.log, rfl⟩
  | cons f order ih =>
    intro w text h
    obtain rfl : f.broken.sourceFile = source := h.source_eq f (List.mem_cons_self ..)
    have hpath := h.path_ne f (List.mem_cons_self ..)
    rw [lineResults_cons]
    rcases hfind : findsLink w.tree.cwd (linesOf text) f with _ | _
    · -- The document stays, and the next fix reads the same text.
      obtain ⟨hresult, hwrite⟩ := documentWrite_singleton_of_not_findsLink h.readable hfind
      obtain ⟨log, hrun⟩ := applyFix_run hpath hresult
      rw [hwrite] at hrun
      obtain ⟨log', hrest⟩ := ih (w := { w with log := log }) (h.tail_of_not_findsLink hfind)
      refine ⟨log', (applyEach_cons hrun hrest).trans ?_⟩
      rw [writtenTree_cons_of_not_findsLink hfind, rewrittenLines_of_not_findsLink hfind]
    · -- The document is written, and the next fix reads what was written.
      have hany : true ∈ foundEach w.tree.cwd (linesOf text) (f :: order) := by
        rw [foundEach, hfind]
        exact List.mem_cons_self ..
      obtain ⟨hresult, hwrite⟩ :=
        documentWrite_singleton_of_findsLink h.readable h.place_eq (h.writable hany) hfind
      obtain ⟨log, hrun⟩ := applyFix_run hpath hresult
      rw [hwrite] at hrun
      rw [writtenTree_cons_of_findsLink hfind]
      rcases order with _ | ⟨g, gs⟩
      · exact ⟨log, applyEach_cons hrun rfl⟩
      · have htail := h.tail_of_findsLink (List.cons_ne_nil g gs)
        obtain ⟨log', hrest⟩ := ih (w := { w with
          tree := w.tree.put place
            (.file (.text (ofLines (rewrittenLines w.tree.cwd [f] (linesOf text)))))
          log := log }) htail
        refine ⟨log', (applyEach_cons hrun hrest).trans ?_⟩
        rw [h.linesOf_written]
        rfl

/-- **A document that cannot be read**, fix by fix: no fix changes that. -/
theorem applyEach_unreadable {e : FileFault} {order : List SuggestedFix} :
    (∀ f ∈ order, f.broken.sourceFile = source) → (∀ f ∈ order, f.suggestion.suggestedPath ≠ "") →
    ∀ w : Workspace σ, documentText w.tree root source = .error e →
      ∃ log, applyEach root order w
        = (.ok (order.map (·.result (some (.unreadable e)))), { w with log := log }) := by
  induction order with
  | nil => exact fun _ _ w _ => ⟨w.log, rfl⟩
  | cons f order ih =>
    intro hsource hpath w htext
    obtain rfl : f.broken.sourceFile = source := hsource f (List.mem_cons_self ..)
    obtain ⟨log, hrun⟩ := applyFix_run (hpath f (List.mem_cons_self ..))
      (documentResults_of_error htext [f])
    rw [documentWrite_of_error htext] at hrun
    obtain ⟨log', hrest⟩ := ih (fun g hg => hsource g (List.mem_cons_of_mem f hg))
      (fun g hg => hpath g (List.mem_cons_of_mem f hg)) { w with log := log } htext
    exact ⟨log', applyEach_cons hrun hrest⟩

/-- What the fixes of a document are answered one by one, in a given order. -/
def eachResults (t : FileTree) (root : FilePath) (source : String) (order : List SuggestedFix) :
    List FixResult :=
  match documentText t root source with
  | .error e => order.map (·.result (some (.unreadable e)))
  | .ok text => lineResults t.cwd (linesOf text) order

theorem eachResults_of_error {e : FileFault} (h : documentText t root source = .error e)
    (order : List SuggestedFix) :
    eachResults t root source order = order.map (·.result (some (.unreadable e))) := by
  unfold eachResults
  rw [h]

theorem eachResults_of_ok (h : documentText t root source = .ok text) (order : List SuggestedFix) :
    eachResults t root source order = lineResults t.cwd (linesOf text) order := by
  unfold eachResults
  rw [h]

/-- The documents of other files can be changed in between. -/
theorem Fixable.congr {u : FileTree} (h : Fixable t root source text place order)
    (hshape : SameShape t u)
    (hnode : ∀ place, t.placeOf (projectPath root source) = .ok place → u.node? place = t.node? place) :
    Fixable u root source text place order where
  source_eq := h.source_eq
  path_ne := h.path_ne
  path_line := h.path_line
  cwd_line := by rw [hshape.cwd]; exact h.cwd_line
  readable := (documentText_congr hshape hnode).trans h.readable
  place_eq := (hshape.placeOf _).trans h.place_eq
  writable := by rw [hshape.cwd]; exact h.writable
  fits := by rw [hshape.cwd]; exact h.fits

/-- From the last line to the first, the fixes write one by one what the batch writes. -/
theorem Fixable.writtenTree_eq {gs : List SuggestedFix}
    (h : Fixable t root source text place (fromLastLine gs)) {u : FileTree} (hcwd : u.cwd = t.cwd) :
    writtenTree u place (linesOf text) (fromLastLine gs)
      = afterWrite u (documentWrite t root source gs) := by
  have hlines : rewrittenLines t.cwd (fromLastLine gs) (linesOf text)
      = rewrittenLines t.cwd gs (linesOf text) :=
    rewrittenLines_congr (lastLineFirst_fromLastLine gs).sameLine
  unfold writtenTree
  rw [hcwd, hlines]
  by_cases hany : true ∈ foundEach t.cwd (linesOf text) (fromLastLine gs)
  · rw [if_pos hany, documentWrite_of_found h.readable h.place_eq (h.writable hany) hany]
    rfl
  · rw [if_neg hany, documentWrite_of_not_found h.readable hany]
    rfl

/-- From the last line to the first, the fixes are answered one by one as the batch answers them. -/
theorem Fixable.documentResults_eq {gs : List SuggestedFix}
    (h : Fixable t root source text place (fromLastLine gs)) :
    documentResults t root source gs = lineResults t.cwd (linesOf text) (fromLastLine gs) := by
  obtain ⟨_, _, _, _, hstat, -⟩ := documentText_eq_ok h.readable
  rw [documentResults_of_ok h.readable]
  by_cases hany : true ∈ foundEach t.cwd (linesOf text) (fromLastLine gs)
  · rw [writeFailure_of_write ((write_snd_eq_none_iff hstat _).2 (h.writable hany))]
    simp only [Option.orElse_eq_orElse, Option.orElse_eq_or, Option.or_none]
    rfl
  · refine map_result_of_all_isSome (List.all_eq_true.2 fun o ho => ?_) _
    rw [← map_isNone_fixOutcomes] at hany
    rcases hfailure : o.2 with _ | _
    · exact absurd (List.mem_map.2 ⟨o, ho, by rw [hfailure]; rfl⟩) hany
    · rfl

end Document

/-! ## The documents of a batch -/

section Batch

variable {σ : Type} {t : FileTree} {root : FilePath} {fs : List SuggestedFix}

/-- The documents of a batch can be written, and what is written in between can be read again. -/
structure Rewritable (t : FileTree) (root : FilePath) (fs : List SuggestedFix) : Prop where
  /-- A document in which a fix finds its link can be written. -/
  writes : ∀ s ∈ sourcesOf fs, ∀ text, documentText t root s = .ok text →
    true ∈ foundEach t.cwd (linesOf text) (fromLastLine (fixesOf s fs)) →
    (t.write (projectPath root s)
      (ofLines (rewrittenLines t.cwd (fixesOf s fs) (linesOf text)))).2 = none
  /-- The texts between the first fix and the last one are within the limit of the reader. -/
  fits : ∀ s ∈ sourcesOf fs, ∀ text, documentText t root s = .ok text →
    ∀ k, 0 < k → k < (fixesOf s fs).length → defaultLimit.isExceededBy (Content.text (ofLines
      (rewrittenLines t.cwd ((fromLastLine (fixesOf s fs)).take k) (linesOf text)))).size = false

/-- The conditions on a batch that is to be applied one by one as well. -/
structure Repeatable (t : FileTree) (root : FilePath) (fs : List SuggestedFix) : Prop where
  /-- Each fix suggests one path. -/
  path_ne : ∀ f ∈ fs, f.suggestion.suggestedPath ≠ ""
  path_line : ∀ f ∈ fs, '\n' ∉ f.suggestion.suggestedPath.toList
  cwd_line : ∀ n ∈ t.cwd, '\n' ∉ n.toList
  separate : SeparateFiles t root fs
  rewritable : Rewritable t root fs

/-- A document that can be read can be fixed fix by fix. -/
theorem Repeatable.fixable (h : Repeatable t root fs) {s : String} (hs : s ∈ sourcesOf fs)
    {text : String} (htext : documentText t root s = .ok text) :
    ∃ place, Fixable t root s text place (fromLastLine (fixesOf s fs)) := by
  obtain ⟨place, _, hplace, _, hstat, -⟩ := documentText_eq_ok htext
  have hperm := (lastLineFirst_fromLastLine (fixesOf s fs)).perm
  have hmem : ∀ f ∈ fromLastLine (fixesOf s fs), f ∈ fs ∧ f.broken.sourceFile = s :=
    fun f hf => mem_fixesOf.1 (hperm.mem_iff.1 hf)
  refine ⟨place, fun f hf => (hmem f hf).2, fun f hf => h.path_ne f (hmem f hf).1,
    fun f hf => h.path_line f (hmem f hf).1, h.cwd_line, htext, hplace, fun hany => ?_,
    fun k hk hlt => ?_⟩
  · exact (write_snd_eq_none_iff hstat _).1 (h.rewritable.writes s hs text htext hany)
  · rw [hperm.length_eq] at hlt
    exact h.rewritable.fits s hs text htext k hk hlt

/-- An order of the fixes of each document: any order at all if the document cannot be read, else from
the last line to the first. -/
def IsFixOrder (t : FileTree) (root : FilePath) (fs : List SuggestedFix)
    (order : String → List SuggestedFix) : Prop :=
  ∀ s ∈ sourcesOf fs, (order s).Perm (fixesOf s fs) ∧
    ∀ text, documentText t root s = .ok text → order s = fromLastLine (fixesOf s fs)

variable {order : String → List SuggestedFix}

/-- The fixes of one document, after other documents have been changed. -/
theorem Repeatable.applyEach_document (h : Repeatable t root fs) (horder : IsFixOrder t root fs order)
    {s : String} (hs : s ∈ sourcesOf fs) {w : Workspace σ} (hshape : SameShape t w.tree)
    (hnode : ∀ place, t.placeOf (projectPath root s) = .ok place →
      w.tree.node? place = t.node? place) :
    ∃ log, applyEach root (order s) w = (.ok (eachResults t root s (order s)), { w with
      tree := afterWrite w.tree (documentWrite t root s (fixesOf s fs)), log := log }) := by
  obtain ⟨hperm, hread⟩ := horder s hs
  rcases htext : documentText t root s with e | text
  · have hmem : ∀ f ∈ order s, f ∈ fs ∧ f.broken.sourceFile = s := fun f hf =>
      mem_fixesOf.1 (hperm.mem_iff.1 hf)
    obtain ⟨log, hrun⟩ := applyEach_unreadable (fun f hf => (hmem f hf).2)
      (fun f hf => h.path_ne f (hmem f hf).1) w ((documentText_congr hshape hnode).trans htext)
    rw [eachResults_of_error htext, documentWrite_of_error htext]
    exact ⟨log, hrun⟩
  · obtain ⟨place, hfixable⟩ := h.fixable hs htext
    obtain ⟨log, hrun⟩ := (hfixable.congr hshape hnode).applyEach_run
    rw [hfixable.writtenTree_eq hshape.cwd, hshape.cwd] at hrun
    rw [hread text htext, eachResults_of_ok htext]
    exact ⟨log, hrun⟩

theorem applyEach_append {fs gs : List SuggestedFix} :
    ∀ {rs rs' : List FixResult} {w u v : Workspace σ}, applyEach root fs w = (.ok rs, u) →
      applyEach root gs u = (.ok rs', v) → applyEach root (fs ++ gs) w = (.ok (rs ++ rs'), v) := by
  induction fs with
  | nil =>
    intro rs rs' w u v hfs hgs
    cases hfs
    exact hgs
  | cons f fs ih =>
    intro rs rs' w u v hfs hgs
    unfold applyEach at hfs
    obtain ⟨r, w', hr, hfs⟩ := Work.bind_ok_iff.1 hfs
    obtain ⟨rest, u', hrest, hfs⟩ := Work.bind_ok_iff.1 hfs
    cases hfs
    exact applyEach_cons hr (ih hrest hgs)

/-- **The documents of a batch**, one after the other and fix by fix, each as on the tree at the
start. -/
theorem Repeatable.applyEach_run (h : Repeatable t root fs) (horder : IsFixOrder t root fs order) :
    ∀ (sources : List String), sources.Nodup → (∀ s ∈ sources, s ∈ sourcesOf fs) →
      ∀ w : Workspace σ, SameShape t w.tree →
      (∀ s ∈ sources, ∀ place, t.placeOf (projectPath root s) = .ok place →
        w.tree.node? place = t.node? place) →
      ∃ log, applyEach root (sources.flatMap order) w
        = (.ok (sources.flatMap fun s => eachResults t root s (order s)), { w with
          tree := finalTree w.tree (sources.map fun s => documentWrite t root s (fixesOf s fs))
          log := log }) := by
  intro sources
  induction sources with
  | nil => intro _ _ w _ _; exact ⟨w.log, rfl⟩
  | cons s ss ih =>
    intro hnd hmem w hshape hplaces
    obtain ⟨hs, hnd⟩ := List.nodup_cons.1 hnd
    obtain ⟨log, hrun⟩ := h.applyEach_document horder (hmem s (List.mem_cons_self ..)) hshape
      (hplaces s (List.mem_cons_self ..))
    have hplaces' : ∀ s' ∈ ss, ∀ place, t.placeOf (projectPath root s') = .ok place →
        (afterWrite w.tree (documentWrite t root s (fixesOf s fs))).node? place = t.node? place := by
      intro s' hs' place hplace
      rw [h.separate.node?_afterWrite (hmem s (List.mem_cons_self ..))
        (hmem s' (List.mem_cons_of_mem _ hs')) (fun heq => hs (heq ▸ hs')) _ _ hplace]
      exact hplaces s' (List.mem_cons_of_mem _ hs') place hplace
    obtain ⟨log', hrest⟩ := ih hnd (fun s' h => hmem s' (List.mem_cons_of_mem _ h))
      { w with tree := afterWrite w.tree (documentWrite t root s (fixesOf s fs)), log := log }
      (sameShape_afterWrite hshape root s (fixesOf s fs)) hplaces'
    exact ⟨log', applyEach_append hrun hrest⟩

end Batch

/-! ## The order of the list -/

section Order

variable {t : FileTree} {root : FilePath} {fs gs : List SuggestedFix}

/-- If no two fixes are for one line, those of a line do not tell the order of the list. -/
theorem filter_line_fixesOf (h : gs.Perm fs)
    (hnd : (fs.map fun f => (f.broken.sourceFile, f.broken.link.line)).Nodup) (s : String) (line : Int) :
    (fixesOf s gs).filter (·.broken.link.line = line)
      = (fixesOf s fs).filter (·.broken.link.line = line) := by
  have hsub : ((fixesOf s fs).filter (·.broken.link.line = line)).Sublist fs :=
    List.filter_sublist.trans List.filter_sublist
  refine eq_of_perm_of_key ((h.filter _).filter _) _ (hnd.sublist (hsub.map _))
    (k := (s, line)) fun f hf => ?_
  obtain ⟨hf, hline⟩ := List.mem_filter.1 hf
  rw [(mem_fixesOf.1 hf).2, of_decide_eq_true hline]

theorem documentWrite_congr_order {source : String}
    (h : ∀ line : Int, gs.filter (·.broken.link.line = line) = fs.filter (·.broken.link.line = line)) :
    documentWrite t root source gs = documentWrite t root source fs := by
  have horder := fromLastLine_congr h
  have hlength : gs.length = fs.length := by
    rw [← (lastLineFirst_fromLastLine gs).perm.length_eq, horder,
      (lastLineFirst_fromLastLine fs).perm.length_eq]
  have hlines : ∀ cwd lines, rewrittenLines cwd gs lines = rewrittenLines cwd fs lines :=
    fun _ _ => rewrittenLines_congr h
  unfold documentWrite successes
  simp only [horder, hlength, hlines]

/-- **The order of the list** does not matter to the files if no two fixes are for one line. -/
theorem node?_finalTree_of_perm (hsep : SeparateFiles t root fs) (h : gs.Perm fs)
    (hnd : (fs.map fun f => (f.broken.sourceFile, f.broken.link.line)).Nodup) (place : List String) :
    (finalTree t (batchWrites t root gs)).node? place
      = (finalTree t (batchWrites t root fs)).node? place := by
  have hsources : ∀ s, s ∈ sourcesOf gs ↔ s ∈ sourcesOf fs := by
    intro s
    rw [mem_sourcesOf, mem_sourcesOf]
    simp only [h.mem_iff]
  have hwrites : ∀ p text, some (p, text) ∈ batchWrites t root gs ↔
      some (p, text) ∈ batchWrites t root fs := by
    intro p text
    unfold batchWrites
    simp only [List.mem_map, hsources, documentWrite_congr_order (filter_line_fixesOf h hnd _)]
  have hne : ∀ p text, some (p, text) ∈ batchWrites t root fs → p ≠ [] := fun _ _ => batchWrites_ne_nil
  by_cases hwritten : ∃ text, some (place, text) ∈ batchWrites t root fs
  · obtain ⟨text, hmem⟩ := hwritten
    have honly : ∀ other, some (place, other) ∈ batchWrites t root fs → other = text :=
      fun _ ho => hsep.eq_of_mem_batchWrites hmem ho
    rw [node?_finalTree_of_write _ hne hmem honly, node?_finalTree_of_write _
      (fun p text hw => hne p text ((hwrites p text).1 hw)) ((hwrites _ _).2 hmem)
      fun other ho => honly other ((hwrites _ _).1 ho)]
  · rw [not_exists] at hwritten
    rw [node?_finalTree_of_no_write _ hne hwritten, node?_finalTree_of_no_write _
      (fun p text hw => hne p text ((hwrites p text).1 hw)) fun text hw =>
        hwritten text ((hwrites _ _).1 hw)]

end Order

/-! ## The batch -/

/-- **A batch and its fixes one by one**, told by the answers of the batch and the workspaces before
and after it. -/
structure OneByOne {σ : Type} (root : FilePath) (fs : List SuggestedFix) (w v : Workspace σ)
    (results : List FixResult) : Prop where
  /-- The fixes one by one, in the order in which the batch answers them, come to the same tree and are
  answered the same. -/
  answerOrder : ∃ u, applyEach root ((sourcesOf fs).flatMap fun s =>
      DocLinks.answerOrder w.tree root s (fixesOf s fs)) w = (.ok results, u) ∧
    u.tree = v.tree ∧ u.scope = v.scope
  /-- So they do in the promised order, from the last line of each document to its first, but for the
  order of the answers: they come in the same order exactly if the fixes of each document that cannot
  be read were given in that order. -/
  promisedOrder : ∀ order : String → List SuggestedFix,
    (∀ s ∈ sourcesOf fs, LastLineFirst (fixesOf s fs) (order s)) →
    ∃ each u, applyEach root ((sourcesOf fs).flatMap order) w = (.ok each, u) ∧
      u.tree = v.tree ∧ u.scope = v.scope ∧
      (each = results ↔ ∀ s ∈ sourcesOf fs, ∀ e, documentText w.tree root s = .error e →
        (fixesOf s fs).Pairwise fun f g => g.broken.link.line ≤ f.broken.link.line)
  /-- If no two fixes are for one line of one document, the list can be given in any order. -/
  anyOrder : (fs.map fun f => (f.broken.sourceFile, f.broken.link.line)).Nodup →
    ∀ gs : List SuggestedFix, gs.Perm fs → ∃ results' u, applyFixes root gs w = (.ok results', u) ∧
      ∀ place, u.tree.node? place = v.tree.node? place

section OneByOne

variable {σ : Type} {t : FileTree} {root : FilePath} {fs : List SuggestedFix}

theorem isFixOrder_answerOrder :
    IsFixOrder t root fs fun s => answerOrder t root s (fixesOf s fs) := by
  intro s _
  refine ⟨?_, fun text htext => answerOrder_of_ok htext _⟩
  rcases htext : documentText t root s with e | text
  · simp only [answerOrder_of_error htext]
    exact .refl _
  · simp only [answerOrder_of_ok htext]
    exact (lastLineFirst_fromLastLine _).perm

theorem isFixOrder_fromLastLine : IsFixOrder t root fs fun s => fromLastLine (fixesOf s fs) :=
  fun _ _ => ⟨(lastLineFirst_fromLastLine _).perm, fun _ _ => rfl⟩

/-- In the order of its answers, a batch is answered as its fixes are one by one. -/
theorem Repeatable.documentResults_eq (h : Repeatable t root fs) {s : String} (hs : s ∈ sourcesOf fs) :
    documentResults t root s (fixesOf s fs)
      = eachResults t root s (answerOrder t root s (fixesOf s fs)) := by
  rcases htext : documentText t root s with e | text
  · rw [documentResults_of_error htext, eachResults_of_error htext, answerOrder_of_error htext]
  · obtain ⟨place, hfixable⟩ := h.fixable hs htext
    rw [hfixable.documentResults_eq, eachResults_of_ok htext, answerOrder_of_ok htext]

/-- The answers on a document are told by those of the batch. -/
theorem filter_flatMap_eachResults {order : String → List SuggestedFix}
    (horder : IsFixOrder t root fs order) {s : String} (hs : s ∈ sourcesOf fs) :
    ((sourcesOf fs).flatMap fun s => eachResults t root s (order s)).filter (·.sourceFile = s)
      = eachResults t root s (order s) := by
  refine filter_flatMap_of_key FixResult.sourceFile (fun s hs r hr => ?_) (nodup_sourcesOf fs) hs
  have hmem : ∀ f ∈ order s, f.broken.sourceFile = s := fun f hf =>
    (mem_fixesOf.1 ((horder s hs).1.mem_iff.1 hf)).2
  rcases htext : documentText t root s with e | text
  · rw [eachResults_of_error htext] at hr
    obtain ⟨f, hf, rfl⟩ := List.mem_map.1 hr
    exact hmem f hf
  · rw [eachResults_of_ok htext] at hr
    obtain ⟨o, ho, rfl⟩ := List.mem_map.1 hr
    refine hmem o.1 ?_
    rw [← map_fst_fixOutcomes (order s)]
    exact List.mem_map.2 ⟨o, ho, rfl⟩

/-- The two orders are answered the same exactly if they are the same where it can be seen. -/
theorem eachResults_eq_iff :
    ((sourcesOf fs).flatMap fun s => eachResults t root s (fromLastLine (fixesOf s fs)))
        = ((sourcesOf fs).flatMap fun s => eachResults t root s (answerOrder t root s (fixesOf s fs))) ↔
      ∀ s ∈ sourcesOf fs, ∀ e, documentText t root s = .error e →
        (fixesOf s fs).Pairwise fun f g => g.broken.link.line ≤ f.broken.link.line := by
  constructor
  · intro heq s hs e he
    have hblock := congrArg (List.filter (·.sourceFile = s)) heq
    rw [filter_flatMap_eachResults isFixOrder_fromLastLine hs,
      filter_flatMap_eachResults isFixOrder_answerOrder hs, eachResults_of_error he,
      eachResults_of_error he, answerOrder_of_error he] at hblock
    -- An answer tells the line of its fix.
    have hlines := congrArg (List.map fun r : FixResult => r.link.line) hblock
    rw [List.map_map, List.map_map] at hlines
    have hsorted : ((fromLastLine (fixesOf s fs)).map fun f => f.broken.link.line).Pairwise
        fun a b => b ≤ a := by
      rw [List.pairwise_map]
      exact (lastLineFirst_fromLastLine _).descending
    have hgiven : ((fixesOf s fs).map fun f => f.broken.link.line).Pairwise fun a b => b ≤ a :=
      hlines ▸ hsorted
    rwa [List.pairwise_map] at hgiven
  · intro h
    refine List.flatMap_congr fun s hs => ?_
    rcases htext : documentText t root s with e | text
    · rw [answerOrder_of_error htext, fromLastLine_of_descending (h s hs e htext)]
    · rw [answerOrder_of_ok htext]

/-- **A batch comes to what its fixes come to one by one.** -/
theorem applyFixes_oneByOne (root : FilePath) (fs : List SuggestedFix) (w : Workspace σ)
    (h : Repeatable w.tree root fs) :
    ∃ results v, applyFixes root fs w = (.ok results, v) ∧ v.scope = w.scope ∧
      OneByOne root fs w v results := by
  obtain ⟨log, hrun⟩ := applyFixes_results root fs h.path_ne w h.separate
  have heach := fun (order : String → List SuggestedFix) (horder : IsFixOrder w.tree root fs order) =>
    h.applyEach_run horder (sourcesOf fs) (nodup_sourcesOf fs) (fun _ hs => hs) w (.refl _)
      (fun _ _ _ _ => rfl)
  have hresults : ((sourcesOf fs).flatMap fun s => documentResults w.tree root s (fixesOf s fs))
      = (sourcesOf fs).flatMap fun s =>
          eachResults w.tree root s (answerOrder w.tree root s (fixesOf s fs)) :=
    List.flatMap_congr fun s hs => h.documentResults_eq hs
  refine ⟨_, _, hrun, rfl, ?_⟩
  constructor
  case answerOrder =>
    obtain ⟨log', hanswer⟩ := heach _ isFixOrder_answerOrder
    rw [← hresults] at hanswer
    exact ⟨_, hanswer, rfl, rfl⟩
  case promisedOrder =>
    intro order horder
    obtain ⟨log', hpromised⟩ := heach _ isFixOrder_fromLastLine
    have hsame : (sourcesOf fs).flatMap order
        = (sourcesOf fs).flatMap fun s => fromLastLine (fixesOf s fs) :=
      List.flatMap_congr fun s hs => (horder s hs).eq_fromLastLine
    rw [← hsame] at hpromised
    refine ⟨_, _, hpromised, rfl, rfl, ?_⟩
    rw [hresults]
    exact eachResults_eq_iff
  case anyOrder =>
    intro hnd gs hperm
    have hsep : SeparateFiles w.tree root gs := fun f hf g hg =>
      h.separate f (hperm.mem_iff.1 hf) g (hperm.mem_iff.1 hg)
    obtain ⟨log', hrun'⟩ := applyFixes_results root gs
      (fun f hf => h.path_ne f (hperm.mem_iff.1 hf)) w hsep
    exact ⟨_, _, hrun', node?_finalTree_of_perm h.separate hperm hnd⟩

end OneByOne

/-! ## Two batches -/

theorem repeatable_twoPageFixes : Repeatable twoLinkTree twoLinkRoot twoPageFixes where
  path_ne := by decide
  path_line := by decide
  cwd_line := by decide
  separate := separateFiles_twoPageFixes
  rewritable := by
    have hsources : ∀ s ∈ sourcesOf twoPageFixes, s = "a.md" ∨ s = "gone.md" := by decide +kernel
    have hgone : (documentText twoLinkTree twoLinkRoot "gone.md").toOption = none := by decide +kernel
    have ha : documentText twoLinkTree twoLinkRoot "a.md" = .ok "[x](old.md)\n\n[y](old.md)" :=
      Work.eq_ok_of_toOption (by decide +kernel)
    constructor
    · intro s hs text htext _
      rcases hsources s hs with rfl | rfl
      · obtain ⟨_, _, _, _, hstat, -⟩ := documentText_eq_ok htext
        exact (write_snd_eq_none_iff hstat _).2 (by decide +kernel)
      · rw [htext] at hgone
        cases hgone
    · intro s hs text htext k hk hlt
      rcases hsources s hs with rfl | rfl
      · obtain rfl : _ = text := Except.ok.inj (ha.symm.trans htext)
        obtain rfl : k = 1 := by
          have hlength : (fixesOf "a.md" twoPageFixes).length = 2 := by decide +kernel
          omega
        have horder : fromLastLine (fixesOf "a.md" twoPageFixes)
            = [oldToNew "a.md" 3, oldToNew "a.md" 1] :=
          (LastLineFirst.of_strictly_descending (List.Perm.swap ..) (by decide)).eq_fromLastLine.symm
        rw [horder]
        decide +kernel
      · rw [htext] at hgone
        cases hgone

theorem applyFixes_oneByOne_twoPageFixes :
    Repeatable twoLinkTree twoLinkRoot twoPageFixes ∧
      ∃ results v, applyFixes twoLinkRoot twoPageFixes (⟨twoLinkTree, (), []⟩ : Workspace Unit)
          = (.ok results, v) ∧ v.scope = () ∧
        OneByOne twoLinkRoot twoPageFixes ⟨twoLinkTree, (), []⟩ v results :=
  ⟨repeatable_twoPageFixes,
    applyFixes_oneByOne twoLinkRoot twoPageFixes ⟨twoLinkTree, (), []⟩ repeatable_twoPageFixes⟩

/-- The fixes of a page that cannot be read, from its last line to its first: one by one they are
answered in that order, and by the batch in the order in which they were given. -/
theorem unreadable_answers_differ_oneByOne :
    LastLineFirst missingPageFixes missingPageFixes.reverse ∧ ∃ results each u v,
      applyFixes twoLinkRoot missingPageFixes (⟨twoLinkTree, (), []⟩ : Workspace Unit)
        = (.ok results, u) ∧
      applyEach twoLinkRoot missingPageFixes.reverse (⟨twoLinkTree, (), []⟩ : Workspace Unit)
        = (.ok each, v) ∧
      results.map (·.link.line) = [1, 2] ∧ each.map (·.link.line) = [2, 1] := by
  obtain ⟨results, u, hbatch, hresults⟩ := Work.exists_of_view
    (x := applyFixes twoLinkRoot missingPageFixes) (w := (⟨twoLinkTree, (), []⟩ : Workspace Unit))
    (f := fun results _ => results.map (·.link.line)) (c := [1, 2]) (by decide +kernel)
  obtain ⟨each, v, hone, heach⟩ := Work.exists_of_view
    (x := applyEach twoLinkRoot missingPageFixes.reverse)
    (w := (⟨twoLinkTree, (), []⟩ : Workspace Unit))
    (f := fun each _ => each.map (·.link.line)) (c := [2, 1]) (by decide +kernel)
  exact ⟨.of_strictly_descending (List.reverse_perm _) (by decide), results, each, u, v, hbatch, hone,
    hresults, heach⟩

end DocLinks
