import DocLinks.Proofs.Fix.Document

/-!
# A batch of fixes

`applyFixes` handles the documents of a batch one after the other, each on the tree that the earlier
ones leave. As long as the documents are different files (`SeparateFiles`) none of them sees what
became of another, so the answers and the writes of the whole batch are those of its documents on the
tree at the start (`applyFixes_results`).

## Contents
- `SeparateFiles`, `finalTree`: the documents of a batch, and the tree after all its writes.
- `node?_finalTree_of_write`, `node?_finalTree_of_no_write`: what stands where afterwards.
- `FixResult.verdict`, `documentVerdicts`, `resultsOf`: the answers, document by document.
-/

namespace DocLinks

open Text FileTree

/-- The documents of a batch that are files are different files. -/
def SeparateFiles (t : FileTree) (root : FilePath) (fs : List SuggestedFix) : Prop :=
  ∀ f ∈ fs, ∀ g ∈ fs, ∀ place c, t.placeOf (projectPath root f.broken.sourceFile) = .ok place →
    t.placeOf (projectPath root g.broken.sourceFile) = .ok place →
    t.node? place = some (.file c) → f.broken.sourceFile = g.broken.sourceFile

/-! ## One document on a changed tree -/

section Congr

variable {t u : FileTree} {root : FilePath} {source : String}

/-- A document is the same on a tree of the same shape that has the same node at its place. -/
theorem documentText_congr (h : SameShape t u)
    (hnode : ∀ place, t.placeOf (projectPath root source) = .ok place → u.node? place = t.node? place) :
    documentText u root source = documentText t root source :=
  read_congr (h.stat_eq hnode) _

theorem successes_congr (h : SameShape t u)
    (htext : documentText u root source = documentText t root source) (fs : List SuggestedFix) :
    successes u root source fs = successes t root source fs := by
  unfold successes
  rw [htext, h.cwd]

theorem documentWrite_congr (h : SameShape t u)
    (htext : documentText u root source = documentText t root source) (fs : List SuggestedFix) :
    documentWrite u root source fs = documentWrite t root source fs := by
  unfold documentWrite
  rw [htext, h.placeOf, h.cwd, successes_congr h htext]

theorem documentResults_congr (h : SameShape t u)
    (hnode : ∀ place, t.placeOf (projectPath root source) = .ok place → u.node? place = t.node? place)
    (fs : List SuggestedFix) :
    documentResults u root source fs = documentResults t root source fs := by
  have htext := documentText_congr h hnode
  rcases ht : documentText t root source with e | text
  · rw [ht] at htext
    rw [documentResults_of_error ht, documentResults_of_error htext]
  · rw [ht] at htext
    obtain ⟨_, _, _, _, hstat, -⟩ := documentText_eq_ok ht
    have hfailure : ∀ lines, writeFailure u root source lines = writeFailure t root source lines := by
      intro lines
      unfold writeFailure
      rw [h.write_snd hstat ((h.stat_eq hnode).trans hstat)]
    rw [documentResults_of_ok ht, documentResults_of_ok htext, h.cwd, hfailure]

end Congr

/-! ## The tree after the batch -/

/-- The tree after the writes of several documents. -/
def finalTree (t : FileTree) (writes : List (Option (List String × String))) : FileTree :=
  writes.foldl afterWrite t

/-- The writes of a batch, document by document. -/
def batchWrites (t : FileTree) (root : FilePath) (fs : List SuggestedFix) :
    List (Option (List String × String)) :=
  (sourcesOf fs).map fun source => documentWrite t root source (fixesOf source fs)

theorem node?_finalTree_of_no_write (writes : List (Option (List String × String))) {place : List String}
    (hne : ∀ p text, some (p, text) ∈ writes → p ≠ []) (h : ∀ text, some (place, text) ∉ writes) :
    ∀ t : FileTree, (finalTree t writes).node? place = t.node? place := by
  induction writes with
  | nil => intro t; rfl
  | cons w ws ih =>
    intro t
    have hne' := fun p text hw => hne p text (List.mem_cons_of_mem _ hw)
    have h' := fun text hw => h text (List.mem_cons_of_mem _ hw)
    show (finalTree (afterWrite t w) ws).node? place = _
    rw [ih hne' h']
    rcases w with _ | ⟨p, text⟩
    · rfl
    · have hp : ¬place = p := by
        rintro rfl
        exact h text (List.mem_cons_self ..)
      show (t.put p (.file (.text text))).node? place = _
      rw [node?_put (hne p text (List.mem_cons_self ..)), if_neg hp]

theorem node?_finalTree_of_write (writes : List (Option (List String × String))) {place : List String}
    {text : String} (hne : ∀ p text, some (p, text) ∈ writes → p ≠ [])
    (h : some (place, text) ∈ writes) (honly : ∀ other, some (place, other) ∈ writes → other = text) :
    ∀ t : FileTree, (finalTree t writes).node? place = some (.file (.text text)) := by
  induction writes with
  | nil => cases h
  | cons w ws ih =>
    intro t
    have hne' := fun p text hw => hne p text (List.mem_cons_of_mem _ hw)
    have honly' := fun other hw => honly other (List.mem_cons_of_mem _ hw)
    show (finalTree (afterWrite t w) ws).node? place = _
    by_cases hlater : some (place, text) ∈ ws
    · exact ih hne' hlater honly' _
    · -- The write at the head is the last one that goes there.
      have hnone : ∀ other, some (place, other) ∉ ws := fun other ho =>
        hlater (honly' other ho ▸ ho)
      rw [node?_finalTree_of_no_write ws hne' hnone]
      rcases List.mem_cons.1 h with hw | hw
      · subst hw
        show (t.put place (.file (.text text))).node? place = _
        rw [node?_put (hne _ _ (List.mem_cons_self ..)), if_pos rfl]
      · exact absurd hw hlater

/-- What a document writes keeps the shape of the tree. -/
theorem sameShape_afterWrite {t u : FileTree} (h : SameShape t u) (root : FilePath) (source : String)
    (fs : List SuggestedFix) : SameShape t (afterWrite u (documentWrite t root source fs)) := by
  rcases hw : documentWrite t root source fs with _ | ⟨place, new⟩
  · exact h
  · obtain ⟨_, c, _, _, hnode, _, _⟩ := documentWrite_eq_some hw
    obtain ⟨d, hd⟩ := h.node?_file hnode
    exact h.trans (sameShape_put hd _)

/-- Documents at one place are the same document, if one of them is read. -/
theorem SeparateFiles.eq_of_place {t : FileTree} {root : FilePath} {fs : List SuggestedFix}
    (hsep : SeparateFiles t root fs) {s s' : String}
    (hs : s ∈ sourcesOf fs) (hs' : s' ∈ sourcesOf fs) {place : List String} {c : Content}
    (hp : t.placeOf (projectPath root s) = .ok place)
    (hp' : t.placeOf (projectPath root s') = .ok place) (hnode : t.node? place = some (.file c)) :
    s' = s := by
  obtain ⟨f, hf, rfl⟩ := mem_sourcesOf.1 hs
  obtain ⟨g, hg, rfl⟩ := mem_sourcesOf.1 hs'
  exact hsep g hg f hf place c hp' hp hnode

/-- What a document writes is not where another one is. -/
theorem SeparateFiles.node?_afterWrite {t : FileTree} {root : FilePath} {fs : List SuggestedFix}
    (hsep : SeparateFiles t root fs) {s s' : String} (hs : s ∈ sourcesOf fs) (hs' : s' ∈ sourcesOf fs)
    (hne : s' ≠ s) (gs : List SuggestedFix) (u : FileTree) {place : List String}
    (hplace : t.placeOf (projectPath root s') = .ok place) :
    (afterWrite u (documentWrite t root s gs)).node? place = u.node? place := by
  rcases hw : documentWrite t root s gs with _ | ⟨q, new⟩
  · rfl
  · obtain ⟨_, c, _, hq, hnode, _, _⟩ := documentWrite_eq_some hw
    have hother : ¬place = q := by
      rintro rfl
      exact hne (hsep.eq_of_place hs hs' hq hplace hnode)
    show (u.put q (.file (.text new))).node? place = _
    rw [node?_put (ne_nil_of_node?_file hnode), if_neg hother]

/-! ## The answers -/

/-- What a fix was tried on, and whether it succeeded. -/
def FixResult.verdict (r : FixResult) : (String × Link × String) × Bool := (r.attempt, r.success)

/-- The verdicts on the fixes of one document. -/
def documentVerdicts (t : FileTree) (root : FilePath) (source : String) (fs : List SuggestedFix) :
    List ((String × Link × String) × Bool) :=
  ((answerOrder t root source fs).map SuggestedFix.attempt).zip (successes t root source fs)

/-- **The documents of a batch**, one after the other, each as on the tree at the start. -/
theorem applyGroups_run {σ : Type} (root : FilePath) (fs : List SuggestedFix)
    (hfs : ∀ f ∈ fs, f.suggestion.suggestedPath ≠ "") (t : FileTree) (hsep : SeparateFiles t root fs) :
    ∀ (sources : List String), sources.Nodup → (∀ s ∈ sources, s ∈ sourcesOf fs) →
      ∀ w : Workspace σ, SameShape t w.tree →
      (∀ s ∈ sources, ∀ place, t.placeOf (projectPath root s) = .ok place →
        w.tree.node? place = t.node? place) →
      ∃ log, applyGroups root (sources.map fun s => (s, fixesOf s fs)) w
        = (.ok (sources.flatMap fun s => documentResults t root s (fixesOf s fs)), { w with
          tree := finalTree w.tree (sources.map fun s => documentWrite t root s (fixesOf s fs))
          log := log }) := by
  intro sources
  induction sources with
  | nil => intro _ _ w _ _; exact ⟨w.log, rfl⟩
  | cons s ss ih =>
    intro hnd hmem w hshape hplaces
    obtain ⟨hs, hnd⟩ := List.nodup_cons.1 hnd
    have htext : documentText w.tree root s = documentText t root s :=
      documentText_congr hshape (hplaces s (List.mem_cons_self ..))
    obtain ⟨log, hrun⟩ := applyFileFixes_run root s (fixesOf s fs)
      (fun f hf => hfs f (mem_fixesOf.1 hf).1) w
    rw [documentWrite_congr hshape htext,
      documentResults_congr hshape (hplaces s (List.mem_cons_self ..))] at hrun
    -- The write of this document is to no place of a later one.
    have hshape' := sameShape_afterWrite hshape root s (fixesOf s fs)
    have hplaces' : ∀ s' ∈ ss, ∀ place, t.placeOf (projectPath root s') = .ok place →
        (afterWrite w.tree (documentWrite t root s (fixesOf s fs))).node? place = t.node? place := by
      intro s' hs' place hplace
      rw [hsep.node?_afterWrite (hmem s (List.mem_cons_self ..)) (hmem s' (List.mem_cons_of_mem _ hs'))
        (fun heq => hs (heq ▸ hs')) _ _ hplace]
      exact hplaces s' (List.mem_cons_of_mem _ hs') place hplace
    obtain ⟨log', hrest⟩ := ih hnd (fun s' h => hmem s' (List.mem_cons_of_mem _ h))
      { w with tree := afterWrite w.tree (documentWrite t root s (fixesOf s fs)), log := log }
      hshape' hplaces'
    refine ⟨log', ?_⟩
    show (applyFileFixes root s (fixesOf s fs) >>= fun results =>
      applyGroups root (ss.map fun s => (s, fixesOf s fs)) >>= fun more =>
        pure (results ++ more)) w = _
    rw [Work.bind_run_of_ok hrun, Work.bind_run_of_ok hrest]
    rfl

/-- **A batch of fixes.** It always ends with an answer; the tree has the writes of its documents,
and the answers are those of its documents in the order in which they come first. -/
theorem applyFixes_results {σ : Type} (root : FilePath) (fs : List SuggestedFix)
    (hfs : ∀ f ∈ fs, f.suggestion.suggestedPath ≠ "") (w : Workspace σ)
    (hsep : SeparateFiles w.tree root fs) :
    ∃ log, applyFixes root fs w
      = (.ok ((sourcesOf fs).flatMap fun s => documentResults w.tree root s (fixesOf s fs)),
        { w with tree := finalTree w.tree (batchWrites w.tree root fs), log := log }) := by
  obtain ⟨log, hrun⟩ := applyGroups_run root fs hfs w.tree hsep (sourcesOf fs)
    (nodup_sourcesOf fs) (fun _ h => h) w (.refl _) (fun _ _ _ _ => rfl)
  unfold applyFixes
  rw [groupBySource_eq, Work.bind_run_of_ok hrun]
  exact ⟨_, rfl⟩

theorem map_verdict_documentResults (t : FileTree) (root : FilePath) (source : String)
    (fs : List SuggestedFix) :
    (documentResults t root source fs).map FixResult.verdict = documentVerdicts t root source fs := by
  rw [documentVerdicts, ← map_attempt_documentResults, ← map_success_documentResults, List.zip_map']
  rfl

/-- The verdicts of a batch are those of its documents. -/
theorem applyFixes_run {σ : Type} (root : FilePath) (fs : List SuggestedFix)
    (hfs : ∀ f ∈ fs, f.suggestion.suggestedPath ≠ "") (w : Workspace σ)
    (hsep : SeparateFiles w.tree root fs) :
    ∃ results log,
      applyFixes root fs w
        = (.ok results,
          { w with tree := finalTree w.tree (batchWrites w.tree root fs), log := log }) ∧
      results.map FixResult.verdict
        = (sourcesOf fs).flatMap fun s => documentVerdicts w.tree root s (fixesOf s fs) := by
  obtain ⟨log, hrun⟩ := applyFixes_results root fs hfs w hsep
  refine ⟨_, log, hrun, ?_⟩
  rw [List.map_flatMap]
  simp only [map_verdict_documentResults]

/-! ## The answers on one document -/

/-- The answers on one document. -/
def resultsOf (source : String) (results : List FixResult) : List FixResult :=
  results.filter (·.sourceFile = source)

theorem mem_resultsOf {source : String} {results : List FixResult} {r : FixResult} :
    r ∈ resultsOf source results ↔ r ∈ results ∧ r.sourceFile = source := by
  simp [resultsOf]

/-- One block of a concatenation, found by the key that its items share. -/
theorem filter_flatMap_of_key {α β : Type} [DecidableEq α] {keys : List α} {block : α → List β}
    (key : β → α) (hkey : ∀ k ∈ keys, ∀ b ∈ block k, key b = k) (hnd : keys.Nodup) {k : α}
    (hk : k ∈ keys) : (keys.flatMap block).filter (key · = k) = block k := by
  induction keys with
  | nil => cases hk
  | cons j js ih =>
    obtain ⟨hj, hnd⟩ := List.nodup_cons.1 hnd
    have hkey' := fun i hi => hkey i (List.mem_cons_of_mem _ hi)
    rw [List.flatMap_cons, List.filter_append]
    by_cases he : j = k
    · subst he
      have hhere : (block j).filter (key · = j) = block j :=
        List.filter_eq_self.2 fun b hb => by simpa using hkey j (List.mem_cons_self ..) b hb
      have hrest : (js.flatMap block).filter (key · = j) = [] := by
        rw [List.filter_eq_nil_iff]
        intro b hb
        obtain ⟨i, hi, hb⟩ := List.mem_flatMap.1 hb
        have hne : ¬i = j := fun h => hj (h ▸ hi)
        simpa [hkey' i hi b hb] using hne
      rw [hhere, hrest, List.append_nil]
    · have hhere : (block j).filter (key · = k) = [] := by
        rw [List.filter_eq_nil_iff]
        intro b hb
        simpa [hkey j (List.mem_cons_self ..) b hb] using he
      rw [hhere, List.nil_append]
      exact ih hkey' hnd ((List.mem_cons.1 hk).resolve_left (Ne.symm he))

section Answers

variable {t : FileTree} {root : FilePath} {fs : List SuggestedFix} {source : String}

theorem mem_answerOrder {gs : List SuggestedFix} {f : SuggestedFix} :
    f ∈ answerOrder t root source gs ↔ f ∈ gs := by
  unfold answerOrder
  split
  · exact (lastLineFirst_fromLastLine gs).perm.mem_iff
  · rfl

theorem length_answerOrder (t : FileTree) (root : FilePath) (source : String)
    (gs : List SuggestedFix) : (answerOrder t root source gs).length = gs.length := by
  unfold answerOrder
  split
  · exact (lastLineFirst_fromLastLine gs).perm.length_eq
  · rfl

theorem length_successes (t : FileTree) (root : FilePath) (source : String)
    (gs : List SuggestedFix) : (successes t root source gs).length = gs.length := by
  unfold successes
  split
  · split
    · rw [length_foundEach]
      exact (lastLineFirst_fromLastLine gs).perm.length_eq
    · exact List.length_replicate
  · exact List.length_replicate

theorem map_fst_documentVerdicts (t : FileTree) (root : FilePath) (source : String)
    (gs : List SuggestedFix) :
    (documentVerdicts t root source gs).map Prod.fst
      = (answerOrder t root source gs).map SuggestedFix.attempt := by
  refine List.map_fst_zip (Nat.le_of_eq ?_)
  rw [List.length_map, length_answerOrder, length_successes]

theorem map_snd_documentVerdicts (t : FileTree) (root : FilePath) (source : String)
    (gs : List SuggestedFix) :
    (documentVerdicts t root source gs).map Prod.snd = successes t root source gs := by
  refine List.map_snd_zip (Nat.le_of_eq ?_)
  rw [List.length_map, length_answerOrder, length_successes]

theorem source_of_mem_documentVerdicts {v : (String × Link × String) × Bool}
    (h : v ∈ documentVerdicts t root source (fixesOf source fs)) : v.1.1 = source := by
  obtain ⟨f, hf, hv⟩ := List.mem_map.1 (List.of_mem_zip h).1
  rw [← hv]
  exact (mem_fixesOf.1 (mem_answerOrder.1 hf)).2

/-- **The answers on one document** of a batch are those that the document gets by itself. -/
theorem resultsOf_verdict {results : List FixResult}
    (h : results.map FixResult.verdict
      = (sourcesOf fs).flatMap fun s => documentVerdicts t root s (fixesOf s fs))
    (hs : source ∈ sourcesOf fs) :
    (resultsOf source results).map FixResult.verdict
      = documentVerdicts t root source (fixesOf source fs) := by
  have hfilter : (resultsOf source results).map FixResult.verdict
      = (results.map FixResult.verdict).filter (·.1.1 = source) := by
    rw [resultsOf, List.filter_map]
    rfl
  rw [hfilter, h]
  exact filter_flatMap_of_key (fun v => v.1.1) (fun s _ v hv => source_of_mem_documentVerdicts hv)
    (nodup_sourcesOf fs) hs

theorem resultsOf_attempt {results : List FixResult}
    (h : results.map FixResult.verdict
      = (sourcesOf fs).flatMap fun s => documentVerdicts t root s (fixesOf s fs))
    (hs : source ∈ sourcesOf fs) :
    (resultsOf source results).map FixResult.attempt
      = (answerOrder t root source (fixesOf source fs)).map SuggestedFix.attempt := by
  have hfst := congrArg (List.map Prod.fst) (resultsOf_verdict h hs)
  rwa [List.map_map, map_fst_documentVerdicts] at hfst

theorem resultsOf_success {results : List FixResult}
    (h : results.map FixResult.verdict
      = (sourcesOf fs).flatMap fun s => documentVerdicts t root s (fixesOf s fs))
    (hs : source ∈ sourcesOf fs) :
    (resultsOf source results).map FixResult.success
      = successes t root source (fixesOf source fs) := by
  have hsnd := congrArg (List.map Prod.snd) (resultsOf_verdict h hs)
  rwa [List.map_map, map_snd_documentVerdicts] at hsnd

/-- The attempts of a whole batch, document by document. -/
theorem results_attempt {results : List FixResult}
    (h : results.map FixResult.verdict
      = (sourcesOf fs).flatMap fun s => documentVerdicts t root s (fixesOf s fs)) :
    results.map FixResult.attempt
      = ((sourcesOf fs).flatMap fun s => answerOrder t root s (fixesOf s fs)).map
          SuggestedFix.attempt := by
  have hfst := congrArg (List.map Prod.fst) h
  simp only [List.map_map, List.map_flatMap, map_fst_documentVerdicts] at hfst
  rwa [List.map_flatMap]

end Answers

/-! ## The files -/

section Files

variable {t : FileTree} {root : FilePath} {fs : List SuggestedFix} {source : String}

/-- What a batch writes is the text of one of its documents. -/
theorem mem_batchWrites {place : List String} {text : String}
    (h : some (place, text) ∈ batchWrites t root fs) :
    ∃ s ∈ sourcesOf fs, documentWrite t root s (fixesOf s fs) = some (place, text) := by
  obtain ⟨s, hs, hw⟩ := List.mem_map.1 h
  exact ⟨s, hs, hw⟩

theorem batchWrites_ne_nil {p : List String} {text : String}
    (h : some (p, text) ∈ batchWrites t root fs) : p ≠ [] := by
  obtain ⟨s, _, hw⟩ := mem_batchWrites h
  obtain ⟨_, _, _, _, hnode, _, _⟩ := documentWrite_eq_some hw
  exact ne_nil_of_node?_file hnode

/-- Different documents write to different places. -/
theorem SeparateFiles.eq_of_mem_batchWrites (hsep : SeparateFiles t root fs) {place : List String}
    {text other : String} (h : some (place, text) ∈ batchWrites t root fs)
    (ho : some (place, other) ∈ batchWrites t root fs) : other = text := by
  obtain ⟨s, hs, hw⟩ := mem_batchWrites h
  obtain ⟨s', hs', hw'⟩ := mem_batchWrites ho
  obtain ⟨_, _, _, hp, hnode, _, _⟩ := documentWrite_eq_some hw
  obtain ⟨_, _, _, hp', _, _, _⟩ := documentWrite_eq_some hw'
  rw [hsep.eq_of_place hs hs' hp hp' hnode, hw] at hw'
  cases hw'
  rfl

/-- A place that no document with a success stands at is not written. -/
theorem node?_finalTree_of_no_success {place : List String}
    (h : ∀ s ∈ sourcesOf fs, t.placeOf (projectPath root s) = .ok place →
      true ∉ successes t root s (fixesOf s fs)) :
    (finalTree t (batchWrites t root fs)).node? place = t.node? place := by
  refine node?_finalTree_of_no_write _ (fun p text hw => batchWrites_ne_nil hw) (fun text hw => ?_) t
  obtain ⟨s, hs, hw⟩ := mem_batchWrites hw
  obtain ⟨_, _, _, hplace, _, hsuccess, _⟩ := documentWrite_eq_some hw
  exact h s hs hplace hsuccess

/-- **The text of a document after a batch**: its lines after their fixes. -/
theorem node?_finalTree_of_document (hsep : SeparateFiles t root fs) (hs : source ∈ sourcesOf fs)
    {text : String} {place : List String} (htext : documentText t root source = .ok text)
    (hplace : t.placeOf (projectPath root source) = .ok place)
    (hsuccess : successes t root source (fixesOf source fs)
      = foundEach t.cwd (linesOf text) (fromLastLine (fixesOf source fs))) :
    ∃ c, (finalTree t (batchWrites t root fs)).node? place = some (.file c) ∧
      c.read = .ok (ofLines (rewrittenLines t.cwd (fixesOf source fs) (linesOf text))) := by
  obtain ⟨place', c, hp, hnode, _, hread⟩ := documentText_eq_ok htext
  rw [hplace] at hp
  cases hp
  have hsame := (lastLineFirst_fromLastLine (fixesOf source fs)).sameLine
  by_cases hany : true ∈ successes t root source (fixesOf source fs)
  · have hw := documentWrite_of_success htext hplace hany
    have hmem : some (place, ofLines (rewrittenLines t.cwd (fixesOf source fs) (linesOf text))) ∈
        batchWrites t root fs := List.mem_map.2 ⟨source, hs, hw⟩
    exact ⟨_, node?_finalTree_of_write _ (fun p text hw => batchWrites_ne_nil hw) hmem
      (fun other ho => hsep.eq_of_mem_batchWrites hmem ho) t, rfl⟩
  · -- Nothing is written, and the lines are what they were.
    refine ⟨c, ?_, ?_⟩
    · rw [node?_finalTree_of_no_success fun s' hs' hp' => ?_, hnode]
      rw [hsep.eq_of_place hs hs' hplace hp' hnode]
      exact hany
    · rw [hread, ← rewrittenLines_congr hsame,
        rewrittenLines_of_foundEach _ _ (fun b hb => ?_), ofLines_linesOf]
      rcases b with _ | _
      · rfl
      · exact absurd (hsuccess ▸ hb) hany

end Files

end DocLinks
