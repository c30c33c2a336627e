import DocLinks.Proofs.Fix.Order
import DocLinks.Proofs.Redirect.Appending

/-!
# Redirects of a batch

What a batch of fixes that recorded redirects leaves in the table of the context. The recorded redirects
are new keys, so no old key loses its destination, and the entries of the table are the old ones and the
recorded ones: this is so exactly if each of them is one that a line can say
(`applyFixesWithRedirects_recordsRedirects`). A target with a colon is not, and its line can be read as
another destination of an old key (`colon_in_target_replaces_destination`).

## Contents
- `SameScope`: fixing documents does not touch the context.
- `Records`: recording redirects changes one file at most.
- `RecordingEnds`, `recordRedirects_ends`: the ways in which recording redirects ends.
- `recordRedirects_cases`, `applyFixesWithRedirects_cases`: what recording redirects has written and read.
- `RecordsRedirects`: the table after such a batch.
-/

namespace DocLinks

open Text FileTree Work

/-! ## What fixing documents leaves alone -/

section Fixing

variable {σ : Type}

/-- The scope is the same. -/
def SameScope (w v : Workspace σ) : Prop := v.scope = w.scope

theorem sameScope_isPreorder : IsPreorder (SameScope : Workspace σ → Workspace σ → Prop) where
  refl _ := rfl
  trans h h' := Eq.trans h' h

theorem sameScope_write (p : FilePath) (text : String) :
    Sat SameScope (Work.write p text : Work σ _) := by
  intro w
  unfold Work.write
  rcases w.tree.write p text with ⟨t, _ | fault⟩
  · rfl
  · cases fault <;> rfl

/-- Fixing lines changes the log only. -/
theorem sat_fixLines {R : Workspace σ → Workspace σ → Prop} (hR : IsPreorder R)
    (hlog : ∀ w log, R w { w with log }) (fs : List SuggestedFix) :
    ∀ lines, Sat R (fixLines lines fs : Work σ _) := by
  induction fs with
  | nil => intro lines; exact Sat.pure hR _
  | cons f fs ih =>
    intro lines
    refine Sat.bind hR (fun w => hR.refl w) fun t => ?_
    refine Sat.bind hR (fun w => hR.refl w) fun fixed => ?_
    have hreports : ∀ rs : List LogRecord, Sat R (rs.forM (report : LogRecord → Work σ Unit)) :=
      Sat.forM hR fun _ w => hlog w _
    refine Sat.bind hR (hreports _) fun _ => ?_
    exact Sat.bind hR (ih _) fun _ => Sat.pure hR _

theorem sameScope_applyFileFixes (root : FilePath) (source : String) (fs : List SuggestedFix) :
    Sat SameScope (applyFileFixes root source fs : Work σ _) := by
  refine Sat.bind sameScope_isPreorder (fun _ => rfl) fun t => ?_
  split
  · exact Sat.bind sameScope_isPreorder (fun _ => rfl) fun _ => Sat.pure sameScope_isPreorder _
  · refine Sat.bind sameScope_isPreorder (sat_fixLines sameScope_isPreorder (fun _ _ => rfl) _ _) fun (lines, outcomes) => ?_
    simp only
    split
    · exact Sat.pure sameScope_isPreorder _
    · refine Sat.bind sameScope_isPreorder (sameScope_write _ _) fun written => ?_
      split
      · exact Sat.pure sameScope_isPreorder _
      · exact Sat.bind sameScope_isPreorder (fun _ => rfl) fun _ => Sat.pure sameScope_isPreorder _

theorem sameScope_applyGroups (root : FilePath) (groups : List (String × List SuggestedFix)) :
    Sat SameScope (applyGroups root groups : Work σ _) := by
  induction groups with
  | nil => exact Sat.pure sameScope_isPreorder _
  | cons group groups ih =>
    refine Sat.bind sameScope_isPreorder (sameScope_applyFileFixes _ _ _) fun _ => ?_
    exact Sat.bind sameScope_isPreorder ih fun _ => Sat.pure sameScope_isPreorder _

/-- **Fixing documents** does not touch the scope. -/
theorem sameScope_applyFixes (root : FilePath) (fs : List SuggestedFix) :
    Sat SameScope (applyFixes root fs : Work σ _) := by
  refine Sat.bind sameScope_isPreorder (sameScope_applyGroups _ _) fun _ => ?_
  exact Sat.bind sameScope_isPreorder (fun _ => rfl) fun _ => Sat.pure sameScope_isPreorder _

/-! ## The answers -/

variable {root : FilePath} {w v : Workspace σ}

/-- The outcomes on the lines of a document are those of its fixes. -/
theorem map_fst_of_fixLines {fs : List SuggestedFix} :
    ∀ {lines lines' : Lines} {outcomes : List (SuggestedFix × Option FixFailure)} {w v : Workspace σ},
      fixLines lines fs w = (.ok (lines', outcomes), v) → outcomes.map Prod.fst = fs := by
  induction fs with
  | nil =>
    intro lines lines' outcomes w v h
    cases h
    rfl
  | cons f fs ih =>
    intro lines lines' outcomes w v h
    obtain ⟨t, w₁, _, h⟩ := bind_ok_iff.1 h
    obtain ⟨fixed, w₂, _, h⟩ := bind_ok_iff.1 h
    obtain ⟨_, w₃, _, h⟩ := bind_ok_iff.1 h
    obtain ⟨rest, w₄, hrest, h⟩ := bind_ok_iff.1 h
    cases h
    rw [List.map_cons, ih hrest]

/-- The answers on a document are those of its fixes. -/
theorem exists_fix_of_applyFileFixes {source : String} {fs : List SuggestedFix}
    {results : List FixResult} (h : applyFileFixes root source fs w = (.ok results, v)) :
    ∀ r ∈ results, ∃ f ∈ fs, ∃ failure, r = f.result failure := by
  intro r hr
  unfold applyFileFixes at h
  rw [bind_run_of_ok (tree_run w)] at h
  rcases hread : w.tree.read (projectPath root source) defaultLimit with e | content
  · simp only [hread] at h
    obtain ⟨_, u, _, h⟩ := bind_ok_iff.1 h
    cases h
    obtain ⟨f, hf, rfl⟩ := List.mem_map.1 hr
    exact ⟨f, hf, _, rfl⟩
  · simp only [hread] at h
    obtain ⟨⟨lines, outcomes⟩, u, hlines, h⟩ := bind_ok_iff.1 h
    -- The outcomes are in the order of the lines, and still there is one for each fix.
    have hfixes : ∀ o ∈ outcomes, o.1 ∈ fs := by
      intro o ho
      have hmem : o.1 ∈ fromLastLine fs := by
        rw [← map_fst_of_fixLines hlines]
        exact List.mem_map.2 ⟨o, ho, rfl⟩
      exact (lastLineFirst_fromLastLine fs).perm.mem_iff.1 hmem
    have hanswer : ∀ g : SuggestedFix × Option FixFailure → Option FixFailure,
        r ∈ outcomes.map (fun o => o.1.result (g o)) → ∃ f ∈ fs, ∃ failure, r = f.result failure := by
      intro g hg
      obtain ⟨o, ho, rfl⟩ := List.mem_map.1 hg
      exact ⟨o.1, hfixes o ho, _, rfl⟩
    split at h
    · cases h
      exact hanswer _ hr
    · obtain ⟨written, u', _, h⟩ := bind_ok_iff.1 h
      split at h
      · cases h
        exact hanswer _ hr
      · obtain ⟨_, u'', _, h⟩ := bind_ok_iff.1 h
        cases h
        exact hanswer _ hr

theorem exists_fix_of_applyGroups {groups : List (String × List SuggestedFix)} :
    ∀ {results : List FixResult} {w v : Workspace σ}, applyGroups root groups w = (.ok results, v) →
      ∀ r ∈ results, ∃ group ∈ groups, ∃ f ∈ group.2, ∃ failure, r = f.result failure := by
  induction groups with
  | nil =>
    intro results w v h r hr
    unfold applyGroups at h
    cases h
    cases hr
  | cons group groups ih =>
    intro results w v h r hr
    obtain ⟨source, fs⟩ := group
    unfold applyGroups at h
    obtain ⟨first, u, hfirst, h⟩ := bind_ok_iff.1 h
    obtain ⟨rest, u', hrest, h⟩ := bind_ok_iff.1 h
    cases h
    rcases List.mem_append.1 hr with hr | hr
    · exact ⟨_, List.mem_cons_self .., exists_fix_of_applyFileFixes hfirst r hr⟩
    · obtain ⟨g, hg, hf⟩ := ih hrest r hr
      exact ⟨g, List.mem_cons_of_mem _ hg, hf⟩

/-- **The answers of a batch** are those of its fixes; no redirect is recorded yet. -/
theorem exists_fix_of_applyFixes {fs : List SuggestedFix} {results : List FixResult}
    (h : applyFixes root fs w = (.ok results, v)) :
    ∀ r ∈ results, ∃ f ∈ fs, ∃ failure, r = f.result failure := by
  intro r hr
  unfold applyFixes at h
  obtain ⟨results', u, hgroups, h⟩ := bind_ok_iff.1 h
  obtain ⟨_, u', _, h⟩ := bind_ok_iff.1 h
  cases h
  rw [groupBySource_eq] at hgroups
  obtain ⟨group, hgroup, f, hf, failure, rfl⟩ := exists_fix_of_applyGroups hgroups r hr
  obtain ⟨source, _, rfl⟩ := List.mem_map.1 hgroup
  exact ⟨f, (mem_fixesOf.1 hf).1, failure, rfl⟩

end Fixing

/-! ## Recording redirects -/

section Recording

variable {pairs : List RedirectPair} {w v : Workspace Context}

/-- What is read of a file that was rewritten is the new text. -/
theorem read_put {t : FileTree} {p : FilePath} {place : List String} {text text' content : String}
    {limit limit' : Limit} (hread : t.read p limit = .ok content) (hplace : t.placeOf p = .ok place)
    (h : (t.put place (.file (.text text))).read p limit' = .ok text') : text' = text := by
  obtain ⟨place₀, c, hplace₀, hnode, _, _⟩ := read_eq_ok hread
  rw [hplace] at hplace₀
  cases hplace₀
  obtain ⟨place', c', hplace', hnode', _, hread'⟩ := read_eq_ok h
  rw [(sameShape_put hnode _).placeOf, hplace] at hplace'
  cases hplace'
  rw [node?_put (ne_nil_of_node?_file hnode), if_pos rfl] at hnode'
  cases hnode'
  cases hread'
  rfl

/-- At most the file of the redirects is changed, and it stays a file. The root and the excluded
folders are the same. -/
structure Records (file : Option FilePath) (w v : Workspace Context) : Prop where
  shape : SameShape w.tree v.tree
  kept : ∀ place, (∀ p, file = some p → w.tree.placeOf p ≠ .ok place) →
    v.tree.node? place = w.tree.node? place
  root : v.scope.root = w.scope.root
  excludeDirs : v.scope.excludeDirs = w.scope.excludeDirs

theorem Records.of_same {file : Option FilePath} (htree : v.tree = w.tree)
    (hscope : v.scope = w.scope) : Records file w v := by
  refine ⟨?_, fun place _ => ?_, ?_, ?_⟩
  · rw [htree]; exact .refl _
  · rw [htree]
  · rw [hscope]
  · rw [hscope]

/-- The log and the table in memory do not count. -/
theorem Records.congr {file : Option FilePath} {u : Workspace Context} (h : Records file w u)
    (htree : v.tree = u.tree) (hroot : v.scope.root = u.scope.root)
    (hexclude : v.scope.excludeDirs = u.scope.excludeDirs) : Records file w v := by
  refine ⟨?_, ?_, hroot.trans h.root, hexclude.trans h.excludeDirs⟩
  · rw [htree]; exact h.shape
  · rw [htree]; exact h.kept

/-- A file that was written over is the only one that is changed. -/
theorem Records.of_put {p : FilePath} {content text : String} {place : List String}
    (hread : w.tree.read p defaultLimit = .ok content) (hplace : w.tree.placeOf p = .ok place)
    (hscope : v.scope = w.scope) (htree : v.tree = w.tree.put place (.file (.text text))) :
    Records (some p) w v := by
  obtain ⟨place', _, hplace', hnode, _, _⟩ := read_eq_ok hread
  obtain rfl : place' = place := Except.ok.inj (hplace'.symm.trans hplace)
  refine ⟨?_, fun q hq => ?_, ?_, ?_⟩
  · rw [htree]
    exact sameShape_put hnode _
  · have hother : ¬q = place' := fun heq => hq p rfl (heq ▸ hplace)
    rw [htree, node?_put (ne_nil_of_node?_file hnode), if_neg hother]
  · rw [hscope]
  · rw [hscope]

/-- **What appending to a table has done.** At most its file is changed, and the table that is read
again has the entries of the text that was written. -/
theorem append_cases {table : RedirectTable} {r : Except RedirectFault (RedirectTable × Nat)}
    (h : table.append pairs w = (.ok r, v)) :
    Records table.file w v ∧ v.scope = w.scope ∧
      ∀ table' added, pairs ≠ [] → r = .ok (table', added) →
        ∃ file content, table.file = some file ∧ w.tree.read file defaultLimit = .ok content ∧
          table' = { table with entries := Redirect.parseEntries (Redirect.recorded pairs content) } ∧
          added = pairs.length := by
  by_cases hne : pairs = []
  · subst hne
    cases h
    exact ⟨.of_same rfl rfl, rfl, fun _ _ hne => absurd rfl hne⟩
  · obtain ⟨f, hrefused⟩ | ⟨p, content, place, u, hfile, hread, hplace, -, hscope, htree, hwritten⟩ :=
      append_run table w hne
    · cases hrefused.symm.trans h
      exact ⟨.of_same rfl rfl, rfl, nofun⟩
    · obtain rfl : u = v := congrArg Prod.snd (hwritten.symm.trans h)
      refine ⟨hfile ▸ .of_put hread hplace hscope htree, hscope, fun table' added _ hr => ?_⟩
      have hanswer := Except.ok.inj (congrArg Prod.fst (hwritten.symm.trans h))
      rw [hr, htree] at hanswer
      rcases hreload : RedirectTable.ofFile
          (w.tree.put place (.file (.text (Redirect.recorded pairs content)))) p with f | reloaded
      · rw [hreload] at hanswer
        cases hanswer
      · rw [hreload] at hanswer
        cases hanswer
        obtain ⟨text, hagain, rfl⟩ := ofFile_eq_ok hreload
        exact ⟨p, content, hfile, hread, by rw [← read_put hread hplace hagain]; rfl, rfl⟩

/-- The ways in which recording the redirects of results ends, with the batch and the workspace that it
leaves. -/
inductive RecordingEnds (results : List FixResult) (w : Workspace Context) :
    FixBatch → Workspace Context → Prop
  /-- Nothing is new, or there is no file for it. -/
  | skipped (h : newPairs w.scope.table results = [] ∨ w.scope.table.bind (·.file) = none)
      (log : List LogRecord) : RecordingEnds results w { results } { w with log }
  /-- The append is refused, and the results stay unmarked. -/
  | refused {table : RedirectTable} {f : RedirectFault} {v : Workspace Context}
      (htable : w.scope.table = some table) (hne : newPairs (some table) results ≠ [])
      (happend : table.append (newPairs (some table) results) w = (.ok (.error f), v))
      (log : List LogRecord) : RecordingEnds results w { results } { v with log }
  /-- The table is read again, and the results are marked. -/
  | appended {table table' : RedirectTable} {added : Nat} {v : Workspace Context}
      (htable : w.scope.table = some table) (hne : newPairs (some table) results ≠ [])
      (happend : table.append (newPairs (some table) results) w = (.ok (.ok (table', added)), v)) :
      RecordingEnds results w ⟨markRecorded (newPairs (some table) results) results, added⟩
        { v with scope := { v.scope with table := some table' } }

/-- **Recording redirects** always ends with an answer, in one of these ways. -/
theorem recordRedirects_ends (results : List FixResult) (w : Workspace Context) :
    ∃ batch v, recordRedirects results w = (.ok batch, v) ∧ RecordingEnds results w batch v := by
  unfold recordRedirects
  rw [bind_run_of_ok (scope_run w)]
  by_cases hne : newPairs w.scope.table results = []
  · exact ⟨_, w, by rw [hne]; rfl, .skipped (.inl hne) w.log⟩
  · rw [if_neg (by simpa using hne)]
    rcases htable : w.scope.table with _ | table
    · exact ⟨_, _, rfl, .skipped (.inr (by rw [htable]; rfl)) _⟩
    · rw [htable] at hne
      rcases hfile : table.file with _ | p
      · simp only [Option.bind_some, hfile, Option.map_none]
        exact ⟨_, _, rfl, .skipped (.inr (by rw [htable]; exact hfile)) _⟩
      · simp only [Option.bind_some, hfile, Option.map_some]
        obtain ⟨r, v, happend⟩ := append_answers table w hne
        rw [bind_run_of_ok happend]
        rcases r with f | ⟨table', added⟩
        · exact ⟨_, _, rfl, .refused htable hne happend _⟩
        · exact ⟨_, _, rfl, .appended htable hne happend⟩

variable {results : List FixResult} {batch : FixBatch}

theorem RecordingEnds.of_run (h : recordRedirects results w = (.ok batch, v)) :
    RecordingEnds results w batch v := by
  obtain ⟨_, _, hrun, hends⟩ := recordRedirects_ends results w
  cases hrun.symm.trans h
  exact hends

/-- At most the file of the redirects is changed. -/
theorem RecordingEnds.records (h : RecordingEnds results w batch v) :
    Records (w.scope.table.bind (·.file)) w v := by
  cases h with
  | skipped _ _ => exact .of_same rfl rfl
  | refused htable _ happend _ =>
    rw [htable]
    exact (append_cases happend).1.congr rfl rfl rfl
  | appended htable _ happend =>
    rw [htable]
    exact (append_cases happend).1.congr rfl rfl rfl

/-- The table is that of the same file. -/
theorem RecordingEnds.file_eq (h : RecordingEnds results w batch v) :
    v.scope.table.bind (·.file) = w.scope.table.bind (·.file) := by
  cases h with
  | skipped _ _ => rfl
  | refused _ _ happend _ =>
    obtain ⟨-, hscope, -⟩ := append_cases happend
    rw [← hscope]
  | appended htable hne happend =>
    obtain ⟨-, -, hreloaded⟩ := append_cases happend
    obtain ⟨_, _, -, -, rfl, -⟩ := hreloaded _ _ hne rfl
    rw [htable, Option.bind_some, Option.bind_some]

/-- **What recording redirects has done.** At most the file of the redirects is changed, and either the
results are as they were or the table was read again and the results are marked. -/
theorem recordRedirects_cases (h : recordRedirects results w = (.ok batch, v)) :
    Records (w.scope.table.bind (·.file)) w v ∧
      (batch.results = results ∧ batch.redirectsAdded = 0 ∨
        ∃ table table' file content, w.scope.table = some table ∧ table.file = some file ∧
          w.tree.read file defaultLimit = .ok content ∧ v.scope.table = some table' ∧
          table'.entries
            = Redirect.parseEntries (Redirect.recorded (newPairs (some table) results) content) ∧
          batch.results = markRecorded (newPairs (some table) results) results) := by
  have hends := RecordingEnds.of_run h
  refine ⟨hends.records, ?_⟩
  cases hends with
  | skipped _ _ => exact .inl ⟨rfl, rfl⟩
  | refused _ _ _ _ => exact .inl ⟨rfl, rfl⟩
  | appended htable hne happend =>
    obtain ⟨-, -, hreloaded⟩ := append_cases happend
    obtain ⟨file, content, hfile, hread, hreload, -⟩ := hreloaded _ _ hne rfl
    exact .inr ⟨_, _, file, content, htable, hfile, hread, rfl, by rw [hreload], rfl⟩

end Recording

/-! ## Marking results -/

/-- A result, marked if its redirect was recorded. -/
def FixResult.marked (recorded : List RedirectPair) (r : FixResult) : FixResult :=
  if r.success ∧ recorded.contains r.redirectPair then { r with redirectAdded := true } else r

theorem markRecorded_eq (recorded : List RedirectPair) (results : List FixResult) :
    markRecorded recorded results = results.map (FixResult.marked recorded) := rfl

theorem success_marked (recorded : List RedirectPair) (r : FixResult) :
    (r.marked recorded).success = r.success := by
  unfold FixResult.marked
  split <;> rfl

theorem redirectPair_marked (recorded : List RedirectPair) (r : FixResult) :
    (r.marked recorded).redirectPair = r.redirectPair := by
  unfold FixResult.marked
  split <;> rfl

/-- Marking results changes neither which fixes were applied nor the redirects they call for. -/
theorem newPairs_markRecorded (table : Option RedirectTable) (recorded : List RedirectPair)
    (results : List FixResult) :
    newPairs table (markRecorded recorded results) = newPairs table results := by
  have happlied : ((markRecorded recorded results).filter (·.success)).map FixResult.redirectPair
      = (results.filter (·.success)).map FixResult.redirectPair := by
    rw [markRecorded_eq, List.filter_map, List.map_map]
    refine congrArg₂ List.map (funext (redirectPair_marked recorded)) ?_
    exact List.filter_congr fun r _ => success_marked recorded r
  unfold newPairs redirectPairs
  rw [happlied]

/-- A result that is marked calls for one of the recorded redirects. -/
theorem redirectPair_mem_of_marked {recorded : List RedirectPair} {results : List FixResult}
    (hnone : ∀ r ∈ results, r.redirectAdded = false) {r : FixResult}
    (hr : r ∈ markRecorded recorded results) (hadded : r.redirectAdded = true) :
    r.redirectPair ∈ recorded := by
  rw [markRecorded_eq] at hr
  obtain ⟨r₀, hr₀, rfl⟩ := List.mem_map.1 hr
  rw [redirectPair_marked]
  unfold FixResult.marked at hadded
  split at hadded
  · rename_i hmarked
    exact List.contains_iff_mem.1 hmarked.2
  · rw [hnone r₀ hr₀] at hadded
    cases hadded

/-! ## A batch -/

section Batch

variable {fs : List SuggestedFix} {wanted : Bool} {w v : Workspace Context} {batch : FixBatch}

/-- A batch that recorded redirects: `table` is what the context had, `table'` what it has now, `file`
the file of both, and `content` the text that was found there. -/
structure Recorded (table table' : RedirectTable) (file : FilePath) (content : String)
    (fs : List SuggestedFix) (w v : Workspace Context) (batch : FixBatch) : Prop where
  before : w.scope.table = some table
  file_eq : table.file = some file
  read_eq : (applyFixes w.scope.root fs w).2.tree.read file defaultLimit = .ok content
  after : v.scope.table = some table'
  reloaded : table'.entries
    = Redirect.parseEntries (Redirect.recorded (newPairs (some table) batch.results) content)
  marked : ∀ r ∈ batch.results, r.redirectAdded = true →
    r.redirectPair ∈ newPairs (some table) batch.results

/-- A batch is a batch of fixes, and then the recording of its redirects if they are wanted. -/
theorem applyFixesWithRedirects_eq (fs : List SuggestedFix) (wanted : Bool) (w : Workspace Context) :
    applyFixesWithRedirects fs wanted w = match applyFixes w.scope.root fs w with
      | (.ok results, u) => (if wanted then recordRedirects results else pure { results }) u
      | (.error f, u) => (.error f, u) := by
  unfold applyFixesWithRedirects
  rw [bind_run_of_ok (scope_run w), bind_run]
  rcases applyFixes w.scope.root fs w with ⟨f | results, u⟩ <;> rfl

theorem exists_results_of_batch (h : applyFixesWithRedirects fs wanted w = (.ok batch, v)) :
    ∃ results u, applyFixes w.scope.root fs w = (.ok results, u) ∧
      (if wanted then recordRedirects results else pure { results }) u = (.ok batch, v) := by
  rw [applyFixesWithRedirects_eq] at h
  rcases hfixes : applyFixes w.scope.root fs w with ⟨f | results, u⟩
  · rw [hfixes] at h
    cases h
  · rw [hfixes] at h
    exact ⟨results, u, rfl, h⟩

/-- **What a batch has done to the table.** It recorded redirects, or it marked no result. -/
theorem applyFixesWithRedirects_cases (h : applyFixesWithRedirects fs wanted w = (.ok batch, v)) :
    (∃ table table' file content, Recorded table table' file content fs w v batch) ∨
      batch.redirectsAdded = 0 ∧ ∀ r ∈ batch.results, r.redirectAdded = false := by
  obtain ⟨results, u, hfixes, h⟩ := exists_results_of_batch h
  have hscope : u.scope = w.scope := (sameScope_applyFixes _ _).of_run hfixes
  have hnone : ∀ r ∈ results, r.redirectAdded = false := by
    intro r hr
    obtain ⟨f, _, failure, rfl⟩ := exists_fix_of_applyFixes hfixes r hr
    rfl
  split at h
  · obtain ⟨-, ⟨hsame, hzero⟩ | ⟨table, table', file, content, htable, hfile, hread, htable', hentries,
      hmarked⟩⟩ := recordRedirects_cases h
    · exact .inr ⟨hzero, hsame ▸ hnone⟩
    · -- Marking changes no redirect, so the recorded ones can be told from the answers.
      refine .inl ⟨table, table', file, content, hscope ▸ htable, hfile, by rw [hfixes]; exact hread,
        htable', ?_, fun r hr hadded => ?_⟩
      · rw [hmarked, newPairs_markRecorded, hentries]
      · rw [hmarked] at hr
        rw [hmarked, newPairs_markRecorded]
        exact redirectPair_mem_of_marked hnone hr hadded
  · cases h
    exact .inr ⟨rfl, hnone⟩

/-- The destinations of a table by the pairs of its entries. -/
theorem RedirectTable.fromTo_eq (table : RedirectTable) :
    table.fromTo
      = Assoc.ofList ((table.entries.map RedirectEntry.pair).map fun p => (p.source, p.destination)) := by
  unfold RedirectTable.fromTo
  rw [List.map_map]
  rfl

/-- What the table of a context is after a batch that recorded redirects. -/
structure RecordsRedirects (table table' : RedirectTable) (batch : FixBatch) : Prop where
  /-- The entries are the old ones in their order and, in one place among them, the recorded ones. -/
  entries : ∃ before after, table.entries.map RedirectEntry.pair = before ++ after ∧
    table'.entries.map RedirectEntry.pair
      = before ++ newPairs (some table) batch.results ++ after
  /-- No source loses its destination. -/
  kept : ∀ key destination, table.fromTo.get? key = some destination →
    table'.fromTo.get? key = some destination
  /-- The redirect of a marked result is in the table. -/
  found : ∀ r ∈ batch.results, r.redirectAdded = true →
    ∃ e ∈ table'.entries, e.rawFrom = redirectSource r.link ∧ e.rawTo = r.newPath

/-- Redirects are recorded for sources that the table does not have. -/
theorem get?_fromTo_of_mem_newPairs {table : RedirectTable} {results : List FixResult}
    {p : RedirectPair} (h : p ∈ newPairs (some table) results) :
    table.fromTo.get? p.source = none := by
  have hnot := (List.mem_filter.1 h).2
  simpa [RedirectTable.hasSource] using hnot

/-- If the entries are the old and the recorded ones, then no source loses its destination and every
marked redirect is there. -/
theorem RecordsRedirects.of_entries {table table' : RedirectTable} {before after : List RedirectPair}
    (hold : table.entries.map RedirectEntry.pair = before ++ after)
    (hnew : table'.entries.map RedirectEntry.pair
      = before ++ newPairs (some table) batch.results ++ after)
    (hmarked : ∀ r ∈ batch.results, r.redirectAdded = true →
      r.redirectPair ∈ newPairs (some table) batch.results) :
    RecordsRedirects table table' batch := by
  refine ⟨⟨before, after, hold, hnew⟩, fun key destination hget => ?_, fun r hr hadded => ?_⟩
  · -- A new redirect has a source that the table did not have, so it hides no old one.
    have hne : ∀ p ∈ newPairs (some table) batch.results, p.source ≠ key := by
      rintro p hp rfl
      rw [get?_fromTo_of_mem_newPairs hp] at hget
      cases hget
    rw [RedirectTable.fromTo_eq, hold] at hget
    rw [RedirectTable.fromTo_eq, hnew, List.map_append, List.map_append, Assoc.get?_ofList_append,
      ← List.map_append, hget]
    intro q hq
    obtain ⟨p, hp, rfl⟩ := List.mem_map.1 hq
    exact hne p hp
  · have hmem : r.redirectPair ∈ table'.entries.map RedirectEntry.pair := by
      rw [hnew]
      exact List.mem_append_left _ (List.mem_append_right _ (hmarked r hr hadded))
    obtain ⟨e, he, heq⟩ := List.mem_map.1 hmem
    exact ⟨e, he, congrArg (·.source) heq, congrArg (·.destination) heq⟩

/-- The entries after recording, if the file still had the entries of the table. -/
theorem Recorded.recordsRedirects_iff {table table' : RedirectTable} {file : FilePath} {content : String}
    (h : Recorded table table' file content fs w v batch)
    (hentries : table.entries = Redirect.parseEntries content) :
    RecordsRedirects table table' batch ↔
      ∀ p ∈ newPairs (some table) batch.results, p.Recordable := by
  rw [← Redirect.addsPairs_recorded_iff content]
  unfold Redirect.AddsPairs
  rw [← hentries, ← h.reloaded]
  constructor
  · intro hrec
    exact hrec.entries
  · rintro ⟨before, after, hold, hnew⟩
    exact RecordsRedirects.of_entries hold hnew h.marked

/-- **Redirects of a batch.** If the file still has the text that the table was read from when the
redirects are recorded there, then the table has its old entries and the recorded ones and no source has
lost its destination; it is so exactly if every recorded redirect is one that a line can say. -/
theorem applyFixesWithRedirects_recordsRedirects {table : RedirectTable} {file : FilePath}
    {content : String} (htable : w.scope.table = some table) (hfile : table.file = some file)
    (hentries : table.entries = Redirect.parseEntries content)
    (hread : (applyFixes w.scope.root fs w).2.tree.read file defaultLimit = .ok content)
    (hrun : applyFixesWithRedirects fs wanted w = (.ok batch, v)) (hadded : batch.redirectsAdded ≠ 0) :
    ∃ table', v.scope.table = some table' ∧ (RecordsRedirects table table' batch ↔
      ∀ p ∈ newPairs (some table) batch.results, p.Recordable) := by
  rcases applyFixesWithRedirects_cases hrun with ⟨table₀, table', file₀, content₀, hrec⟩ | ⟨hzero, _⟩
  · obtain rfl : table₀ = table := Option.some.inj (hrec.before.symm.trans htable)
    obtain rfl : file₀ = file := Option.some.inj (hrec.file_eq.symm.trans hfile)
    obtain rfl : content₀ = content := Except.ok.inj (hrec.read_eq.symm.trans hread)
    exact ⟨table', hrec.after, hrec.recordsRedirects_iff hentries⟩
  · exact absurd hzero hadded

end Batch

/-! ## A project with a redirect -/

/-- A table of one redirect, read from `/p/.gitbook.yaml`. -/
def oneRedirect : RedirectTable :=
  .ofText "redirects:\n  a: b.md\n" (some (.ofString "/p/.gitbook.yaml"))

/-- A project at `/p` with that redirect and one page, which is given. -/
def redirectProject (page : String) : Workspace Context where
  tree :=
    { nodes :=
        [(["p"], .folder), (["p", ".gitbook.yaml"], .file (.text "redirects:\n  a: b.md\n")),
          (["p", "b.md"], .file (.text "")), (["p", "new.md"], .file (.text "")),
          (["p", "d.md"], .file (.text page))]
      cwd := ["p"]
      home := [] }
  scope :=
    { root := .ofString "/p"
      excludeDirs := []
      table := some oneRedirect }

/-- A fix of the page that makes a link to `target` one to `new.md`. -/
def toNewPage (target : String) : SuggestedFix where
  broken := ⟨"d.md", ⟨"[x](" ++ target ++ ")", "x", target, none, 1, 1, .internal⟩, some target,
    notFound target, notFound_ne target⟩
  suggestion := ⟨.high, "new.md", "", none⟩

theorem applyFixesWithRedirects_recordsRedirects_onePage :
    ∃ batch v table',
      applyFixesWithRedirects [toNewPage "old.md"] true (redirectProject "[x](old.md)")
          = (.ok batch, v) ∧
        batch.redirectsAdded = 1 ∧ v.scope.table = some table' ∧
        RecordsRedirects oneRedirect table' batch := by
  obtain ⟨batch, v, hrun, hview⟩ := Work.exists_of_view
    (x := applyFixesWithRedirects [toNewPage "old.md"] true) (w := redirectProject "[x](old.md)")
    (f := fun batch _ => (batch.redirectsAdded, newPairs (some oneRedirect) batch.results))
    (c := (1, [⟨"old", "new.md"⟩])) (by decide +kernel)
  obtain ⟨hadded, hpairs⟩ := Prod.mk.inj hview
  have hread : (applyFixes (.ofString "/p") [toNewPage "old.md"]
      (redirectProject "[x](old.md)")).2.tree.read (.ofString "/p/.gitbook.yaml") defaultLimit
        = .ok "redirects:\n  a: b.md\n" := Work.eq_ok_of_toOption (by decide +kernel)
  obtain ⟨table', htable', hiff⟩ := applyFixesWithRedirects_recordsRedirects
    (show (redirectProject "[x](old.md)").scope.table = some oneRedirect from rfl)
    (show oneRedirect.file = some (.ofString "/p/.gitbook.yaml") from rfl) rfl hread hrun
    (by rw [hadded]; decide)
  refine ⟨batch, v, table', hrun, hadded, htable', hiff.2 ?_⟩
  rw [hpairs]
  decide +kernel

/-- The redirect of a target with a colon is read as another destination of what precedes the colon. -/
theorem colon_in_target_replaces_destination :
    ∃ batch v table',
      applyFixesWithRedirects [toNewPage "a:c.md"] true (redirectProject "[x](a:c.md)")
          = (.ok batch, v) ∧
        (applyFixes (.ofString "/p") [toNewPage "a:c.md"]
          (redirectProject "[x](a:c.md)")).2.tree.read (.ofString "/p/.gitbook.yaml") defaultLimit
            = .ok "redirects:\n  a: b.md\n" ∧
        batch.redirectsAdded = 1 ∧ v.scope.table = some table' ∧
        oneRedirect.fromTo.get? "a" = some "b.md" ∧ table'.fromTo.get? "a" = some "c: new.md" ∧
        (∃ r ∈ batch.results, r.redirectAdded = true ∧ redirectSource r.link = "a:c" ∧
          ∀ e ∈ table'.entries, e.rawFrom ≠ "a:c") ∧
        ¬RecordsRedirects oneRedirect table' batch := by
  obtain ⟨batch, v, hrun, hview⟩ := Work.exists_of_view
    (x := applyFixesWithRedirects [toNewPage "a:c.md"] true) (w := redirectProject "[x](a:c.md)")
    (f := fun batch v => (batch.redirectsAdded,
      batch.results.map fun r => (r.redirectAdded, redirectSource r.link),
      v.scope.table.map fun table => (table.fromTo.get? "a", table.entries.map (·.rawFrom))))
    (c := (1, [(true, "a:c")], some (some "c: new.md", ["a", "a"]))) (by decide +kernel)
  simp only [Prod.mk.injEq] at hview
  obtain ⟨hadded, hmarked, htable⟩ := hview
  obtain ⟨table', htable', hentries⟩ := Option.map_eq_some_iff.1 htable
  obtain ⟨hget, hsources⟩ := Prod.mk.inj hentries
  have hold : oneRedirect.fromTo.get? "a" = some "b.md" := by decide +kernel
  obtain ⟨r, hr, hrmarked⟩ := List.mem_map.1 (hmarked ▸ List.mem_singleton.2 rfl)
  obtain ⟨hradded, hrsource⟩ := Prod.mk.inj hrmarked
  have hread : (applyFixes (.ofString "/p") [toNewPage "a:c.md"]
      (redirectProject "[x](a:c.md)")).2.tree.read (.ofString "/p/.gitbook.yaml") defaultLimit
        = .ok "redirects:\n  a: b.md\n" := Work.eq_ok_of_toOption (by decide +kernel)
  refine ⟨batch, v, table', hrun, hread, hadded, htable', hold, hget, ⟨r, hr, hradded, hrsource,
    fun e he hsource => ?_⟩, fun h => ?_⟩
  · have hmem : "a:c" ∈ table'.entries.map (·.rawFrom) := hsource ▸ List.mem_map.2 ⟨e, he, rfl⟩
    rw [hsources] at hmem
    revert hmem
    decide
  · have hkept := h.kept "a" "b.md" hold
    rw [hget] at hkept
    revert hkept
    decide

end DocLinks
