import DocLinks.Proofs.Fix.OneByOne
import DocLinks.Proofs.Redirect.Batches

/-!
# The books of a batch

What a batch of fixes says of itself. Every fix is counted once, as applied or as not, and the number of
redirects is that of the different ones that its results are marked for; a marked result was applied, and
its source is a new key of the table (`Balanced`). A batch that records no redirect, because none is
wanted, because there is no file or nothing new for it, or because the append is refused, answers what
fixing documents alone answers. Its files are those that fixing documents leaves, with the exception that
an append has: the file of the table is written before it is found to be too large
(`applyFixesWithRedirects_balanced`).

## Contents
- `applyFixes_answers`: there is one result for each fix.
- `RecordsNothing`, `FixesAlone`, `RecordingOutgrows`: batches that record no redirect.
- `recordRedirects_outcome`: what recording redirects comes to.
-/

namespace DocLinks

open Text FileTree Work

/-! ## One result for each fix -/

section Results

variable {σ : Type}

theorem length_documentResults (t : FileTree) (root : FilePath) (source : String)
    (fs : List SuggestedFix) : (documentResults t root source fs).length = fs.length := by
  have hattempts := congrArg List.length (map_attempt_documentResults t root source fs)
  rwa [List.length_map, List.length_map, length_answerOrder] at hattempts

theorem applyGroups_answers (root : FilePath) {groups : List (String × List SuggestedFix)} :
    ∀ (_ : ∀ group ∈ groups, ∀ f ∈ group.2, f.suggestion.suggestedPath ≠ "") (w : Workspace σ),
      ∃ results v, applyGroups root groups w = (.ok results, v) ∧
        results.length = (groups.map (·.2.length)).sum := by
  induction groups with
  | nil => exact fun _ w => ⟨[], w, rfl, rfl⟩
  | cons group groups ih =>
    intro hpaths w
    obtain ⟨source, fs⟩ := group
    obtain ⟨log, hfirst⟩ := applyFileFixes_run root source fs (hpaths _ (List.mem_cons_self ..)) w
    obtain ⟨rest, v, hrest, hlength⟩ := ih (fun group hgroup => hpaths group (.tail _ hgroup)) _
    unfold applyGroups
    rw [bind_run_of_ok hfirst, bind_run_of_ok hrest]
    refine ⟨_, v, rfl, ?_⟩
    rw [List.length_append, length_documentResults, hlength, List.map_cons, List.sum_cons]

/-- **A batch of fixes is answered**, whatever the files are, with one result for each fix. -/
theorem applyFixes_answers (root : FilePath) {fs : List SuggestedFix}
    (hpaths : ∀ f ∈ fs, f.suggestion.suggestedPath ≠ "") (w : Workspace σ) :
    ∃ results v, applyFixes root fs w = (.ok results, v) ∧ results.length = fs.length := by
  have hgroups : ∀ group ∈ groupBySource fs, ∀ f ∈ group.2, f.suggestion.suggestedPath ≠ "" := by
    rw [groupBySource_eq]
    intro group hgroup f hf
    obtain ⟨source, -, rfl⟩ := List.mem_map.1 hgroup
    exact hpaths f (mem_fixesOf.1 hf).1
  obtain ⟨results, v, hrun, hlength⟩ := applyGroups_answers root hgroups w
  unfold applyFixes
  rw [bind_run_of_ok hrun]
  refine ⟨results, _, rfl, ?_⟩
  unfold groupBySource at hlength
  rw [hlength, Assoc.sum_length_group, List.length_map]

end Results

/-! ## Recording nothing -/

/-- Why a batch records no redirect. `u` is the workspace after its fixes. -/
inductive RecordsNothing (wanted : Bool) (results : List FixResult) (u : Workspace Context) : Prop
  | unwanted (h : wanted = false)
  | noFile (h : u.scope.table.bind (·.file) = none)
  | nothingNew (h : newPairs u.scope.table results = [])
  | refused {table : RedirectTable} {f : RedirectFault} {v : Workspace Context}
      (htable : u.scope.table = some table)
      (h : table.append (newPairs u.scope.table results) u = (.ok (.error f), v))

/-- The redirects of a batch take the file of the table beyond the limit of the reader. -/
def RecordingOutgrows (wanted : Bool) (results : List FixResult) (u : Workspace Context) : Prop :=
  wanted = true ∧ newPairs u.scope.table results ≠ [] ∧
    ∃ table, u.scope.table = some table ∧ Outgrows table (newPairs u.scope.table results) u

/-- A batch is as if no redirect had been asked for. `u` is the workspace after its fixes, `v` the one
after the batch. -/
structure FixesAlone (wanted : Bool) (results : List FixResult) (u v : Workspace Context)
    (batch : FixBatch) : Prop where
  added : batch.redirectsAdded = 0
  results_eq : batch.results = results
  unmarked : ∀ r ∈ batch.results, r.redirectAdded = false
  /-- The files are as the fixes have left them, -/
  tree_eq : ¬RecordingOutgrows wanted results u → v.tree = u.tree
  /-- or that of the table was written before it was found to be too large. -/
  changed : RecordingOutgrows wanted results u → ∃ p, u.scope.table.bind (·.file) = some p ∧
    v.tree.stat p ≠ u.tree.stat p
  /-- No other file is changed by that. -/
  records : Records (u.scope.table.bind (·.file)) u v

section Recording

variable {results : List FixResult} {u v : Workspace Context} {table : RedirectTable} {p : FilePath}
  {wanted : Bool}

theorem FixesAlone.of_same (hunmarked : ∀ r ∈ results, r.redirectAdded = false)
    (htree : v.tree = u.tree) (hscope : v.scope = u.scope)
    (houtgrows : ¬RecordingOutgrows wanted results u) : FixesAlone wanted results u v { results } :=
  ⟨rfl, rfl, hunmarked, fun _ => htree, fun h => absurd h houtgrows, .of_same htree hscope⟩

/-- **What recording redirects comes to**: nothing is recorded, for one of the reasons, or all the new
redirects are. -/
theorem recordRedirects_outcome (hunmarked : ∀ r ∈ results, r.redirectAdded = false)
    (u : Workspace Context) :
    ∃ batch v, recordRedirects results u = (.ok batch, v) ∧
      (FixesAlone true results u v batch ∨
        ¬RecordsNothing true results u ∧
          batch = ⟨markRecorded (newPairs u.scope.table results) results,
            (newPairs u.scope.table results).length⟩) := by
  obtain ⟨batch, v, hrun, hends⟩ := recordRedirects_ends results u
  have hrecords := hends.records
  refine ⟨batch, v, hrun, ?_⟩
  cases hends with
  | skipped h log =>
    refine .inl (.of_same hunmarked rfl rfl ?_)
    rintro ⟨-, hnew, table, htable, p, -, hfile, -⟩
    rcases h with h | h
    · exact hnew h
    · rw [htable, Option.bind_some, hfile] at h
      cases h
  | @refused table f w htable hnew happend log =>
    left
    rw [← htable] at hnew happend
    by_cases houtgrows : Outgrows table (newPairs u.scope.table results) u
    · -- The file is written, and then the append is refused.
      obtain ⟨_, _, p, happend', -, hfile, hchanged⟩ := append_of_outgrows houtgrows hnew
      cases happend.symm.trans happend'
      refine ⟨rfl, rfl, hunmarked, fun hnot => ?_, fun _ => ?_, hrecords⟩
      · exact absurd ⟨rfl, hnew, table, htable, houtgrows⟩ hnot
      · rw [htable]
        exact ⟨p, hfile, hchanged⟩
    · obtain ⟨_, _, happend', hscope, hall⟩ := allOrNothing_of_not_outgrows hnew houtgrows
      cases happend.symm.trans happend'
      refine .of_same hunmarked (hall.refused f rfl) hscope ?_
      rintro ⟨-, -, table', htable', houtgrows'⟩
      obtain rfl : table = table' := Option.some.inj (htable.symm.trans htable')
      exact houtgrows houtgrows'
  | @appended table table' added w htable hnew happend =>
    rw [← htable] at hnew happend ⊢
    have hfits : ¬Outgrows table (newPairs u.scope.table results) u := fun houtgrows => by
      obtain ⟨_, _, _, happend', -⟩ := append_of_outgrows houtgrows hnew
      cases happend.symm.trans happend'
    obtain ⟨_, _, happend', -, hall⟩ := allOrNothing_of_not_outgrows hnew hfits
    cases happend.symm.trans happend'
    obtain ⟨rfl, _, _, _, hfile, -⟩ := hall.answered table' added rfl
    refine .inr ⟨fun hnothing => ?_, rfl⟩
    cases hnothing with
    | unwanted h => cases h
    | noFile h =>
      rw [htable, Option.bind_some, hfile] at h
      cases h
    | nothingNew h => exact hnew h
    | refused htable' h =>
      obtain rfl := Option.some.inj (htable.symm.trans htable')
      cases happend.symm.trans h

end Recording

/-! ## The books -/

/-- The books of a batch balance. `table` is the table before the batch. -/
structure Balanced (fs : List SuggestedFix) (table : Option RedirectTable) (batch : FixBatch) : Prop where
  /-- Every fix is counted, and once. -/
  counts : batch.fixedCount + batch.failedCount = fs.length
  /-- The redirects are counted by the different pairs of the marked results. -/
  added : batch.redirectsAdded
    = ((batch.results.filter (·.redirectAdded)).map FixResult.redirectPair).eraseDups.length
  /-- A marked result was applied, and its source neither leads upwards nor was a key of the table. -/
  marked : ∀ r ∈ batch.results, r.redirectAdded = true → r.success = true ∧
    containsWord "..".toList (redirectSource r.link).toList = false ∧
    ∀ t, table = some t → t.fromTo.get? (redirectSource r.link) = none

section Books

variable {fs : List SuggestedFix} {results : List FixResult} {table : Option RedirectTable}

theorem fixedCount_add_failedCount (batch : FixBatch) :
    batch.fixedCount + batch.failedCount = batch.results.length :=
  (List.length_eq_length_filter_add _).symm

/-- A redirect to be recorded is that of an applied fix. -/
theorem mem_newPairs {p : RedirectPair} (h : p ∈ newPairs table results) :
    (∃ r ∈ results, r.success = true ∧ r.redirectPair = p) ∧
      containsWord "..".toList p.source.toList = false ∧
      ∀ t, table = some t → t.fromTo.get? p.source = none := by
  obtain ⟨hpair, hnew⟩ := List.mem_filter.1 h
  obtain ⟨happlied, hup⟩ := List.mem_filter.1 (List.mem_eraseDups.1 hpair)
  obtain ⟨r, hr, rfl⟩ := List.mem_map.1 happlied
  obtain ⟨hr, hsuccess⟩ := List.mem_filter.1 hr
  refine ⟨⟨r, hr, hsuccess, rfl⟩, by simpa using hup, ?_⟩
  rintro t rfl
  exact get?_fromTo_of_mem_newPairs h

theorem nodup_newPairs (table : Option RedirectTable) (results : List FixResult) :
    (newPairs table results).Nodup :=
  (nodup_eraseDups _).filter _

/-- Which results are marked. -/
theorem redirectAdded_marked_iff {recorded : List RedirectPair} {r : FixResult}
    (h : r.redirectAdded = false) :
    (r.marked recorded).redirectAdded = true ↔ r.success = true ∧ r.redirectPair ∈ recorded := by
  unfold FixResult.marked
  rw [← List.contains_iff_mem]
  split
  · rename_i hmarked
    exact iff_of_true rfl hmarked
  · rename_i hnot
    exact iff_of_false (by simp [h]) hnot

/-- The pairs of the marked results are the recorded ones. -/
theorem mem_pairs_markRecorded_iff (hunmarked : ∀ r ∈ results, r.redirectAdded = false)
    (p : RedirectPair) :
    p ∈ ((markRecorded (newPairs table results) results).filter (·.redirectAdded)).map
        FixResult.redirectPair ↔ p ∈ newPairs table results := by
  rw [markRecorded_eq, List.mem_map]
  constructor
  · rintro ⟨r, hr, rfl⟩
    obtain ⟨hmem, hadded⟩ := List.mem_filter.1 hr
    obtain ⟨r₀, hr₀, rfl⟩ := List.mem_map.1 hmem
    rw [redirectPair_marked]
    exact ((redirectAdded_marked_iff (hunmarked r₀ hr₀)).1 hadded).2
  · intro hp
    obtain ⟨⟨r, hr, hsuccess, rfl⟩, -⟩ := mem_newPairs hp
    refine ⟨r.marked _, List.mem_filter.2 ⟨List.mem_map_of_mem hr, ?_⟩, redirectPair_marked _ r⟩
    exact (redirectAdded_marked_iff (hunmarked r hr)).2 ⟨hsuccess, hp⟩

theorem Balanced.of_unmarked (hunmarked : ∀ r ∈ results, r.redirectAdded = false)
    (hlength : results.length = fs.length) : Balanced fs table { results } where
  counts := by rw [fixedCount_add_failedCount, hlength]
  added := by
    have hnone : results.filter (·.redirectAdded) = [] :=
      List.filter_eq_nil_iff.2 fun r hr => by simp [hunmarked r hr]
    rw [hnone]
    rfl
  marked r hr hadded := by
    rw [hunmarked r hr] at hadded
    cases hadded

/-- **The books balance** when the new redirects are recorded and the results are marked for them. -/
theorem Balanced.of_recorded (hunmarked : ∀ r ∈ results, r.redirectAdded = false)
    (hlength : results.length = fs.length) :
    Balanced fs table ⟨markRecorded (newPairs table results) results, (newPairs table results).length⟩ where
  counts := by rw [fixedCount_add_failedCount, markRecorded_eq, List.length_map, hlength]
  added := by
    refine List.Perm.length_eq ((List.perm_ext_iff_of_nodup (nodup_newPairs table results)
      (nodup_eraseDups _)).2 fun p => ?_)
    rw [List.mem_eraseDups, mem_pairs_markRecorded_iff hunmarked]
  marked r hr hadded := by
    rw [markRecorded_eq] at hr
    obtain ⟨r₀, hr₀, rfl⟩ := List.mem_map.1 hr
    obtain ⟨hsuccess, hpair⟩ := (redirectAdded_marked_iff (hunmarked r₀ hr₀)).1 hadded
    obtain ⟨-, hup, hnew⟩ := mem_newPairs hpair
    have hsource : redirectSource (r₀.marked (newPairs table results)).link = redirectSource r₀.link :=
      congrArg (·.source) (redirectPair_marked _ r₀)
    rw [success_marked, hsource]
    exact ⟨hsuccess, hup, hnew⟩

/-- A batch with redirects is a batch of fixes, of which no result is marked, and the recording of its
redirects if they are wanted. -/
theorem applyFixesWithRedirects_run (hpaths : ∀ f ∈ fs, f.suggestion.suggestedPath ≠ "") (wanted : Bool)
    (w : Workspace Context) :
    ∃ results u, applyFixes w.scope.root fs w = (.ok results, u) ∧ u.scope = w.scope ∧
      results.length = fs.length ∧ (∀ r ∈ results, r.redirectAdded = false) ∧
      applyFixesWithRedirects fs wanted w
        = (if wanted then recordRedirects results else pure { results }) u := by
  obtain ⟨results, u, hfixes, hlength⟩ := applyFixes_answers w.scope.root hpaths w
  refine ⟨results, u, hfixes, (sameScope_applyFixes _ _).of_run hfixes, hlength, fun r hr => ?_, ?_⟩
  · obtain ⟨f, -, failure, rfl⟩ := exists_fix_of_applyFixes hfixes r hr
    rfl
  · rw [applyFixesWithRedirects_eq, hfixes]

/-- **The books of a batch.** Fixing documents and fixing them with redirects are always answered, and the
books of the batch balance. If the batch records nothing, it is as if no redirect had been asked for. -/
theorem applyFixesWithRedirects_balanced (hpaths : ∀ f ∈ fs, f.suggestion.suggestedPath ≠ "")
    (wanted : Bool) (w : Workspace Context) :
    ∃ results u batch v, applyFixes w.scope.root fs w = (.ok results, u) ∧ u.scope = w.scope ∧
      applyFixesWithRedirects fs wanted w = (.ok batch, v) ∧ Balanced fs w.scope.table batch ∧
      (RecordsNothing wanted results u → FixesAlone wanted results u v batch) := by
  obtain ⟨results, u, hfixes, hscope, hlength, hunmarked, hrun⟩ :=
    applyFixesWithRedirects_run hpaths wanted w
  rcases wanted with _ | _
  · refine ⟨results, u, _, _, hfixes, hscope, hrun, .of_unmarked hunmarked hlength, fun _ => ?_⟩
    exact .of_same hunmarked rfl rfl fun houtgrows => Bool.false_ne_true houtgrows.1
  · obtain ⟨batch, v, hrecord, halone | ⟨hrecorded, rfl⟩⟩ := recordRedirects_outcome hunmarked u
    · refine ⟨results, u, batch, v, hfixes, hscope, hrun.trans hrecord, ?_, fun _ => halone⟩
      obtain ⟨batchResults, added⟩ := batch
      obtain rfl : batchResults = results := halone.results_eq
      obtain rfl : added = 0 := halone.added
      exact .of_unmarked hunmarked hlength
    · refine ⟨results, u, _, v, hfixes, hscope, hrun.trans hrecord, ?_, fun h => absurd h hrecorded⟩
      rw [hscope]
      exact .of_recorded hunmarked hlength

end Books

theorem applyFixesWithRedirects_balanced_onePage :
    (toNewPage "old.md").suggestion.suggestedPath ≠ "" ∧ ∃ batch v,
      applyFixesWithRedirects [toNewPage "old.md"] true (redirectProject "[x](old.md)") = (.ok batch, v) ∧
        batch.redirectsAdded = 1 ∧ Balanced [toNewPage "old.md"] (some oneRedirect) batch := by
  have hpath : (toNewPage "old.md").suggestion.suggestedPath ≠ "" := by decide
  obtain ⟨_, _, batch, v, -, -, hrun, hbalanced, -⟩ := applyFixesWithRedirects_balanced
    (List.forall_mem_singleton.2 hpath) true (redirectProject "[x](old.md)")
  obtain ⟨batch', v', hrun', hadded⟩ := Work.exists_of_view
    (x := applyFixesWithRedirects [toNewPage "old.md"] true) (w := redirectProject "[x](old.md)")
    (f := fun batch _ => batch.redirectsAdded) (c := 1) (by decide +kernel)
  rw [hrun] at hrun'
  cases hrun'
  exact ⟨hpath, batch, v, hrun, hadded, hbalanced⟩

/-! ## A page that is the file of the redirects -/

/-- A line of 64 bytes, its end counted, with a link. -/
def linkLine (target : String) : List Char :=
  ("[x](" ++ target ++ ")").toList ++ List.replicate 50 '#'

/-- A page with that line before others. -/
def linkPage (rest : Lines) (target : String) : String := ofLines (linkLine target :: rest)

/-- The path of the page. -/
def linkPath : FilePath := .ofString "/p/a.md"

/-- The table that is read from the page. -/
def linkTable (rest : Lines) : RedirectTable := .ofText (linkPage rest "./old.md") (some linkPath)

/-- A project at `/p` in which the page is also the file of the redirects. -/
def linkProject (rest : Lines) : Workspace Context where
  tree :=
    { nodes := [(["p"], .folder), (["p", "a.md"], .file (.text (linkPage rest "./old.md"))),
        (["p", "new.md"], .file (.text ""))]
      cwd := ["p"]
      home := [] }
  scope :=
    { root := .ofString "/p"
      excludeDirs := []
      table := some (linkTable rest) }

/-- A fix of the link on the first line. -/
def linkFix : SuggestedFix where
  broken := ⟨"a.md", ⟨"[x](./old.md)", "x", "./old.md", none, 1, 1, .internal⟩, some "old.md",
    notFound "old.md", notFound_ne "old.md"⟩
  suggestion := ⟨.high, "new.md", "", none⟩

/-- Lines that make the page just as large as the reader allows, and none of which begins a block. -/
structure Fills (rest : Lines) : Prop where
  lines : ∀ l ∈ rest, '\n' ∉ l ∧ Redirect.isMarker l = false
  size : (rest.map fun l => String.utf8Len l + 1).sum = 10 * 1024 * 1024 - 63

section Fills

variable {rest : Lines} {target : String}

theorem Fills.linesOf_linkPage (h : Fills rest) (hline : '\n' ∉ linkLine target) :
    linesOf (linkPage rest target) = linkLine target :: rest :=
  linesOf_ofLines (List.forall_mem_cons.2 ⟨hline, fun l hl => (h.lines l hl).1⟩) (List.cons_ne_nil _ _)

theorem Fills.utf8ByteSize_linkPage (h : Fills rest) (hline : String.utf8Len (linkLine target) = 63) :
    (linkPage rest target).utf8ByteSize = 10 * 1024 * 1024 := by
  have hsize : (linkPage rest target).utf8ByteSize + 1 = _ :=
    utf8ByteSize_ofLines (List.cons_ne_nil (linkLine target) rest)
  rw [List.map_cons, List.sum_cons, hline, h.size] at hsize
  omega

/-- The page can just be read. -/
theorem Fills.isExceededBy_linkPage (h : Fills rest) (hline : String.utf8Len (linkLine target) = 63) :
    defaultLimit.isExceededBy (Content.text (linkPage rest target)).size = false := by
  have hsize : (Content.text (linkPage rest target)).size = 10 * 1024 * 1024 :=
    h.utf8ByteSize_linkPage hline
  rw [hsize]
  decide

theorem Fills.linkTable_eq (h : Fills rest) : linkTable rest = ⟨[], some linkPath⟩ := by
  have hmarker : ∀ l ∈ linkLine "./old.md" :: rest, Redirect.isMarker l = false :=
    List.forall_mem_cons.2 ⟨by decide, fun l hl => (h.lines l hl).2⟩
  have hpairs := Redirect.map_pair_parseEntries (linkPage rest "./old.md")
  unfold Redirect.pairsOf at hpairs
  rw [h.linesOf_linkPage (by decide), Redirect.bodyOf_of_no_marker hmarker] at hpairs
  unfold linkTable RedirectTable.ofText
  rw [List.map_eq_nil_iff.1 hpairs]

theorem canReplace_linkPath : CanReplace ["p"] linkPath := by decide +kernel

theorem stat_linkProject (rest : Lines) :
    (linkProject rest).tree.stat linkPath = .ok (.file (.text (linkPage rest "./old.md"))) :=
  stat_eq_file_iff.2 ⟨by decide +kernel, by decide +kernel, ["p", "a.md"], rfl, rfl⟩

/-- The fix gives the page another first line of the same size. -/
theorem Fills.applyFixes_linkFix (h : Fills rest) :
    ∃ log, applyFixes (.ofString "/p") [linkFix] (linkProject rest)
      = (.ok [linkFix.result none], { linkProject rest with
          tree := (linkProject rest).tree.put ["p", "a.md"] (.file (.text (linkPage rest "./new.md")))
          log := log }) := by
  have htext : documentText (linkProject rest).tree (.ofString "/p") "a.md"
      = .ok (linkPage rest "./old.md") :=
    read_of_stat (stat_linkProject rest) rfl (h.isExceededBy_linkPage (by decide)) rfl
  have hlines : linesOf (linkPage rest "./old.md") = linkLine "./old.md" :: rest :=
    h.linesOf_linkPage (by decide)
  have hline : lineIndex? (linkLine "./old.md" :: rest) linkFix.broken.link.line = some 0 :=
    lineIndex?_eq_some_iff.2 ⟨rfl, Nat.succ_pos _⟩
  have hfixed : replaced? ["p"] (linkLine "./old.md") linkFix = some (linkLine "./new.md") := by
    decide +kernel
  have hfind : findsLink ["p"] (linesOf (linkPage rest "./old.md")) linkFix = true := by
    rw [hlines]
    unfold findsLink
    rw [hline]
    show (replaced? ["p"] (linkLine "./old.md") linkFix).isSome = true
    rw [hfixed]
    rfl
  have hnone := isNone_lineFailure ["p"] (linesOf (linkPage rest "./old.md")) linkFix
  rw [hfind, Option.isNone_iff_eq_none] at hnone
  have hrewritten : rewrittenLines ["p"] [linkFix] (linesOf (linkPage rest "./old.md"))
      = linkLine "./new.md" :: rest := by
    rw [hlines, rewrittenLines_singleton hline]
    show fixedLine ["p"] (linkLine "./old.md") linkFix :: rest = _
    unfold fixedLine
    rw [hfixed]
    rfl
  have hplace : (linkProject rest).tree.placeOf linkPath = .ok ["p", "a.md"] := rfl
  obtain ⟨hresults, hwrite⟩ :=
    documentWrite_singleton_of_findsLink (f := linkFix) htext hplace canReplace_linkPath hfind
  have hpath : linkFix.suggestion.suggestedPath ≠ "" := by decide
  obtain ⟨log, hrun⟩ :
      ∃ log, applyFixes (.ofString "/p") [linkFix] (linkProject rest) = _ :=
    applyFixes_singleton hpath (linkProject rest)
  have hcwd : (linkProject rest).tree.cwd = ["p"] := rfl
  have hsource : linkFix.broken.sourceFile = "a.md" := rfl
  rw [hsource] at hresults hwrite
  rw [hsource, hresults, hwrite, hcwd, hnone, hrewritten] at hrun
  exact ⟨log, hrun⟩

/-- The page with its new line can be read too, but not with a redirect behind it. -/
theorem Fills.outgrows (h : Fills rest) {u : Workspace Context}
    (htree : u.tree = (linkProject rest).tree.put ["p", "a.md"] (.file (.text (linkPage rest "./new.md"))))
    {pairs : List RedirectPair} (hne : pairs ≠ []) : Outgrows (linkTable rest) pairs u := by
  have hstat : u.tree.stat linkPath = .ok (.file (.text (linkPage rest "./new.md"))) := by
    rw [htree]
    exact stat_put (stat_linkProject rest) rfl _
  have hadded := Redirect.addedSize_pos hne (linkPage rest "./new.md")
  refine ⟨linkPath, linkPage rest "./new.md", rfl,
    read_of_stat hstat rfl (h.isExceededBy_linkPage (by decide)) rfl, ?_, ?_⟩
  · rw [htree]
    exact canReplace_linkPath
  · rw [h.utf8ByteSize_linkPage (by decide)]
    unfold Limit.isExceededBy defaultLimit
    simp only [decide_eq_true_eq]
    omega

/-- The document that is fixed is other than fixing it alone leaves it, though the append is refused. -/
theorem Fills.changes_document (h : Fills rest) :
    ∃ results u batch v f v',
      applyFixes (.ofString "/p") [linkFix] (linkProject rest) = (.ok results, u) ∧
        applyFixesWithRedirects [linkFix] true (linkProject rest) = (.ok batch, v) ∧
        u.scope.table = some (linkTable rest) ∧
        (linkTable rest).append (newPairs u.scope.table results) u = (.ok (.error f), v') ∧
        v.tree.stat linkPath ≠ u.tree.stat linkPath := by
  obtain ⟨log, hfixes⟩ := h.applyFixes_linkFix
  obtain ⟨results, u, hfixes', hscope, -, hunmarked, hrun⟩ := applyFixesWithRedirects_run
    (List.forall_mem_singleton.2 (by decide : linkFix.suggestion.suggestedPath ≠ "")) true
    (linkProject rest)
  obtain ⟨hresults, hu⟩ := Prod.mk.inj (hfixes'.symm.trans hfixes)
  obtain rfl := Except.ok.inj hresults
  have htable : u.scope.table = some (linkTable rest) := congrArg Context.table hscope
  have hnew : newPairs u.scope.table [linkFix.result none] ≠ [] := by
    rw [htable, h.linkTable_eq]
    decide +kernel
  have houtgrows := h.outgrows (congrArg Workspace.tree hu) hnew
  obtain ⟨f, v', -, happend, -⟩ := append_of_outgrows houtgrows hnew
  obtain ⟨batch, v, hrecord, halone | ⟨hrecorded, -⟩⟩ := recordRedirects_outcome hunmarked u
  · obtain ⟨p, hfile, hchanged⟩ := halone.changed ⟨rfl, hnew, linkTable rest, htable, houtgrows⟩
    rw [htable] at hfile
    obtain rfl : linkPath = p := Option.some.inj hfile
    exact ⟨_, u, batch, v, f, v', hfixes', hrun.trans hrecord, htable, happend, hchanged⟩
  · exact absurd (.refused htable happend) hrecorded

end Fills

/-- The same line again and again, up to the end of the text. -/
def linkLines (n : Nat) : Lines := List.replicate n (linkLine "./old.md") ++ [[]]

theorem mem_linkLines {n : Nat} {l : List Char} (h : l ∈ linkLines n) :
    l = linkLine "./old.md" ∨ l = [] :=
  (List.mem_append.1 h).imp List.eq_of_mem_replicate List.mem_singleton.1

theorem size_linkLines (n : Nat) :
    ((linkLines n).map fun l => String.utf8Len l + 1).sum = n * 64 + 1 := by
  have hline : String.utf8Len (linkLine "./old.md") = 63 := by decide
  unfold linkLines
  rw [List.map_append, List.map_replicate, List.sum_append, List.sum_replicate_nat, hline]
  rfl

theorem fills_linkLines : Fills (linkLines 163839) where
  lines l hl := by
    rcases mem_linkLines hl with rfl | rfl <;> decide
  size := size_linkLines 163839

/-- A page of ten mebibytes that is also the file of the redirects: an append that is refused has changed
the document that was fixed. -/
theorem refused_append_changes_document :
    ∃ results u batch v f v',
      applyFixes (.ofString "/p") [linkFix] (linkProject (linkLines 163839)) = (.ok results, u) ∧
        applyFixesWithRedirects [linkFix] true (linkProject (linkLines 163839)) = (.ok batch, v) ∧
        u.scope.table = some (linkTable (linkLines 163839)) ∧
        (linkTable (linkLines 163839)).append (newPairs u.scope.table results) u
          = (.ok (.error f), v') ∧
        v.tree.stat linkPath ≠ u.tree.stat linkPath :=
  fills_linkLines.changes_document

end DocLinks
