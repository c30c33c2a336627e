import DocLinks.Proofs.FileTree.Rewriting
import DocLinks.Proofs.Redirect.Block
import DocLinks.Proofs.Runs

/-!
# Recording entries in a file

Recording undone by reading. `addRedirects` puts the lines of the entries in one place of the file and
leaves every other line as it is, and reading the new text gives the old entries with the new ones
among them (`addRedirects_insertsEntries`). It is so for every file, whatever its block looks like;
what matters is that the entries are ones that a line can say, and exactly then are they all read back
(`addsPairs_recorded_iff`).

## Contents
- `InsertsEntries`: what recording entries makes of a text.
- `recorded`: the text with the entries recorded.
- `addRedirects_of_canReplace`, `addRedirects_insertsEntries`: what recording entries does to the file.
-/

namespace DocLinks

open Text FileTree

namespace Redirect

/-- The text of a file with entries recorded in it. -/
def recorded (pairs : List RedirectPair) (content : String) : String :=
  ofLines (insertEntries pairs (linesOf content))

/-- A text has the entries of another one and, next to each other in one place, new ones. -/
def AddsPairs (pairs : List RedirectPair) (old new : String) : Prop :=
  ∃ before after, (parseEntries old).map RedirectEntry.pair = before ++ after ∧
    (parseEntries new).map RedirectEntry.pair = before ++ pairs ++ after

/-- What recording entries makes of a text. -/
structure InsertsEntries (pairs : List RedirectPair) (old new : String) : Prop where
  /-- The lines of the entries are inserted in one place, behind a new opening line if the text has
  none, and no other line is changed. -/
  lines : ∃ front back, linesOf old = front ++ back ∧ linesOf new = front ++
    ((if (linesOf old).any isMarker then [] else [[], marker]) ++ pairs.map entryLine) ++ back
  /-- The old entries are read in their order, and among them the new ones. -/
  entries : AddsPairs pairs old new
  /-- The line of an entry is one that says the entry. -/
  place : ∀ e ∈ parseEntries new, ∃ (i : Nat) (line : List Char), e.line = i + 1 ∧
    (linesOf new)[i]? = some line ∧ parsePair? line = some e.pair
  /-- No two entries are on one line, and they come in the order of their lines. -/
  order : (parseEntries new).Pairwise fun d e => d.line < e.line

/-! ## The text -/

variable {pairs : List RedirectPair} (content : String)

/-- The lines of a text with entries recorded, if every entry is on one line. -/
theorem linesOf_recorded (h : ∀ p ∈ pairs, '\n' ∉ p.source.toList ∧ '\n' ∉ p.destination.toList) :
    linesOf (recorded pairs content) = insertEntries pairs (linesOf content) := by
  obtain ⟨front, back, hlines, hgap, hinsert⟩ := exists_gap (linesOf content)
  have hold : ∀ l ∈ front ++ back, '\n' ∉ l := fun l hl =>
    newline_not_mem_of_mem_linesOf (hlines ▸ hl)
  refine linesOf_ofLines (fun l hl => ?_) fun hnil => ?_
  · rw [hinsert, List.mem_append, List.mem_append, List.mem_append] at hl
    rcases hl with (hl | hl | hl) | hl
    · exact hold l (List.mem_append_left _ hl)
    · have hhead : ∀ l ∈ [[], marker], '\n' ∉ l := by decide
      split at hl
      · cases hl
      · exact hhead l hl
    · obtain ⟨p, hp, rfl⟩ := List.mem_map.1 hl
      exact newline_not_mem_entryLine (h p hp).1 (h p hp).2
    · exact hold l (List.mem_append_right _ hl)
  · rw [hinsert] at hnil
    simp only [List.append_eq_nil_iff] at hnil
    exact linesOf_ne_nil content (by rw [hlines, hnil.1.1, hnil.2]; rfl)

/-- The entries that are read after recording: what the new lines say stands among the old entries. -/
theorem exists_entries_recorded
    (h : ∀ p ∈ pairs, '\n' ∉ p.source.toList ∧ '\n' ∉ p.destination.toList) :
    AddsPairs ((pairs.map entryLine).filterMap parsePair?) content (recorded pairs content) := by
  obtain ⟨front, back, hlines, hgap, hinsert⟩ := exists_gap (linesOf content)
  obtain ⟨before, after, hold, hnew⟩ := hgap.exists_pairsOf
  refine ⟨before, after, ?_, ?_⟩
  · rw [map_pair_parseEntries, hlines, hold]
  · rw [map_pair_parseEntries, linesOf_recorded content h, hinsert]
    refine hnew _ fun l hl => ?_
    obtain ⟨p, _, rfl⟩ := List.mem_map.1 hl
    rfl

variable {content}

/-- **Recording recordable entries.** -/
theorem insertsEntries_recorded (h : ∀ p ∈ pairs, p.Recordable) :
    InsertsEntries pairs content (recorded pairs content) := by
  have honeLine := fun p hp => (h p hp).2.2
  refine ⟨?_, ?_, fun _ => exists_line_of_entry, pairwise_line_parseEntries _⟩
  · obtain ⟨front, back, hlines, _, hinsert⟩ := exists_gap (linesOf content)
    exact ⟨front, back, hlines, by rw [linesOf_recorded content honeLine, hinsert]⟩
  · have hentries := exists_entries_recorded content honeLine
    rwa [filterMap_entryLine h] at hentries

/-- What is read of a text is trimmed, and stands on one line with no colon in its source. -/
theorem trimmed_of_mem {p : RedirectPair} (h : p ∈ (parseEntries content).map RedirectEntry.pair) :
    (':' ∉ p.source.toList ∧ strip p.source = p.source) ∧ strip p.destination = p.destination ∧
      '\n' ∉ p.source.toList ∧ '\n' ∉ p.destination.toList := by
  obtain ⟨e, he, rfl⟩ := List.mem_map.1 h
  obtain ⟨i, line, _, hline, hpair⟩ := exists_line_of_entry he
  obtain ⟨hcolon, hsource, hdestination, hmem⟩ := trimmed_of_parsePair? hpair
  have hnot : '\n' ∉ line := newline_not_mem_of_mem_linesOf (List.mem_of_getElem? hline)
  exact ⟨⟨hcolon, hsource⟩, hdestination, fun hc => hnot (hmem _ (.inl hc)),
    fun hc => hnot (hmem _ (.inr hc))⟩

/-- **The entries that are read back.** Recording entries adds them to those that are read, and nothing
else, exactly if each of them is one that a line can say. -/
theorem addsPairs_recorded_iff (content : String) :
    AddsPairs pairs content (recorded pairs content) ↔ ∀ p ∈ pairs, p.Recordable := by
  refine ⟨fun ⟨before, after, hold, hnew⟩ => ?_, fun h => (insertsEntries_recorded h).entries⟩
  have hread : ∀ p ∈ pairs, p ∈ (parseEntries (recorded pairs content)).map RedirectEntry.pair := by
    intro p hp
    rw [hnew]
    exact List.mem_append_left _ (List.mem_append_right _ hp)
  -- As many entries are read as are recorded, so every new line says something.
  obtain ⟨before', after', hold', hnew'⟩ :=
    exists_entries_recorded content fun p hp => (trimmed_of_mem (hread p hp)).2.2
  have hlength := congrArg List.length (hold.symm.trans hold')
  have hlength' := congrArg List.length (hnew.symm.trans hnew')
  simp only [List.length_append, List.filterMap_map] at hlength hlength'
  have hall : (pairs.filterMap (parsePair? ∘ entryLine)).length = pairs.length := by omega
  intro p hp
  obtain ⟨q, hq⟩ := Option.isSome_iff_exists.1 (List.filterMap_length_eq_length.1 hall p hp)
  obtain ⟨⟨hcolon, hsource⟩, hrest⟩ := trimmed_of_mem (hread p hp)
  exact ⟨⟨ne_empty_of_parsePair?_entryLine hq, hcolon, hsource⟩, hrest⟩

end Redirect

/-! ## The file -/

section File

theorem ofFile_of_read {t : FileTree} {p : FilePath} {content : String}
    (h : t.read p defaultLimit = .ok content) :
    RedirectTable.ofFile t p = .ok (.ofText content (some p)) := by
  unfold RedirectTable.ofFile
  rw [h]

/-- A table that was read from a file is that of the text of the file. -/
theorem ofFile_eq_ok {t : FileTree} {p : FilePath} {table : RedirectTable}
    (h : RedirectTable.ofFile t p = .ok table) :
    ∃ content, t.read p defaultLimit = .ok content ∧ table = .ofText content (some p) := by
  rcases hread : t.read p defaultLimit with e | content
  · unfold RedirectTable.ofFile at h
    rw [hread] at h
    cases h
  · exact ⟨content, rfl, (Except.ok.inj ((ofFile_of_read hread).symm.trans h)).symm⟩

variable {σ : Type} {p : FilePath} {pairs : List RedirectPair} {content : String} {w : Workspace σ}

/-- Recording entries in a file that can be read writes the text with the entries recorded. -/
theorem addRedirects_run (hread : w.tree.read p defaultLimit = .ok content) (hne : pairs ≠ []) :
    addRedirects p pairs w = (do
      match ← Work.write p (Redirect.recorded pairs content) with
      | .error f => return .error (.unwritable f)
      | .ok () =>
        Work.report
          { level := .info
            logger := loggerOf "parsers.redirects"
            message := "Added " ++ toString pairs.length ++ " redirect(s) to " ++ p.text }
        return .ok () : Work σ (Except RedirectFault Unit)) w := by
  unfold addRedirects
  rw [if_neg (by simpa using hne), Work.bind_run_of_ok (Work.tree_run w), hread]
  rfl

/-- A file that can be replaced gets the text with the entries recorded. -/
theorem addRedirects_of_canReplace (hread : w.tree.read p defaultLimit = .ok content) (hne : pairs ≠ [])
    {place : List String} (hplace : w.tree.placeOf p = .ok place) (hcan : CanReplace w.tree.cwd p) :
    ∃ v, addRedirects p pairs w = (.ok (.ok ()), v) ∧ v.scope = w.scope ∧
      v.tree = w.tree.put place (.file (.text (Redirect.recorded pairs content))) := by
  obtain ⟨_, _, _, _, hstat, _⟩ := read_eq_ok hread
  have hput := write_of_canReplace hstat hplace hcan (Redirect.recorded pairs content)
  rw [addRedirects_run hread hne, Work.bind_run_of_ok (Work.write_run w hput)]
  exact ⟨_, rfl, rfl, rfl⟩

/-- A file that cannot be replaced stays, and that is the answer. -/
theorem addRedirects_of_not_canReplace (hread : w.tree.read p defaultLimit = .ok content)
    (hne : pairs ≠ []) (hcan : ¬CanReplace w.tree.cwd p) :
    ∃ f, addRedirects p pairs w = (.ok (.error (.unwritable f)), w) := by
  obtain ⟨_, _, _, _, hstat, _⟩ := read_eq_ok hread
  obtain ⟨f, hf, hput⟩ := write_of_not_canReplace hstat hcan (Redirect.recorded pairs content)
  rw [addRedirects_run hread hne, Work.bind_run_of_ok (Work.write_run_of_fault w hput hf)]
  exact ⟨_, rfl⟩

/-- **Recording undone by reading.** The file gets the text with the entries inserted; if it cannot be
replaced, that is the answer, and nothing is changed. -/
theorem addRedirects_insertsEntries (hread : w.tree.read p defaultLimit = .ok content)
    (hne : pairs ≠ []) (hpairs : ∀ q ∈ pairs, q.Recordable) :
    ∃ text, Redirect.InsertsEntries pairs content text ∧
      (CanReplace w.tree.cwd p → ∃ place v, w.tree.placeOf p = .ok place ∧
        addRedirects p pairs w = (.ok (.ok ()), v) ∧ v.scope = w.scope ∧
        v.tree = w.tree.put place (.file (.text text))) ∧
      (¬CanReplace w.tree.cwd p → ∃ f, addRedirects p pairs w = (.ok (.error (.unwritable f)), w)) := by
  refine ⟨Redirect.recorded pairs content, Redirect.insertsEntries_recorded hpairs, fun hcan => ?_,
    addRedirects_of_not_canReplace hread hne⟩
  obtain ⟨place, _, hplace, _, _, _⟩ := read_eq_ok hread
  obtain ⟨v, hrun, hscope, htree⟩ := addRedirects_of_canReplace hread hne hplace hcan
  exact ⟨place, v, hplace, hrun, hscope, htree⟩

end File

/-- A configuration with two entries, one of them indented further, between other sections; its lines
end in carriage returns, and there is no line feed at the end. -/
def mixedConfiguration : String :=
  "root: ./\r\nredirects:\r\n  a: b.md\r\n    deep: c.md\r\n\r\nother: 1"

/-- A project at `/p` with that configuration. -/
def mixedProject : Workspace Unit where
  tree :=
    { nodes := [(["p"], .folder), (["p", ".gitbook.yaml"], .file (.text mixedConfiguration))]
      cwd := ["p"]
      home := [] }
  scope := ()

/-- Two entries for that configuration. -/
def mixedPairs : List RedirectPair := [⟨"old/page", "new.md"⟩, ⟨"older", "a b.md"⟩]

theorem addRedirects_insertsEntries_mixedProject :
    ∃ text place v, Redirect.InsertsEntries mixedPairs mixedConfiguration text ∧
      addRedirects (.ofString "/p/.gitbook.yaml") mixedPairs mixedProject = (.ok (.ok ()), v) ∧
      v.tree = mixedProject.tree.put place (.file (.text text)) := by
  have hread : mixedProject.tree.read (.ofString "/p/.gitbook.yaml") defaultLimit
      = .ok mixedConfiguration := Work.eq_ok_of_toOption (by decide +kernel)
  have hpairs : ∀ q ∈ mixedPairs, q.Recordable := by decide +kernel
  obtain ⟨text, hinserts, hwritten, -⟩ := addRedirects_insertsEntries hread (by decide) hpairs
  obtain ⟨place, v, -, hrun, -, htree⟩ := hwritten (by decide +kernel)
  exact ⟨text, place, v, hinserts, hrun, htree⟩

end DocLinks
