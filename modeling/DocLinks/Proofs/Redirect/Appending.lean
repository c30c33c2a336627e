import DocLinks.Proofs.Redirect.Recording
import Mathlib.Algebra.GroupWithZero.Nat
import Mathlib.Data.String.Basic

/-!
# Appending to a table

What is left when redirects were appended to a table. An append that is refused should have changed
nothing, and one that is answered should have written the file and read the table again. Between the
two stands the limit of the reader: the file is written whatever its size, and the table is read again
only if the file is within the limit. So the file has been changed by an append that is refused exactly
if the new lines take a file that could be read beyond the limit (`append_allOrNothing_iff`).

## Contents
- `addedSize`, `utf8ByteSize_recorded`: by how much recording entries makes a text longer.
- `append_run`: what appending has done.
- `AllOrNothing`, `Outgrows`: the append as it should be, and when it is not.
-/

namespace DocLinks

open Text FileTree

/-! ## The size of the file -/

theorem utf8Len_eq_utf8ByteSize (s : String) : String.utf8Len s.toList = s.utf8ByteSize := by
  rw [← String.utf8ByteSize_ofList, String.ofList_toList]

/-- Every line but the last one takes one byte more than its characters. -/
theorem utf8ByteSize_ofLines {lines : List (List Char)} (hne : lines ≠ []) :
    (ofLines lines).utf8ByteSize + 1 = (lines.map fun l => String.utf8Len l + 1).sum := by
  unfold ofLines joinLines
  rw [String.utf8ByteSize_ofList]
  induction lines with
  | nil => exact absurd rfl hne
  | cons l ls ih =>
    rcases ls with _ | ⟨l', ls⟩
    · simp
    · have hrest := ih (List.cons_ne_nil l' ls)
      have hnewline : '\n'.utf8Size = 1 := rfl
      rw [List.intercalate_cons_cons, List.map_cons, List.sum_cons, ← hrest]
      simp only [String.utf8Len_append, String.utf8Len_cons, String.utf8Len_nil, hnewline]
      omega

namespace Redirect

/-- The number of bytes that recording entries adds to a text: a line for each entry, and before them
an empty line and the opening line if there is no block yet. -/
def addedSize (pairs : List RedirectPair) (content : String) : Nat :=
  (if (linesOf content).any isMarker then 0 else 12) +
    (pairs.map fun p => p.source.utf8ByteSize + p.destination.utf8ByteSize + 5).sum

variable {pairs : List RedirectPair}

theorem utf8Len_entryLine (p : RedirectPair) :
    String.utf8Len (entryLine p) + 1 = p.source.utf8ByteSize + p.destination.utf8ByteSize + 5 := by
  have hblank : ' '.utf8Size = 1 := rfl
  have hcolon : ':'.utf8Size = 1 := rfl
  unfold entryLine
  simp only [String.utf8Len_cons, String.utf8Len_append, utf8Len_eq_utf8ByteSize, hblank, hcolon]
  omega

theorem addedSize_pos (hne : pairs ≠ []) (content : String) : 0 < addedSize pairs content := by
  obtain ⟨p, ps, rfl⟩ := List.exists_cons_of_ne_nil hne
  unfold addedSize
  rw [List.map_cons, List.sum_cons]
  omega

/-- **The size of the new text** is that of the old one and of the lines that are inserted. -/
theorem utf8ByteSize_recorded (pairs : List RedirectPair) (content : String) :
    (recorded pairs content).utf8ByteSize = content.utf8ByteSize + addedSize pairs content := by
  obtain ⟨front, back, hlines, -, hinsert⟩ := exists_gap (linesOf content)
  -- The sizes of lines add up, so it does not matter where the new ones are.
  have hold := utf8ByteSize_ofLines (linesOf_ne_nil content)
  have hne : front ++ back ≠ [] := hlines ▸ linesOf_ne_nil content
  have hnew : (recorded pairs content).utf8ByteSize + 1
      = ((insertEntries pairs (linesOf content)).map fun l => String.utf8Len l + 1).sum := by
    refine utf8ByteSize_ofLines fun hnil => hne ?_
    rw [hinsert] at hnil
    simp only [List.append_eq_nil_iff] at hnil ⊢
    exact ⟨hnil.1.1, hnil.2⟩
  have hentries : (pairs.map entryLine).map (fun l => String.utf8Len l + 1)
      = pairs.map fun p => p.source.utf8ByteSize + p.destination.utf8ByteSize + 5 := by
    rw [List.map_map]
    exact List.map_congr_left fun p _ => utf8Len_entryLine p
  have hhead : ((if (linesOf content).any isMarker then [] else [[], marker]).map
      fun l => String.utf8Len l + 1).sum = if (linesOf content).any isMarker then 0 else 12 := by
    split <;> rfl
  rw [ofLines_linesOf, hlines, List.map_append, List.sum_append] at hold
  rw [hinsert] at hnew
  simp only [List.map_append, List.sum_append, hentries, hhead] at hnew
  unfold addedSize
  omega

end Redirect

/-! ## The run -/

section Run

variable {σ : Type} {table : RedirectTable} {pairs : List RedirectPair} {p : FilePath}
  {content : String} {w : Workspace σ}

theorem append_of_no_file (hfile : table.file = none) (hne : pairs ≠ []) :
    table.append pairs w = (.ok (.error .noFile), w) := by
  unfold RedirectTable.append
  rw [if_neg (by simpa using hne), hfile]
  rfl

theorem append_of_unreadable {e : FileFault} (hfile : table.file = some p)
    (hread : w.tree.read p defaultLimit = .error e) (hne : pairs ≠ []) :
    table.append pairs w = (.ok (.error (.unreadable p.text e)), w) := by
  have hnonempty : ¬pairs.isEmpty = true := by simpa using hne
  have hadd : addRedirects p pairs w = (.ok (.error (.unreadable p.text e)), w) := by
    unfold addRedirects
    rw [if_neg hnonempty, Work.bind_run_of_ok (Work.tree_run w), hread]
    rfl
  unfold RedirectTable.append
  rw [if_neg hnonempty]
  simp only [hfile]
  rw [Work.bind_run_of_ok hadd]
  rfl

theorem append_of_not_canReplace (hfile : table.file = some p)
    (hread : w.tree.read p defaultLimit = .ok content) (hne : pairs ≠ [])
    (hcan : ¬CanReplace w.tree.cwd p) : ∃ f, table.append pairs w = (.ok (.error f), w) := by
  obtain ⟨f, hadd⟩ := addRedirects_of_not_canReplace hread hne hcan
  unfold RedirectTable.append
  rw [if_neg (by simpa using hne)]
  simp only [hfile]
  rw [Work.bind_run_of_ok hadd]
  exact ⟨_, rfl⟩

/-- A file that can be replaced is written, and then the table is read again. -/
theorem append_of_canReplace {place : List String} (hfile : table.file = some p)
    (hread : w.tree.read p defaultLimit = .ok content) (hne : pairs ≠ [])
    (hplace : w.tree.placeOf p = .ok place) (hcan : CanReplace w.tree.cwd p) :
    ∃ v, v.scope = w.scope ∧
      v.tree = w.tree.put place (.file (.text (Redirect.recorded pairs content))) ∧
      table.append pairs w = (.ok ((RedirectTable.ofFile v.tree p).map fun reloaded =>
        ({ table with entries := reloaded.entries }, pairs.length)), v) := by
  obtain ⟨v, hadd, hscope, htree⟩ := addRedirects_of_canReplace hread hne hplace hcan
  refine ⟨v, hscope, htree, ?_⟩
  unfold RedirectTable.append
  rw [if_neg (by simpa using hne)]
  simp only [hfile]
  rw [Work.bind_run_of_ok hadd]
  rfl

/-- **Appending to a table**: it is refused, and nothing is changed, or the file of the table is written
and read again. -/
theorem append_run (table : RedirectTable) (w : Workspace σ) (hne : pairs ≠ []) :
    (∃ f, table.append pairs w = (.ok (.error f), w)) ∨
      ∃ p content place v, table.file = some p ∧ w.tree.read p defaultLimit = .ok content ∧
        w.tree.placeOf p = .ok place ∧ CanReplace w.tree.cwd p ∧ v.scope = w.scope ∧
        v.tree = w.tree.put place (.file (.text (Redirect.recorded pairs content))) ∧
        table.append pairs w = (.ok ((RedirectTable.ofFile v.tree p).map fun reloaded =>
          ({ table with entries := reloaded.entries }, pairs.length)), v) := by
  rcases Option.eq_none_or_eq_some table.file with hfile | ⟨p, hfile⟩
  · exact .inl ⟨_, append_of_no_file hfile hne⟩
  · rcases hread : w.tree.read p defaultLimit with e | content
    · exact .inl ⟨_, append_of_unreadable hfile hread hne⟩
    · by_cases hcan : CanReplace w.tree.cwd p
      · obtain ⟨place, _, hplace, -⟩ := read_eq_ok hread
        obtain ⟨v, hscope, htree, hrun⟩ := append_of_canReplace hfile hread hne hplace hcan
        exact .inr ⟨p, content, place, v, hfile, hread, hplace, hcan, hscope, htree, hrun⟩
      · exact .inl (append_of_not_canReplace hfile hread hne hcan)

theorem append_answers (table : RedirectTable) (w : Workspace σ) (hne : pairs ≠ []) :
    ∃ r v, table.append pairs w = (.ok r, v) := by
  obtain ⟨f, hrefused⟩ | ⟨_, _, _, v, -, -, -, -, -, -, hwritten⟩ := append_run table w hne
  · exact ⟨_, w, hrefused⟩
  · exact ⟨_, v, hwritten⟩

end Run

/-! ## All or nothing -/

section AllOrNothing

variable {σ : Type}

/-- **An append that is all or nothing**, told by its answer and the workspaces before and after it. -/
structure AllOrNothing (table : RedirectTable) (pairs : List RedirectPair) (w v : Workspace σ)
    (r : Except RedirectFault (RedirectTable × Nat)) : Prop where
  /-- What is refused has not changed any file. -/
  refused : ∀ f, r = .error f → v.tree = w.tree
  /-- What is answered is the number of the redirects; their lines were written into the file, which
  could be read and is the only one that was changed, and the table is the one of the new file. -/
  answered : ∀ table' n, r = .ok (table', n) → n = pairs.length ∧ ∃ p content place,
    table.file = some p ∧ w.tree.read p defaultLimit = .ok content ∧ w.tree.placeOf p = .ok place ∧
    v.tree = w.tree.put place (.file (.text (Redirect.recorded pairs content))) ∧
    RedirectTable.ofFile v.tree p = .ok table'

/-- The redirects take the file of the table beyond the limit of the reader: it can be read and
replaced, and the text with the redirects is too large to be read. -/
def Outgrows (table : RedirectTable) (pairs : List RedirectPair) (w : Workspace σ) : Prop :=
  ∃ p content, table.file = some p ∧ w.tree.read p defaultLimit = .ok content ∧
    CanReplace w.tree.cwd p ∧
    defaultLimit.isExceededBy (content.utf8ByteSize + Redirect.addedSize pairs content) = true

variable {table : RedirectTable} {pairs : List RedirectPair} {w : Workspace σ} {p : FilePath}
  {content : String}

/-- The size of the file that was written. -/
theorem size_recorded (pairs : List RedirectPair) (content : String) :
    (Content.text (Redirect.recorded pairs content)).size
      = content.utf8ByteSize + Redirect.addedSize pairs content :=
  Redirect.utf8ByteSize_recorded pairs content

/-- A file that outgrows the limit is written, and then the append is refused. -/
theorem append_of_outgrows (h : Outgrows table pairs w) (hne : pairs ≠ []) :
    ∃ f v p, table.append pairs w = (.ok (.error f), v) ∧ v.scope = w.scope ∧
      table.file = some p ∧ v.tree.stat p ≠ w.tree.stat p := by
  obtain ⟨p, content, hfile, hread, hcan, hsize⟩ := h
  obtain ⟨place, c, hplace, -, hstat, -⟩ := read_eq_ok hread
  obtain ⟨v, hscope, htree, hrun⟩ := append_of_canReplace hfile hread hne hplace hcan
  have hstat' := stat_put hstat hplace (.text (Redirect.recorded pairs content))
  rw [← htree] at hstat'
  rw [← size_recorded] at hsize
  rcases hreload : v.tree.read p defaultLimit with e | text
  · have herror : RedirectTable.ofFile v.tree p = .error (.unreadable p.text e) := by
      unfold RedirectTable.ofFile
      rw [hreload]
    rw [herror] at hrun
    refine ⟨_, v, p, hrun, hscope, hfile, fun hsame => ?_⟩
    -- The old file was within the limit, so it is another one.
    rw [hsame, hstat] at hstat'
    rw [← Node.file.inj (Except.ok.inj hstat'), isExceededBy_of_read hread hstat] at hsize
    cases hsize
  · rw [isExceededBy_of_read hreload hstat'] at hsize
    cases hsize

theorem AllOrNothing.of_refused (table : RedirectTable) (pairs : List RedirectPair) (w : Workspace σ)
    (f : RedirectFault) : AllOrNothing table pairs w w (.error f) :=
  ⟨fun _ _ => rfl, nofun⟩

/-- A file that stays within the limit is written and read again. -/
theorem allOrNothing_of_not_outgrows (hne : pairs ≠ []) (h : ¬Outgrows table pairs w) :
    ∃ r v, table.append pairs w = (.ok r, v) ∧ v.scope = w.scope ∧
      AllOrNothing table pairs w v r := by
  obtain ⟨f, hrun⟩ | ⟨p, content, place, v, hfile, hread, hplace, hcan, hscope, htree, hrun⟩ :=
    append_run table w hne
  · exact ⟨_, w, hrun, rfl, .of_refused ..⟩
  · obtain ⟨_, _, _, -, hstat, -⟩ := read_eq_ok hread
    have hsize : defaultLimit.isExceededBy (Content.text (Redirect.recorded pairs content)).size
        = false := by
      rw [size_recorded, ← Bool.not_eq_true]
      exact fun hexceeded => h ⟨p, content, hfile, hread, hcan, hexceeded⟩
    have hofFile : RedirectTable.ofFile v.tree p
        = .ok ⟨Redirect.parseEntries (Redirect.recorded pairs content), table.file⟩ := by
      rw [htree, ofFile_of_read (read_of_stat (stat_put hstat hplace _) rfl hsize rfl), hfile]
      rfl
    rw [hofFile] at hrun
    refine ⟨_, v, hrun, hscope, nofun, fun table' n hr => ?_⟩
    obtain ⟨htable, hn⟩ := Prod.mk.inj (Except.ok.inj hr)
    refine ⟨hn.symm, p, content, place, hfile, hread, hplace, htree, ?_⟩
    rw [hofFile, ← htable]

/-- **Appending is all or nothing unless the file outgrows the limit.** Appending redirects to a table
always has an answer, and it leaves the scope alone. If it is refused, no file has changed; if it is
answered, the file was written and the table is that of the new file. There is one exception, which
the sizes tell: a file within the limit that the new lines take beyond it. -/
theorem append_allOrNothing_iff (table : RedirectTable) (w : Workspace σ) (hne : pairs ≠ []) :
    ∃ r v, table.append pairs w = (.ok r, v) ∧ v.scope = w.scope ∧
      (AllOrNothing table pairs w v r ↔ ¬Outgrows table pairs w) := by
  by_cases h : Outgrows table pairs w
  · obtain ⟨f, v, p, hrun, hscope, -, hchanged⟩ := append_of_outgrows h hne
    refine ⟨_, v, hrun, hscope, fun hall => ?_, fun hnot => absurd h hnot⟩
    exact absurd (by rw [hall.refused f rfl]) hchanged
  · obtain ⟨r, v, hrun, hscope, hall⟩ := allOrNothing_of_not_outgrows hne h
    exact ⟨r, v, hrun, hscope, fun _ => h, fun _ => hall⟩

end AllOrNothing

/-! ## Two files -/

/-- The path of the configuration in `mixedProject`. -/
def mixedPath : FilePath := .ofString "/p/.gitbook.yaml"

theorem append_allOrNothing_iff_mixedPairs :
    mixedPairs ≠ [] ∧ ∃ r v,
      (RedirectTable.ofText mixedConfiguration (some mixedPath)).append mixedPairs mixedProject
        = (.ok r, v) ∧
      AllOrNothing (.ofText mixedConfiguration (some mixedPath)) mixedPairs mixedProject v r := by
  have hne : mixedPairs ≠ [] := by decide
  have hread : mixedProject.tree.read mixedPath defaultLimit = .ok mixedConfiguration :=
    Work.eq_ok_of_toOption (by decide +kernel)
  obtain ⟨r, v, hrun, -, hiff⟩ := append_allOrNothing_iff
    (.ofText mixedConfiguration (some mixedPath)) mixedProject hne
  refine ⟨hne, r, v, hrun, hiff.2 ?_⟩
  rintro ⟨p, content, hfile, hread', -, hsize⟩
  obtain rfl : mixedPath = p := Option.some.inj hfile
  obtain rfl : mixedConfiguration = content := Except.ok.inj (hread.symm.trans hread')
  revert hsize
  decide +kernel

/-- A project at `/p` with a configuration. -/
def configured (content : String) : Workspace Unit where
  tree :=
    { nodes := [(["p"], .folder), (["p", ".gitbook.yaml"], .file (.text content))]
      cwd := ["p"]
      home := [] }
  scope := ()

/-- A configuration of one line that is just within the limit of the reader. -/
def fullConfiguration : String := .ofList (.replicate (10 * 1024 * 1024) '#')

theorem stat_configured (content : String) :
    (configured content).tree.stat mixedPath = .ok (.file (.text content)) :=
  stat_eq_file_iff.2 ⟨by decide +kernel, by decide +kernel, ["p", ".gitbook.yaml"], rfl, rfl⟩

theorem utf8ByteSize_fullConfiguration : fullConfiguration.utf8ByteSize = 10 * 1024 * 1024 := by
  have hlen : ∀ n, String.utf8Len (.replicate n '#') = n := by
    intro n
    induction n with
    | zero => rfl
    | succ n ih => rw [List.replicate_succ, String.utf8Len_cons, ih]; rfl
  unfold fullConfiguration
  rw [String.utf8ByteSize_ofList, hlen]

/-- A redirect for a file that is just within the limit: the append is refused, and still the file was
written. -/
theorem append_refused_after_write :
    ∃ f v, (RedirectTable.ofText fullConfiguration (some mixedPath)).append [⟨"a", "b.md"⟩]
        (configured fullConfiguration) = (.ok (.error f), v) ∧
      v.tree.stat mixedPath ≠ (configured fullConfiguration).tree.stat mixedPath := by
  have hread : (configured fullConfiguration).tree.read mixedPath defaultLimit
      = .ok fullConfiguration := by
    refine read_of_stat (stat_configured _) rfl ?_ rfl
    have hsize : (Content.text fullConfiguration).size = 10 * 1024 * 1024 :=
      utf8ByteSize_fullConfiguration
    rw [hsize]
    decide
  have houtgrows : Outgrows (.ofText fullConfiguration (some mixedPath)) [⟨"a", "b.md"⟩]
      (configured fullConfiguration) := by
    refine ⟨mixedPath, fullConfiguration, rfl, hread, by decide +kernel, ?_⟩
    have hadded : 0 < Redirect.addedSize [⟨"a", "b.md"⟩] fullConfiguration :=
      Redirect.addedSize_pos (List.cons_ne_nil _ _) _
    rw [utf8ByteSize_fullConfiguration]
    unfold Limit.isExceededBy defaultLimit
    simp only [decide_eq_true_eq]
    omega
  obtain ⟨f, v, p, hrun, -, hfile, hchanged⟩ := append_of_outgrows houtgrows (List.cons_ne_nil _ _)
  obtain rfl : mixedPath = p := Option.some.inj hfile
  exact ⟨f, v, hrun, hchanged⟩

end DocLinks
