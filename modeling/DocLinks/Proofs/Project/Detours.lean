import DocLinks.Proofs.Project.Published
import DocLinks.Proofs.Project.Resolving
import Mathlib.Data.List.DropRight

/-!
# Detours

A path can be looked up as it is written, or along its names without detours, as links are. The file
system walks a written path name by name, so a detour goes through folders that have to be there. Given
these folders, and unless the text is too long, both ways lead to the same file (`hasFile_iff_walked`).

## Contents
- `foldl_climb_names`: a walk passes over the names that stay in place.
- `CanBeWalked`, `hasFile_iff_walked`: what a path needs to be looked up as it is written.
- `hasFile_plainResolution`: a link from a document at the root is looked up without detours.
-/

namespace DocLinks

open Text FileTree DocPath

/-! ## Names that stay in place -/

namespace DocPath

theorem foldl_climb_filter (rooted : Bool) (ns : List (List Char)) :
    ∀ walked, (ns.filter fun n => String.ofList n ≠ "" ∧ String.ofList n ≠ ".").foldl (climb rooted) walked
      = ns.foldl (climb rooted) walked := by
  induction ns with
  | nil => exact fun _ => rfl
  | cons n ns ih =>
    intro walked
    by_cases hstay : n = [] ∨ n = here
    · rw [List.filter_cons_of_neg (by rcases hstay with rfl | rfl <;> decide), ih, List.foldl_cons,
        climb_of_stay hstay]
    · have hempty : String.ofList n ≠ "" := fun h => hstay (.inl (String.ofList_injective h))
      have hdot : String.ofList n ≠ "." := fun h => hstay (.inr (String.ofList_injective h))
      rw [List.filter_cons_of_pos (by simp [hempty, hdot]), List.foldl_cons, ih, List.foldl_cons]

/-- **A walk** passes over the names that stay in place. -/
theorem foldl_climb_names (rooted : Bool) (p : List Char) (walked : List (List Char)) :
    (names p).foldl (climb rooted) walked
      = ((FilePath.namesOf p).map String.toList).foldl (climb rooted) walked := by
  have hnames : (FilePath.namesOf p).map String.toList
      = (names p).filter fun n => String.ofList n ≠ "" ∧ String.ofList n ≠ "." := by
    unfold FilePath.namesOf
    rw [List.filter_map, List.map_map]
    have hid : String.toList ∘ String.ofList = id := funext fun _ => String.toList_ofList
    rw [hid, List.map_id]
    rfl
  rw [hnames, foldl_climb_filter]

/-- Paths with the same names are walked alike. -/
theorem foldl_climb_congr {p q : List Char} (h : FilePath.namesOf p = FilePath.namesOf q)
    (rooted : Bool) (walked : List (List Char)) :
    (names p).foldl (climb rooted) walked = (names q).foldl (climb rooted) walked := by
  rw [foldl_climb_names, foldl_climb_names, h]

theorem stepsOf_eq (p : List Char) :
    stepsOf p = collapsedNames false ((FilePath.namesOf p).map String.toList) := by
  unfold stepsOf collapsedNames
  rw [foldl_climb_names]

theorem stepsOf_congr {p q : List Char} (h : FilePath.namesOf p = FilePath.namesOf q) :
    stepsOf p = stepsOf q :=
  congrArg List.reverse (foldl_climb_congr h false [])

theorem map_ofList_toList (ns : List String) : (ns.map String.toList).map String.ofList = ns := by
  rw [List.map_map, show String.ofList ∘ String.toList = id from funext fun _ => String.ofList_toList,
    List.map_id]

/-- A name that leads down. -/
theorem isStep_toList {n : String} (h : n ≠ "" ∧ n ≠ ".") (hup : n ≠ "..") : IsStep n.toList :=
  ⟨fun heq => h.1 (String.toList_inj.1 heq), fun heq => h.2 (String.toList_inj.1 heq),
    fun heq => hup (String.toList_inj.1 heq)⟩

end DocPath

theorem moves_of_mem_namesOf {p : List Char} {n : String} (h : n ∈ FilePath.namesOf p) :
    n ≠ "" ∧ n ≠ "." := by
  simpa using (List.mem_filter.1 h).2

/-! ## Looking up what is written -/

/-- **A path that can be walked as it is written** below a root: what precedes a step up is a folder
that is there, and the text is not too long for the file system. -/
structure CanBeWalked (t : FileTree) (root : FilePath) (p : List Char) : Prop where
  back : ∀ before after, FilePath.namesOf p = before ++ ".." :: after →
    t.isFolder { root with names := root.names ++ before } = true
  short : isTooLong (projectPath root (.ofList p)) = false

section Written

variable {t : FileTree} {root : FilePath} {p : List Char}

theorem stat_below_iff {below : List String} {n : Node} :
    t.stat { root with names := root.names ++ below } = .ok n ↔
      FilePath.hasNull { root with names := root.names ++ below } = false ∧
        isTooLong { root with names := root.names ++ below } = false ∧
        ∃ place, t.walk (t.start root) (root.names ++ below) = .ok place ∧ t.node? place = some n :=
  stat_eq_ok_iff

theorem isFolder_below_iff {below : List String} :
    t.isFolder { root with names := root.names ++ below } = true ↔
      FilePath.hasNull { root with names := root.names ++ below } = false ∧
        isTooLong { root with names := root.names ++ below } = false ∧
        ∃ place, t.walk (t.start root) (root.names ++ below) = .ok place ∧
          t.node? place = some .folder :=
  isFolder_iff

theorem hasFile_iff_stat :
    t.hasFile root (.ofList p) = true ↔
      ∃ c, t.stat { root with names := root.names ++ FilePath.namesOf p } = .ok (.file c) := by
  unfold FileTree.hasFile
  rw [isFile_iff_stat, projectPath_eq, String.toList_ofList]

/-- A step up starts at a folder. -/
theorem step_up_eq_ok {place next : List String} :
    t.step place ".." = .ok next ↔ t.node? place = some .folder ∧ next = place.dropLast := by
  rw [step_eq_ok_iff]
  simp

/-- A file that is found as it is written is behind folders. -/
theorem canBeWalked_of_hasFile (h : t.hasFile root (.ofList p) = true) : CanBeWalked t root p := by
  obtain ⟨c, hstat⟩ := hasFile_iff_stat.1 h
  obtain ⟨hnull, hlong, place, hwalk, -⟩ := stat_below_iff.1 hstat
  constructor
  · intro before after hnames
    have hfront : (root.names ++ before).Sublist (root.names ++ FilePath.namesOf p) := by
      rw [hnames]
      exact (List.sublist_append_left ..).append_left _
    rw [hnames, ← List.append_assoc, walk_append_eq_ok] at hwalk
    obtain ⟨folder, hfolder, hwalk⟩ := hwalk
    obtain ⟨_, hstep, -⟩ := walk_cons_eq_ok.1 hwalk
    exact isFolder_below_iff.2
      ⟨hasNull_of_sublist (p := { root with names := root.names ++ FilePath.namesOf p }) hfront hnull,
        isTooLong_of_sublist (p := { root with names := root.names ++ FilePath.namesOf p }) hfront hlong,
        folder, hfolder, (step_up_eq_ok.1 hstep).1⟩
  · rw [projectPath_eq, String.toList_ofList]
    exact hlong

theorem isStep_of_mem {ns : List String} (hns : ∀ n ∈ ns, n ∈ FilePath.namesOf p) (hup : ".." ∉ ns) :
    ∀ n ∈ ns.map String.toList, IsStep n := by
  intro n hn
  obtain ⟨s, hs, rfl⟩ := List.mem_map.1 hn
  exact isStep_toList (moves_of_mem_namesOf (hns s hs)) fun heq => hup (heq ▸ hs)

/-- A path without steps up has no detours. -/
theorem map_stepsOf_of_no_up (h : ".." ∉ FilePath.namesOf p) :
    (stepsOf p).map String.ofList = FilePath.namesOf p := by
  rw [stepsOf_eq]
  unfold collapsedNames
  rw [foldl_climb_of_isStep (isStep_of_mem (fun _ => id) h), List.append_nil, List.reverse_reverse,
    map_ofList_toList]

section Back

variable {before after : List String}

/-- Behind the last step up a walk is what is written. -/
theorem map_stepsOf_of_last_up (hnames : FilePath.namesOf p = before ++ ".." :: after)
    (hlast : ".." ∉ after) :
    (stepsOf p).map String.ofList
      = (collapsedNames false ((before ++ [".."]).map String.toList)).map String.ofList ++ after := by
  have hsteps : ∀ n ∈ after.map String.toList, IsStep n := isStep_of_mem (fun n hn => by
    rw [hnames]
    exact List.mem_append_right _ (List.mem_cons_of_mem _ hn)) hlast
  rw [stepsOf_eq, hnames, List.append_cons, List.map_append]
  unfold collapsedNames
  rw [List.foldl_append, foldl_climb_of_isStep hsteps, List.reverse_append, List.reverse_reverse,
    List.map_append, map_ofList_toList]

/-- A walk to a step up leads to the same place without detours. -/
theorem walk_back (hnames : FilePath.namesOf p = before ++ ".." :: after) {top place : List String}
    (h : t.walk top (before ++ [".."]) = .ok place) :
    t.walk top ((collapsedNames false ((before ++ [".."]).map String.toList)).map String.ofList)
      = .ok place := by
  have hstart : t.walk top (([] : List (List Char)).reverse.map String.ofList) = .ok top := rfl
  refine walk_collapsed _ hstart ?_
  rw [map_ofList_toList, List.filter_eq_self.2 fun n hn => ?_]
  · exact h
  · have hmem : n ∈ FilePath.namesOf p := by
      rw [hnames, List.append_cons]
      exact List.mem_append_left _ hn
    simpa using moves_of_mem_namesOf hmem

/-- If the last step up can be taken, then what follows it is walked alike, with the detours before it and
without them. -/
theorem walk_namesOf_eq_ok_iff (hnames : FilePath.namesOf p = before ++ ".." :: after)
    (hlast : ".." ∉ after) {top place target : List String}
    (h : t.walk top (before ++ [".."]) = .ok place) :
    t.walk top (FilePath.namesOf p) = .ok target ↔
      t.walk top ((stepsOf p).map String.ofList) = .ok target := by
  rw [map_stepsOf_of_last_up hnames hlast, hnames, List.append_cons, walk_append_eq_ok,
    walk_append_eq_ok, h, walk_back hnames h]

end Back

/-- A file that is found without detours is found as it is written, if that can be walked. -/
theorem hasFile_of_canBeWalked (hwalked : CanBeWalked t root p)
    (h : t.hasFile root (.ofList (ofNames (stepsOf p))) = true) : t.hasFile root (.ofList p) = true := by
  by_cases hup : ".." ∈ FilePath.namesOf p
  · obtain ⟨before, after, hnames, hlast⟩ := exists_last_of_mem hup
    obtain ⟨hnull, -, folder, hfolder, hnode⟩ :=
      isFolder_below_iff.1 (hwalked.back before after hnames)
    obtain ⟨top, htop, hbefore⟩ := walk_append_eq_ok.1 hfolder
    have hback : t.walk top (before ++ [".."]) = .ok folder.dropLast :=
      walk_concat_eq_ok.2 ⟨folder, hbefore, step_up_eq_ok.2 ⟨hnode, rfl⟩⟩
    obtain ⟨c, hstat⟩ := hasFile_iff_stat.1 h
    rw [namesOf_ofNames_stepsOf] at hstat
    obtain ⟨hnull', -, place, hplace, hfile⟩ := stat_below_iff.1 hstat
    obtain ⟨top', htop', hplace⟩ := walk_append_eq_ok.1 hplace
    obtain rfl : top = top' := Except.ok.inj (htop.symm.trans htop')
    have hwritten := (walk_namesOf_eq_ok_iff hnames hlast hback).2 hplace
    have hshort := hwalked.short
    rw [projectPath_eq, String.toList_ofList] at hshort
    refine hasFile_iff_stat.2 ⟨c, stat_below_iff.2
      ⟨?_, hshort, place, walk_append_eq_ok.2 ⟨top, htop, hwritten⟩, hfile⟩⟩
    -- A name stands before the last step up, or is one of the walk.
    rw [map_stepsOf_of_last_up hnames hlast] at hnull'
    rw [hnames]
    simp only [FilePath.hasNull, List.any_append, List.any_cons, Bool.or_eq_false_iff] at hnull hnull' ⊢
    exact ⟨hnull.1, hnull.2, by decide, hnull'.2.2⟩
  · rw [hasFile_congr (q := ofNames (stepsOf p))]
    · exact h
    · rw [namesOf_ofNames_stepsOf, map_stepsOf_of_no_up hup]

/-- **Looking up what is written.** A file is found as it is written if it is found without detours, and
what is written can be walked. -/
theorem hasFile_iff_walked :
    t.hasFile root (.ofList p) = true ↔
      CanBeWalked t root p ∧ t.hasFile root (.ofList (ofNames (stepsOf p))) = true := by
  refine ⟨fun h => ⟨canBeWalked_of_hasFile h, ?_⟩, fun h => hasFile_of_canBeWalked h.1 h.2⟩
  have hsteps := hasFile_stepsOf h
  rwa [String.toList_ofList] at hsteps

end Written

/-! ## Links from a document at the root -/

/-- A path that seems to start in the current directory and goes on like a rooted one does not lead above
its start. -/
def StaysBelowDot (p : List Char) : Prop := ".//".toList <+: p → up ∉ stepsOf p

instance (p : List Char) : Decidable (StaysBelowDot p) := inferInstanceAs (Decidable (_ → _))

/-- Collapsed or not, a path has the names of the walk along it. -/
theorem namesOf_collapseOrEmpty {p : List Char} (h : p.head? = some '/' → up ∉ stepsOf p) :
    FilePath.namesOf (collapseOrEmpty p) = (stepsOf p).map String.ofList := by
  by_cases hroot : p.head? = some '/'
  · have hsame : collapsedNames true (names p) = stepsOf p := by
      have hup : up ∉ (names p).foldl (climb false) [] := fun hmem => h hroot (List.mem_reverse.2 hmem)
      have hbase := foldl_climb_append true [] hup
      unfold stepsOf collapsedNames
      rw [List.append_nil, List.append_nil] at hbase
      rw [hbase]
    have hlead : (leadingSlashes p).isEmpty = false := by
      rw [← Bool.not_eq_true, isEmpty_leadingSlashes_iff, not_not]
      exact hroot
    have hcollapse : FilePath.namesOf (collapse p) = (stepsOf p).map String.ofList := by
      rw [namesOf_collapse, hlead, Bool.not_false, hsame]
    unfold collapseOrEmpty
    split
    · rename_i hempty
      rw [List.isEmpty_iff.1 hempty] at hroot
      cases hroot
    · simp only
      split
      · rename_i hhere
        rw [← hcollapse, hhere]
        decide
      · exact hcollapse
  · rw [collapseOrEmpty_of_relative hroot, namesOf_ofNames_stepsOf]

theorem namesOf_normalize {p : List Char} (hslash : '\\' ∉ p) :
    FilePath.namesOf (normalize p) = FilePath.namesOf p := by
  unfold DocPath.normalize
  rw [replaceChar_of_not_mem hslash]
  split
  · rename_i rest hrest
    rw [← namesOf_dropEnd_slash p, hrest]
    exact (namesOf_append_slash ['.'] rest).symm
  · exact namesOf_dropEnd_slash p

theorem unrooted_head_ne (p : List Char) : (unrooted p).head? ≠ some '/' := by
  intro hhead
  obtain ⟨rest, hrest⟩ := List.head?_eq_some_iff.1 hhead
  have hnone := unrooted_head p
  rw [hrest] at hnone
  cases hnone

/-- A relative path is rooted when it is normalized only if its first step stays in place. -/
theorem prefix_of_normalize_head {p : List Char} (hslash : '\\' ∉ p) (hrelative : p.head? ≠ some '/')
    (h : (normalize p).head? = some '/') : ".//".toList <+: p := by
  have hfront : dropEndWhile (· == '/') p <+: p := List.rdropWhile_prefix ..
  unfold DocPath.normalize at h
  rw [replaceChar_of_not_mem hslash] at h
  split at h
  · rename_i rest hrest
    obtain ⟨rest', rfl⟩ := List.head?_eq_some_iff.1 h
    rw [hrest] at hfront
    exact (List.prefix_append ".//".toList rest').trans hfront
  · obtain ⟨rest, hrest⟩ := List.head?_eq_some_iff.1 h
    obtain ⟨tail, htail⟩ := hfront
    rw [← htail, hrest] at hrelative
    exact absurd rfl hrelative

/-- **A link from a document at the root** spells the names of the walk along its target. -/
theorem namesOf_plainResolution {source p : List Char} (hroot : '/' ∉ source) (hslash : '\\' ∉ p)
    (h : StaysBelowDot p) :
    FilePath.namesOf (plainResolution source p) = (stepsOf p).map String.ofList := by
  have hsteps : ∀ {q}, FilePath.namesOf q = FilePath.namesOf (normalize p) → stepsOf q = stepsOf p :=
    fun hq => stepsOf_congr (hq.trans (namesOf_normalize hslash))
  by_cases hrooted : p.head? = some '/'
  · -- Without its leading slashes the path is not rooted.
    rw [plainResolution_of_rooted hslash hrooted, namesOf_collapseOrEmpty, hsteps (namesOf_unrooted _)]
    exact fun hhead => absurd hhead (unrooted_head_ne _)
  · rw [plainResolution_of_relative hslash hrooted, join_directory_of_no_slash hroot,
      namesOf_collapseOrEmpty, hsteps rfl]
    intro hhead
    rw [hsteps rfl]
    exact h (prefix_of_normalize_head hslash hrooted hhead)

/-- What a target of such a link spells is a file if the target is one without its detours. -/
theorem hasFile_plainResolution {t : FileTree} {root : FilePath} {source p : List Char}
    (hroot : '/' ∉ source) (hslash : '\\' ∉ p) (h : StaysBelowDot p) :
    t.hasFile root (.ofList (plainResolution source p))
      = t.hasFile root (.ofList (ofNames (stepsOf p))) :=
  hasFile_congr ((namesOf_plainResolution hroot hslash h).trans (namesOf_ofNames_stepsOf p).symm)

end DocLinks
