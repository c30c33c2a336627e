import DocLinks.Proofs.DocPath.Ways
import DocLinks.Proofs.Project.Pages
import DocLinks.Proofs.Target
import Mathlib.Data.List.TakeWhile

/-!
# Resolving what is written

A path that leads to a place leads to the same place without its detours (`placeOf_stepsOf`): a detour
goes through folders that are there, since the path is walked name by name. So a link whose target is
the way from its document to a file of the project means that file (`resolveLink_relativeTarget`).
-/

namespace DocLinks

open Text FileTree DocPath

/-! ## Detours -/

/-- A step up leads back to where the last step down began. -/
theorem step_up_of_step {t : FileTree} {place next back : List String} {name : String}
    (hname : name ≠ "..") (h : t.step place name = .ok next) (hup : t.step next ".." = .ok back) :
    back = place := by
  obtain rfl := step_down hname h
  obtain ⟨-, ⟨-, rfl⟩ | ⟨hne, -⟩⟩ := step_eq_ok_iff.1 hup
  · exact List.dropLast_concat
  · exact absurd rfl hne

/-- **A walk without its detours** leads to the same place. -/
theorem walk_collapsed {t : FileTree} {start : List String} (ns : List (List Char)) :
    ∀ {walked : List (List Char)} {place target : List String},
      t.walk start (walked.reverse.map String.ofList) = .ok place →
      t.walk place ((ns.map String.ofList).filter fun n => n ≠ "" ∧ n ≠ ".") = .ok target →
      t.walk start ((ns.foldl (climb false) walked).reverse.map String.ofList) = .ok target := by
  induction ns with
  | nil =>
    intro walked place target hplace htarget
    cases htarget
    exact hplace
  | cons n ns ih =>
    intro walked place target hplace htarget
    rw [List.foldl_cons]
    rw [List.map_cons] at htarget
    by_cases hstay : n = [] ∨ n = here
    · rw [List.filter_cons_of_neg (by rcases hstay with rfl | rfl <;> decide)] at htarget
      rw [climb_of_stay hstay]
      exact ih hplace htarget
    · have hempty : String.ofList n ≠ "" := fun h => hstay (.inl (String.ofList_injective h))
      have hdot : String.ofList n ≠ "." := fun h => hstay (.inr (String.ofList_injective h))
      rw [List.filter_cons_of_pos (by simp [hempty, hdot]), walk_cons_eq_ok] at htarget
      obtain ⟨next, hstep, htarget⟩ := htarget
      by_cases hback : climb false walked n = n :: walked
      · rw [hback]
        refine ih ?_ htarget
        rw [List.reverse_cons, List.map_append, List.map_singleton, walk_concat_eq_ok]
        exact ⟨place, hplace, hstep⟩
      · -- The step up takes back the last step down.
        obtain ⟨rfl, last, hwalked, hlast⟩ := (climbs false walked n).back_of_ne hstay hback
        rw [hwalked, List.reverse_cons, List.map_append, List.map_singleton, walk_concat_eq_ok] at hplace
        obtain ⟨before, hbefore, hdown⟩ := hplace
        have hname : String.ofList last ≠ ".." := fun h => hlast (String.ofList_injective h)
        obtain rfl := step_up_of_step hname hdown hstep
        exact ih hbefore htarget

/-- None of the names of a path without detours stays in place. -/
theorem filter_collapsedNames (rooted : Bool) (ns : List (List Char)) :
    (((collapsedNames rooted ns).map String.ofList).filter fun n => n ≠ "" ∧ n ≠ ".")
      = (collapsedNames rooted ns).map String.ofList := by
  rw [List.filter_eq_self]
  intro s hs
  obtain ⟨n, hn, rfl⟩ := List.mem_map.1 hs
  obtain ⟨hempty, hhere⟩ := ne_of_mem_collapsedNames hn
  have hempty' : String.ofList n ≠ "" := fun h => hempty (String.ofList_injective h)
  have hdot : String.ofList n ≠ "." := fun h => hhere (String.ofList_injective h)
  simp [hempty', hdot]

theorem namesOf_ofNames_collapsedNames (rooted : Bool) (p : List Char) :
    FilePath.namesOf (ofNames (collapsedNames rooted (names p)))
      = (collapsedNames rooted (names p)).map String.ofList := by
  by_cases hne : collapsedNames rooted (names p) = []
  · rw [hne]
    decide
  · have hnames : (ofNames (collapsedNames rooted (names p))).splitOn '/'
        = collapsedNames rooted (names p) :=
      names_ofNames (fun n => slash_not_mem_of_mem_collapsedNames) hne
    rw [FilePath.namesOf, hnames, filter_collapsedNames]

theorem namesOf_ofNames_stepsOf (p : List Char) :
    FilePath.namesOf (ofNames (stepsOf p)) = (stepsOf p).map String.ofList :=
  namesOf_ofNames_collapsedNames false p

/-- The names of a path without detours are read again. -/
theorem namesOf_collapse (p : List Char) :
    FilePath.namesOf (collapse p)
      = (collapsedNames (!(leadingSlashes p).isEmpty) (names p)).map String.ofList := by
  obtain ⟨k, hlead⟩ := exists_leadingSlashes p
  have hresult : FilePath.namesOf (leadingSlashes p
        ++ ofNames (collapsedNames (!(leadingSlashes p).isEmpty) (names p)))
      = (collapsedNames (!(leadingSlashes p).isEmpty) (names p)).map String.ofList := by
    conv_lhs => rw [hlead, namesOf_replicate_slash]
    rw [← hlead, namesOf_ofNames_collapsedNames]
  unfold collapse
  simp only
  split
  · rename_i hempty
    rw [← hresult, List.isEmpty_iff.1 hempty]
    decide
  · exact hresult

/-- **A path without its detours** leads to the same place. -/
theorem placeOf_stepsOf {t : FileTree} {root : FilePath} {path : String} {place : List String}
    (h : t.placeOf (projectPath root path) = .ok place) :
    t.placeOf (projectPath root (.ofList (ofNames (stepsOf path.toList)))) = .ok place := by
  rw [placeOf_eq_ok_iff, start_projectPath, projectPath_eq, walk_append] at h ⊢
  rw [String.toList_ofList, namesOf_ofNames_stepsOf]
  rcases hroot : t.walk (t.start root) root.names with e | folder
  · rw [hroot] at h
    cases h
  · rw [hroot] at h
    exact walk_collapsed (names path.toList) rfl h

/-- A file is found by its path without detours. -/
theorem hasFile_stepsOf {t : FileTree} {root : FilePath} {path : String}
    (h : t.hasFile root path = true) :
    t.hasFile root (.ofList (ofNames (stepsOf path.toList))) = true := by
  obtain ⟨c, hstat⟩ := isFile_iff_stat.1 h
  obtain ⟨hnull, hlong, place, hwalk, hnode⟩ := stat_eq_file_iff.1 hstat
  have hplace := placeOf_stepsOf (placeOf_eq_ok_iff.2 hwalk)
  -- The path has become shorter.
  have hsub : ((stepsOf path.toList).map String.ofList).Sublist (FilePath.namesOf path.toList) := by
    unfold stepsOf
    rw [← filter_collapsedNames]
    exact ((collapsedNames_sublist false (names path.toList)).map String.ofList).filter _
  have hnames : (root.names ++ (stepsOf path.toList).map String.ofList).Sublist
      (projectPath root path).names := by
    rw [projectPath_eq]
    exact hsub.append_left root.names
  have hfound : t.stat (projectPath root (.ofList (ofNames (stepsOf path.toList)))) = .ok (.file c) := by
    refine stat_eq_file_iff.2 ⟨?_, ?_, place, placeOf_eq_ok_iff.1 hplace, hnode⟩
    all_goals rw [projectPath_eq, String.toList_ofList, namesOf_ofNames_stepsOf]
    · have := hasNull_of_sublist hnames hnull
      rwa [projectPath_eq] at this
    · have := isTooLong_of_sublist hnames hlong
      rwa [projectPath_eq] at this
  exact isFile_iff_stat.2 ⟨c, hfound⟩

/-! ## Links between documents -/

theorem isFile_resolveLink (t : FileTree) (root : FilePath) (source target : String) :
    (resolveLink t root source target).isFile
      = t.hasFile root (resolveLink t root source target).resolved := by
  simp only [resolveLink]

theorem resolved_resolveLink (t : FileTree) (root : FilePath) (source target : String) :
    (resolveLink t root source target).resolved
      = if (Target.path target.toList).isEmpty then source
        else .ofList (withFallback t root (plainResolution source.toList (Target.path target.toList))) :=
  rfl

/-- **A link that is written for a file** of the project means that file. -/
theorem resolveLink_relativeTarget {t : FileTree} {root : FilePath} {source path target : String}
    {cwd : List (List Char)} (hdir : StaysInside (directory source.toList))
    (hpath : StaysInside path.toList) (hfile : t.hasFile root path = true)
    (htarget : target.toList = relativeTarget cwd source.toList path.toList)
    (hhash : '#' ∉ relativeTarget cwd source.toList path.toList)
    (hslash : '\\' ∉ relativeTarget cwd source.toList path.toList) :
    (resolveLink t root source target).resolved = .ofList (ofNames (stepsOf path.toList)) ∧
      (resolveLink t root source target).isFile = true := by
  have hfound := hasFile_stepsOf hfile
  obtain ⟨rest, hrest⟩ := relativeTarget_eq_cons hdir hpath cwd
  have hresolved : (resolveLink t root source target).resolved
      = .ofList (ofNames (stepsOf path.toList)) := by
    unfold resolveLink Target.splitAnchor
    simp only [htarget, Target.path_eq_self_iff.2 hhash]
    rw [if_neg (by rw [hrest]; simp), plainResolution_relativeTarget hdir hpath hslash, withFallback,
      if_pos (.inr hfound)]
  exact ⟨hresolved, by rw [isFile_resolveLink, hresolved, hfound]⟩

end DocLinks
