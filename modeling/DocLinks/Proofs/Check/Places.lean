import DocLinks.Proofs.Check.Creating
import DocLinks.Proofs.FileTree.Changes
import DocLinks.Proofs.Project.Containment
import DocLinks.Proofs.Project.Resolving
import DocLinks.Proofs.Redirect.Recording

/-!
# The places of a checker

The root of a project and the files that a configuration names are resolved paths: they lead down
from the root of the file system (`FilePath.IsResolved`). A checker is made only if its navigation file
and the file of its redirects lie below its root (`isPlaced_createdIn`).

## Contents
- `exists_stat_of_below`: what stands above a file.
- `Checker.placesOf_eq_ok_iff`, `Checker.createdIn_inv`: what a checker is made of.
- `Checker.IsPlaced`, `Checker.isPlaced_createdIn`: the places of a checker.
-/

namespace DocLinks

variable {t : FileTree} {p : FilePath}

/-! ## Above a file -/

/-- On the way to a file there is something at every name. -/
theorem exists_stat_of_below {front : FilePath} {c : Content} (hslashes : front.slashes = p.slashes)
    (hbelow : front.isBelow p = true) (hp : t.stat p = .ok (.file c)) : ∃ n, t.stat front = .ok n := by
  obtain ⟨hnull, hlong, place, hwalk, hnode⟩ := FileTree.stat_eq_file_iff.1 hp
  obtain ⟨rest, hrest⟩ := List.isPrefixOf_iff_prefix.1 hbelow
  have hfront : front = { p with names := front.names } := by rw [← hslashes]
  have hsub : front.names.Sublist p.names := hrest ▸ List.sublist_append_left _ _
  have hnull' : front.hasNull = false := hfront ▸ FileTree.hasNull_of_sublist hsub hnull
  have hlong' : FileTree.isTooLong front = false := hfront ▸ FileTree.isTooLong_of_sublist hsub hlong
  have hstart : t.start front = t.start p := by
    unfold FileTree.start FilePath.isAbsolute
    rw [hslashes]
  rw [← hrest, FileTree.walk_append] at hwalk
  rcases hw : t.walk (t.start p) front.names with e | q
  · rw [hw] at hwalk
    cases hwalk
  · rw [hw] at hwalk
    -- Either the walk is over, or it goes on from there.
    have hsome : ∃ n, t.node? q = some n := by
      rcases rest with _ | ⟨n, ns⟩
      · cases hwalk
        exact ⟨_, hnode⟩
      · obtain ⟨_, hstep, -⟩ := FileTree.walk_cons_eq_ok.1 hwalk
        exact ⟨_, FileTree.folder_of_step hstep⟩
    obtain ⟨n, hn⟩ := hsome
    refine ⟨n, ?_⟩
    unfold FileTree.stat
    simp only [hnull', hlong', hstart, hw, hn, Bool.false_eq_true, if_false]

/-! ## What is checked about places -/

theorem validateRoot_ok {root : FilePath} (h : validateRoot t root = .ok p) :
    p.IsResolved ∧ t.stat p = .ok .folder := by
  unfold validateRoot at h
  split at h
  · cases h
  · simp only at h
    split at h
    · cases h
    · cases h
    · cases h
    · rename_i hprobe
      cases h
      exact ⟨FilePath.isResolved_resolve _ _, FileTree.probe_eq_some_iff.1 hprobe⟩

/-- A root that has been validated is validated as it is. -/
theorem validateRoot_of_isResolved {root : FilePath} (hroot : root.IsResolved)
    (h : validateRoot t root = .ok p) : p = root := by
  unfold validateRoot at h
  split at h
  · cases h
  · simp only [FilePath.resolve_of_isResolved hroot] at h
    split at h <;> cases h
    rfl

/-! ## The places of a checker -/

namespace Checker

/-- The navigation file and the file of the redirects lie below the root. -/
structure IsPlaced (s : Checker) : Prop where
  root : s.context.root.IsResolved
  navigation : s.navigationPath.IsResolved
  navigationBelow : s.context.root.isBelow s.navigationPath = true
  redirects : s.redirectsPath.IsResolved
  redirectsBelow : s.context.root.isBelow s.redirectsPath = true

/-- A checker that has the settings of another one, whatever it remembers of the files. -/
structure IsSetAs (s' s : Checker) : Prop where
  scope : s' = { s with context := s'.context }
  root : s'.context.root = s.context.root
  excludeDirs : s'.context.excludeDirs = s.context.excludeDirs

theorem IsSetAs.refl (s : Checker) : s.IsSetAs s := ⟨rfl, rfl, rfl⟩

theorem IsSetAs.trans {s s' s'' : Checker} (h : s''.IsSetAs s') (h' : s'.IsSetAs s) :
    s''.IsSetAs s where
  scope := by
    have hs := h.scope
    rw [h'.scope] at hs
    exact hs
  root := h.root.trans h'.root
  excludeDirs := h.excludeDirs.trans h'.excludeDirs

variable {s : Checker}

theorem IsPlaced.of_isSetAs {s' : Checker} (h : s.IsPlaced) (hset : s'.IsSetAs s) : s'.IsPlaced := by
  obtain ⟨hscope, hroot, -⟩ := hset
  have hnavigation : s'.navigationPath = s.navigationPath := by rw [hscope]
  have hredirects : s'.redirectsPath = s.redirectsPath := by rw [hscope]
  refine ⟨?_, ?_, ?_, ?_, ?_⟩
  · rw [hroot]
    exact h.root
  · rw [hnavigation]
    exact h.navigation
  · rw [hroot, hnavigation]
    exact h.navigationBelow
  · rw [hredirects]
    exact h.redirects
  · rw [hroot, hredirects]
    exact h.redirectsBelow

/-- The places that a configuration sets: each setting is a path, the root is validated, and the files are
looked up from there. -/
theorem placesOf_eq_ok_iff {config : Dict} {places : Places} : placesOf t config = .ok places ↔
    (∃ v path, setting config "project" "root" = .ok v ∧ asPath v = .ok path ∧
      validateRoot t path = .ok places.root) ∧
    (∃ v path, setting config "project" "navigation_file" = .ok v ∧ asPath v = .ok path ∧
      validateContained t path places.root = .ok places.navigation) ∧
    (∃ v path, setting config "project" "redirects_file" = .ok v ∧ asPath v = .ok path ∧
      validateContained t path places.root = .ok places.redirects) := by
  constructor
  · intro h
    obtain ⟨v, hv, h⟩ := Config.bind_eq_ok_iff.1 h
    obtain ⟨path, hpath, h⟩ := Config.bind_eq_ok_iff.1 h
    obtain ⟨root, hroot, h⟩ := Config.bind_eq_ok_iff.1 h
    obtain ⟨v', hv', h⟩ := Config.bind_eq_ok_iff.1 h
    obtain ⟨path', hpath', h⟩ := Config.bind_eq_ok_iff.1 h
    obtain ⟨navigation, hnavigation, h⟩ := Config.bind_eq_ok_iff.1 h
    obtain ⟨v'', hv'', h⟩ := Config.bind_eq_ok_iff.1 h
    obtain ⟨path'', hpath'', h⟩ := Config.bind_eq_ok_iff.1 h
    obtain ⟨redirects, hredirects, h⟩ := Config.bind_eq_ok_iff.1 h
    cases h
    exact ⟨⟨v, path, hv, hpath, hroot⟩, ⟨v', path', hv', hpath', hnavigation⟩,
      ⟨v'', path'', hv'', hpath'', hredirects⟩⟩
  · rintro ⟨⟨v, path, hv, hpath, hroot⟩, ⟨v', path', hv', hpath', hnavigation⟩,
      ⟨v'', path'', hv'', hpath'', hredirects⟩⟩
    unfold placesOf
    rw [hv, Config.ok_bind, hpath, Config.ok_bind, hroot, Config.ok_bind, hv', Config.ok_bind, hpath',
      Config.ok_bind, hnavigation, Config.ok_bind, hv'', Config.ok_bind, hpath'', Config.ok_bind,
      hredirects]
    rfl

theorem placesOf_ok {config : Dict} {places : Places} (h : placesOf t config = .ok places) :
    places.root.IsResolved ∧ places.navigation.IsResolved ∧
      places.root.isBelow places.navigation = true ∧ places.redirects.IsResolved ∧
      places.root.isBelow places.redirects = true := by
  obtain ⟨⟨_, _, -, -, hroot⟩, ⟨_, _, -, -, hnavigation⟩, ⟨_, _, -, -, hredirects⟩⟩ :=
    placesOf_eq_ok_iff.1 h
  obtain ⟨hresolved, -⟩ := validateRoot_ok hroot
  obtain ⟨hnav, hnavBelow⟩ := validateContained_ok hresolved hnavigation
  obtain ⟨hred, hredBelow⟩ := validateContained_ok hresolved hredirects
  exact ⟨hresolved, hnav, hnavBelow, hred, hredBelow⟩

/-- **What a checker is made of.** Its places and its table depend on the tree, and its settings on the
configuration only. It is made without memories. -/
theorem createdIn_inv {config : Dict} (h : createdIn t config = .ok s) :
    ∃ places settings table dirs items, placesOf t config = .ok places ∧
      checkerSettings config = .ok settings ∧
      setting config "link_checker" "max_file_size" = .ok s.maxFileSize ∧
      tableIn t places.redirects = .ok table ∧
      setting config "link_checker" "exclude_dirs" = .ok dirs ∧ asItems dirs = .ok items ∧
      validateRoot t places.root = .ok places.root ∧
      s = { config
            maxFileSize := s.maxFileSize
            context := { root := places.root, excludeDirs := items, table := some table }
            navigationPath := places.navigation
            redirectsPath := places.redirects
            scanPath := (Dict.get? settings "path").getD .null
            checkAnchors := ((Dict.get? settings "check_anchors").getD (.bool true)).isTruthy } := by
  obtain ⟨places, hplaces, h⟩ := Config.bind_eq_ok_iff.1 h
  obtain ⟨settings, hsettings, h⟩ := Config.bind_eq_ok_iff.1 h
  obtain ⟨maxFileSize, hsize, h⟩ := Config.bind_eq_ok_iff.1 h
  obtain ⟨table, htable, h⟩ := Config.bind_eq_ok_iff.1 h
  obtain ⟨dirs, hdirs, h⟩ := Config.bind_eq_ok_iff.1 h
  obtain ⟨items, hitems, h⟩ := Config.bind_eq_ok_iff.1 h
  obtain ⟨context, hcontext, h⟩ := Config.bind_eq_ok_iff.1 h
  cases h
  obtain ⟨root, hroot, hcontext⟩ := Config.bind_eq_ok_iff.1 hcontext
  cases hcontext
  -- The root is validated twice, the second time as it was found.
  obtain rfl := validateRoot_of_isResolved (placesOf_ok hplaces).1 hroot
  exact ⟨places, settings, table, dirs, items, hplaces, hsettings, hsize, htable, hdirs, hitems, hroot,
    rfl⟩

/-- A table that comes from a file has been read from it. -/
theorem read_of_tableIn {table : RedirectTable} (h : tableIn t p = .ok table) {file : FilePath}
    (hfile : table.file = some file) : file = p ∧
      ∃ content, t.read p FileTree.defaultLimit = .ok content ∧ table = .ofText content (some p) := by
  unfold tableIn at h
  split at h
  · rcases hread : RedirectTable.ofFile t p with f | read
    · rw [hread] at h
      cases h
    · rw [hread] at h
      cases h
      obtain ⟨content, hcontent, rfl⟩ := ofFile_eq_ok hread
      exact ⟨(Option.some.inj hfile).symm, content, hcontent, rfl⟩
  · cases h
    cases hfile

/-- **The places of a checker** are below its root, and its redirects are recorded nowhere else. -/
theorem isPlaced_createdIn {config : Dict} (h : createdIn t config = .ok s) :
    s.IsPlaced ∧ ∀ file, s.context.table.bind (·.file) = some file → file = s.redirectsPath := by
  obtain ⟨places, settings, table, dirs, items, hplaces, -, -, htable, -, -, -, hs⟩ := createdIn_inv h
  obtain ⟨hroot, hnav, hnavBelow, hred, hredBelow⟩ := placesOf_ok hplaces
  rw [hs]
  exact ⟨⟨hroot, hnav, hnavBelow, hred, hredBelow⟩, fun file hfile => (read_of_tableIn htable hfile).1⟩

end Checker

end DocLinks
