import DocLinks.Checker
import DocLinks.Proofs.Config.Usable

/-!
# Making a checker

A checker is made of a configuration and of the tree, and making it changes the log only
(`create_run`). From a usable configuration one is made unless the project is not there
(`createdIn_of_filled`); from a configuration with null in the place of the settings of the link
checker or of the excluded folders none is ever made (`createdIn_of_null`).
-/

namespace DocLinks.Checker

open Config

variable {σ : Type} {t : FileTree} {config c d : Dict} {s : Checker}

/-- Giving a configuration its defaults never fails for a mapping. -/
theorem mergeWithDefaults_of_bare {v : Value} (h : v.bare = .dict d) :
    mergeWithDefaults v = .ok (overlay d) := by
  -- What counts as false is replaced by a mapping without sections, and has none itself.
  have hempty : v.isTruthy = false → d = [] := by
    intro htruthy
    cases v with
    | dict e =>
      cases h
      simpa [Value.isTruthy] using htruthy
    | shared n loops u =>
      by_cases hu : ∃ e, u = .dict e
      · obtain ⟨e, rfl⟩ := hu
        have he : e = [] := by simpa [Value.isTruthy] using htruthy
        have hd : entriesOf (.shared n loops (.dict e)) = d := by rw [entriesOf, h]; rfl
        rw [← hd, entriesOf_shared, he]
        split <;> rfl
      · exact absurd h (Value.bare_shared_ne_dict (not_exists.1 hu) d)
    | _ => cases h
  unfold mergeWithDefaults
  split
  · rw [h]
  · rename_i htruthy
    rw [hempty (by simpa using htruthy)]

/-- The table of a file that may be missing. -/
def tableIn (t : FileTree) (p : FilePath) : Except Fault RedirectTable :=
  if t.isFile p then (RedirectTable.ofFile t p).mapError .redirects else .ok .empty

theorem loadTable_run (p : FilePath) (w : Workspace σ) :
    ∃ log, loadTable p w = (tableIn w.tree p, { w with log }) := by
  unfold loadTable tableIn
  rw [Work.bind_run_of_ok (Work.tree_run w)]
  split
  · exact ⟨w.log, Work.ofExcept_run _ w⟩
  · exact ⟨_, rfl⟩

/-- The checker of a configuration that is merged with the defaults. -/
def createdIn (t : FileTree) (config : Dict) : Except Fault Checker := do
  let places ← placesOf t config
  let settings ← checkerSettings config
  let maxFileSize ← setting config "link_checker" "max_file_size"
  let table ← tableIn t places.redirects
  let dirs ← setting config "link_checker" "exclude_dirs"
  let excludeDirs ← asItems dirs
  let context ← Context.create t places.root (some table) excludeDirs
  return {
    config, context, maxFileSize
    navigationPath := places.navigation
    redirectsPath := places.redirects
    scanPath := (Dict.get? settings "path").getD .null
    checkAnchors := ((Dict.get? settings "check_anchors").getD (.bool true)).isTruthy }

/-- **Making a checker** changes the log only. -/
theorem ofMerged_run (config : Dict) (w : Workspace σ) :
    ∃ log, ofMerged config w = (createdIn w.tree config, { w with log }) := by
  unfold ofMerged createdIn
  rw [Work.bind_run_of_ok (Work.tree_run w)]
  rcases placesOf w.tree config with e | places
  · exact ⟨w.log, by rw [Work.bind_run, Work.ofExcept_run]; rfl⟩
  rw [Work.bind_ofExcept_run rfl, ok_bind]
  rcases checkerSettings config with e | settings
  · exact ⟨w.log, by rw [Work.bind_run, Work.ofExcept_run]; rfl⟩
  rw [Work.bind_ofExcept_run rfl, ok_bind]
  rcases setting config "link_checker" "max_file_size" with e | maxFileSize
  · exact ⟨w.log, by rw [Work.bind_run, Work.ofExcept_run]; rfl⟩
  rw [Work.bind_ofExcept_run rfl, ok_bind]
  obtain ⟨log, hlog⟩ := loadTable_run places.redirects w
  refine ⟨log, ?_⟩
  rw [Work.bind_run, hlog]
  rcases tableIn w.tree places.redirects with e | table
  · rfl
  rw [ok_bind]
  simp only
  rcases setting config "link_checker" "exclude_dirs" with e | dirs
  · rw [Work.bind_run, Work.ofExcept_run]
    rfl
  rw [Work.bind_ofExcept_run rfl, ok_bind]
  rcases asItems dirs with e | excludeDirs
  · rw [Work.bind_run, Work.ofExcept_run]
    rfl
  rw [Work.bind_ofExcept_run rfl, ok_bind, Work.bind_run_of_ok (Work.tree_run _)]
  rcases Context.create w.tree places.root (some table) excludeDirs with e | context
  · rw [Work.bind_run, Work.ofExcept_run]
    rfl
  · rfl

theorem create_run {v : Value} (h : v.bare = .dict d) (w : Workspace σ) :
    ∃ log, create v w = (createdIn w.tree (overlay d), { w with log }) := by
  unfold create
  rw [mergeWithDefaults_of_bare h, Work.bind_ofExcept_run rfl]
  exact ofMerged_run (overlay d) w

/-! ## Faults -/

/-- Nothing has a shape that is not expected. -/
def IsWellShaped {α : Type} (r : Except Fault α) : Prop := ∀ f, r ≠ .error (.shape f)

theorem IsWellShaped.bind {α β : Type} {x : Except Fault α} {f : α → Except Fault β}
    (hx : IsWellShaped x) (hf : ∀ a, x = .ok a → IsWellShaped (f a)) : IsWellShaped (x >>= f) := by
  cases x with
  | error e =>
    intro g h
    rw [error_bind] at h
    cases h
    exact hx g rfl
  | ok a => exact hf a rfl

theorem isWellShaped_ok {α : Type} (a : α) : IsWellShaped (.ok a : Except Fault α) := nofun

theorem isWellShaped_validateRoot (t : FileTree) (root : FilePath) :
    IsWellShaped (validateRoot t root) := by
  unfold validateRoot
  split
  · exact nofun
  · simp only
    split <;> exact nofun

theorem isWellShaped_validateContained (t : FileTree) (path container : FilePath) :
    IsWellShaped (validateContained t path container) := by
  by_cases hnull : container.hasNull = true ∨ path.hasNull = true
  · rw [validateContained_of_hasNull hnull]
    exact nofun
  · rcases validateContained_of_not_hasNull (t := t) hnull with ⟨p, hp⟩ | ⟨f, hf⟩
    · rw [hp]
      exact nofun
    · rw [hf]
      exact nofun

theorem isWellShaped_tableIn (t : FileTree) (p : FilePath) : IsWellShaped (tableIn t p) := by
  unfold tableIn RedirectTable.ofFile
  split
  · split <;> exact nofun
  · exact nofun

/-! ## Usable configurations -/

theorem setting_eq_ok {c m : Dict} {section? name : String} {v : Value}
    (hm : Dict.get? c section? = some (.dict m)) (hv : Dict.get? m name = some v) :
    setting c section? name = .ok v := by
  unfold setting
  simp only [hm, hv]

/-- Values that name folders are lists of texts, unless they are null. -/
theorem asItems_of_namesFolders {v : Value} (h : NamesFolders v.bare) (hnull : v.bare ≠ .null) :
    ∃ dirs : List String, asItems v = .ok (dirs.map .text) := by
  unfold asItems
  generalize v.bare = u at h hnull
  cases h with
  | null => exact absurd rfl hnull
  -- The items of a text are its characters.
  | text s => exact ⟨s.toList.map String.singleton, by rw [List.map_map]; rfl⟩
  | texts ss => exact ⟨ss, rfl⟩

/-- A setting that has a default is there. -/
theorem exists_setting {m : Dict} {section? key : String} {P : Value → Prop}
    (hm : Dict.get? c section? = some (.dict m)) (hkeys : HasKeys (defaultsOf section?) m)
    (hkey : key ∈ (defaultsOf section?).map Prod.fst) (hP : Permits m key P) :
    ∃ v, setting c section? key = .ok v ∧ Dict.get? m key = some v ∧ P v := by
  obtain ⟨e, he, rfl⟩ := List.mem_map.1 hkey
  obtain ⟨v, hv⟩ := Option.isSome_iff_exists.1 (hkeys e he)
  exact ⟨v, setting_eq_ok hm hv, hv, hP v hv⟩

/-- The places of a project are texts, so that only the tree decides whether they are found. -/
theorem isWellShaped_placesOf (h : Usable d c) (t : FileTree) : IsWellShaped (placesOf t c) := by
  obtain ⟨m, hm, -, hkeys, hp⟩ : ∃ m, Dict.get? c "project" = some (.dict m) ∧ Dict.IsKeyed m ∧
      HasKeys (defaultsOf "project") m ∧ ProjectSettings m := by
    rcases h.projectSettings with ⟨hnull, -⟩ | ⟨-, hm⟩
    · exact absurd hnull h.project
    · exact hm
  obtain ⟨_, hroot, -, root, rfl⟩ := exists_setting hm hkeys (by decide) hp.root
  obtain ⟨_, hnavigation, -, navigation, rfl⟩ := exists_setting hm hkeys (by decide) hp.navigation
  obtain ⟨_, hredirects, -, redirects, rfl⟩ := exists_setting hm hkeys (by decide) hp.redirects
  unfold placesOf
  rw [hroot, hnavigation, hredirects]
  simp only [ok_bind, asPath]
  refine (isWellShaped_validateRoot t _).bind fun root' _ => ?_
  refine (isWellShaped_validateContained t _ _).bind fun navigation' _ => ?_
  exact (isWellShaped_validateContained t _ _).bind fun _ _ => isWellShaped_ok _

/-- **The checker of a configuration** in which neither the section of the link checker nor its
excluded folders are null: only its places, its table and its root depend on the tree. -/
theorem createdIn_of_filled
    (h : Filled d c "link_checker" (CheckerSettings (sectionOf d "link_checker")))
    (hchecker : ¬IsNullSection d "link_checker")
    (hdirs : ¬IsNullSection (sectionOf d "link_checker") "exclude_dirs") :
    ∃ (m : Dict) (n : Int) (dirs : List String), CheckerSettings (sectionOf d "link_checker") m ∧
      0 < n ∧ ∀ t, createdIn t c = do
        let places ← placesOf t c
        let table ← tableIn t places.redirects
        let context ← Context.create t places.root (some table) (dirs.map .text)
        return {
          config := c, context, maxFileSize := .int n
          navigationPath := places.navigation
          redirectsPath := places.redirects
          scanPath := (Dict.get? m "path").getD .null
          checkAnchors := ((Dict.get? m "check_anchors").getD (.bool true)).isTruthy } := by
  rcases h with ⟨hnull, -⟩ | ⟨-, m, hm, -, hkeys, hp⟩
  · exact absurd hnull hchecker
  · obtain ⟨_, hsize, -, n, rfl, hn⟩ := exists_setting hm hkeys (by decide) hp.maxFileSize
    obtain ⟨v, hv, hget, hfolders⟩ := exists_setting hm hkeys (by decide) hp.excludeDirs
    have hnull : v.bare ≠ .null := fun hbare => hdirs (hp.nullDirs.1 ⟨v, hget, hbare⟩)
    obtain ⟨dirs, hitems⟩ := asItems_of_namesFolders hfolders hnull
    refine ⟨m, n, dirs, hp, hn, fun t => ?_⟩
    unfold createdIn
    have hsettings : checkerSettings c = .ok m := by
      unfold checkerSettings
      simp only [hm]
    simp only [hsettings, hsize, hv, hitems, ok_bind]

/-- Whether it is made is then a matter of the tree. -/
theorem isWellShaped_createdIn (h : Usable d c) (hchecker : ¬IsNullSection d "link_checker")
    (hdirs : ¬IsNullSection (sectionOf d "link_checker") "exclude_dirs") (t : FileTree) :
    IsWellShaped (createdIn t c) := by
  obtain ⟨m, n, dirs, -, -, hcreated⟩ := createdIn_of_filled h.checker hchecker hdirs
  rw [hcreated]
  refine (isWellShaped_placesOf h t).bind fun places _ => ?_
  refine (isWellShaped_tableIn t _).bind fun table _ => ?_
  refine IsWellShaped.bind ?_ fun _ _ => isWellShaped_ok _
  exact (isWellShaped_validateRoot t _).bind fun _ _ => isWellShaped_ok _

/-- **With null in their place no checker is made.** -/
theorem createdIn_of_null
    (h : Filled d c "link_checker" (CheckerSettings (sectionOf d "link_checker")))
    (hnull : IsNullSection d "link_checker" ∨
      IsNullSection (sectionOf d "link_checker") "exclude_dirs") (t : FileTree) (s : Checker) :
    createdIn t c ≠ .ok s := by
  intro hs
  obtain ⟨places, -, hs⟩ := bind_eq_ok_iff.1 hs
  obtain ⟨settings, hsettings, hs⟩ := bind_eq_ok_iff.1 hs
  obtain ⟨maxFileSize, -, hs⟩ := bind_eq_ok_iff.1 hs
  obtain ⟨table, -, hs⟩ := bind_eq_ok_iff.1 hs
  obtain ⟨dirs, hdirs, hs⟩ := bind_eq_ok_iff.1 hs
  obtain ⟨items, hitems, -⟩ := bind_eq_ok_iff.1 hs
  rcases h with ⟨-, v, hv, hbare⟩ | ⟨hmapping, m, hm, -, -, hp⟩
  · unfold checkerSettings at hsettings
    rw [hv] at hsettings
    cases v <;> cases hsettings
    cases hbare
  · obtain ⟨v, hv, hbare⟩ := hp.nullDirs.2 (hnull.resolve_left hmapping)
    rw [setting_eq_ok hm hv] at hdirs
    cases hdirs
    unfold asItems at hitems
    rw [hbare] at hitems
    cases hitems

end DocLinks.Checker
