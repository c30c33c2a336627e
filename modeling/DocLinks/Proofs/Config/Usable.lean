import DocLinks.Config.Check
import DocLinks.Proofs.Config.Answers
import DocLinks.Proofs.Config.Sections

/-!
# Usable configurations

What the sections of a configuration are if the rules find no error in them, and what they become
with their defaults: mappings with all default keys, in which every setting is as its rule wants it,
unless a section is null. A null section takes the place of its defaults, and is no mapping.

## Contents
- `Accepted`, `accepted_of_isClean`: what no errors say about the sections as they were given.
- `Usable`, `usable_of_withRoot`: what they are in a configuration with its defaults and its root.
- `Usable.overlay`: defaults that are given once more change nothing.
-/

namespace DocLinks.Config

open Value Dict

variable {σ : Type} {t : FileTree} {base : FilePath} {checkPaths : Bool} {c d m : Dict}

/-! ## Sections without errors -/

/-- A text. -/
def IsText (v : Value) : Prop := ∃ s, v = .text s

/-- The sections of a configuration in which the rules find no error. -/
structure Accepted (d : Dict) : Prop where
  project : SectionForm d "project" (sectionOf d "project")
  checker : SectionForm d "link_checker" (sectionOf d "link_checker")
  fixes : SectionForm d "fixes" (sectionOf d "fixes")
  logging : SectionForm d "logging" (sectionOf d "logging")
  navigation : Permits (sectionOf d "project") "navigation_file" IsText
  redirects : Permits (sectionOf d "project") "redirects_file" IsText
  path : Permits (sectionOf d "link_checker") "path" fun v => v = .null ∨ IsText v
  excludeDirs : Permits (sectionOf d "link_checker") "exclude_dirs" fun v => NamesFolders v.bare
  maxFileSize : Permits (sectionOf d "link_checker") "max_file_size" fun v =>
    ∃ n, v = .int n ∧ 0 < n
  tier : Permits (sectionOf d "fixes") "auto_fix_confidence" fun v =>
    ∃ s c, v = .text s ∧ Confidence.ofValue v = .ok c

theorem checkProject_accepts {project : Dict} {root : FilePath} {found : List Finding}
    (h : checkProject t base checkPaths project = .ok (root, found)) (hclean : IsClean found) :
    Permits project "navigation_file" IsText ∧ Permits project "redirects_file" IsText := by
  obtain ⟨⟨root', ofRoot⟩, -, h⟩ := bind_eq_ok_iff.1 h
  obtain ⟨navigation, hnavigation, h⟩ := bind_eq_ok_iff.1 h
  obtain ⟨redirects, hredirects, h⟩ := bind_eq_ok_iff.1 h
  cases h
  rw [isClean_append, isClean_append] at hclean
  have htext : ∀ key root v fs, checkContained t root key v = .ok fs → IsClean fs → IsText v :=
    fun key root v fs h hc => have ⟨s, _, hs, _⟩ := checkContained_accepts h hc; ⟨s, hs⟩
  exact ⟨checkSetting_accepts hnavigation hclean.1.2 (htext _ _),
    checkSetting_accepts hredirects hclean.2 (htext _ _)⟩

theorem checkPath_accepts {settings : Dict} {root : FilePath} {found : List Finding}
    (h : checkPath t root settings = .ok found) (hclean : IsClean found) :
    Permits settings "path" fun v => v = .null ∨ IsText v := by
  refine checkSetting_accepts h hclean fun v fs hv hc => ?_
  cases v with
  | null => exact .inl rfl
  | text s => exact .inr ⟨s, rfl⟩
  | _ =>
    obtain ⟨s, _, hs, _⟩ := checkContained_accepts hv hc
    cases hs

theorem checkLinkChecker_accepts {settings : Dict} {found : List Finding}
    (h : checkLinkChecker settings = .ok found) (hclean : IsClean found) :
    (Permits settings "exclude_dirs" fun v => NamesFolders v.bare) ∧
      Permits settings "max_file_size" fun v => ∃ n, v = .int n ∧ 0 < n := by
  obtain ⟨dirs, hdirs, h⟩ := bind_eq_ok_iff.1 h
  obtain ⟨anchors, -, h⟩ := bind_eq_ok_iff.1 h
  obtain ⟨size, hsize, h⟩ := bind_eq_ok_iff.1 h
  cases h
  rw [isClean_append, isClean_append] at hclean
  refine ⟨checkSetting_accepts hdirs hclean.1.1 fun v fs => checkExcludeDirs_accepts,
    checkSetting_accepts hsize hclean.2 fun v fs hv hc => ?_⟩
  obtain ⟨n, hn, -⟩ := findingsOf_accepts hv hc
  exact ⟨n, positiveInt_eq_ok.1 hn⟩

theorem checkFixes_accepts {settings : Dict} (hclean : IsClean (checkFixes settings)) :
    Permits settings "auto_fix_confidence" fun v =>
      ∃ s c, v = .text s ∧ Confidence.ofValue v = .ok c := by
  intro v hv
  have htier := (isClean_append.1 hclean).1
  simp only [hv] at htier
  exact checkTier_accepts htier

/-- **A configuration without errors.** -/
theorem accepted_of_isClean {p : Parts} (h : partsOf t base checkPaths d = .ok p)
    (hclean : IsClean (p.all d)) : Accepted d := by
  obtain ⟨⟨root, ofProject⟩, hproject, h⟩ := bind_eq_ok_iff.1 h
  obtain ⟨path, hpath, h⟩ := bind_eq_ok_iff.1 h
  obtain ⟨checker, hchecker, h⟩ := bind_eq_ok_iff.1 h
  obtain ⟨logging, -, h⟩ := bind_eq_ok_iff.1 h
  obtain ⟨unknown, -, h⟩ := bind_eq_ok_iff.1 h
  cases h
  unfold Parts.all at hclean
  simp only [isClean_append] at hclean
  obtain ⟨⟨⟨⟨⟨⟨⟨⟨⟨h₁, hp⟩, h₂⟩, hpa⟩, hc⟩, h₃⟩, hf⟩, h₄⟩, -⟩, -⟩ := hclean
  obtain ⟨hnavigation, hredirects⟩ := checkProject_accepts hproject hp
  obtain ⟨hdirs, hsize⟩ := checkLinkChecker_accepts hchecker hc
  exact ⟨settingsOf_accepts h₁, settingsOf_accepts h₂, settingsOf_accepts h₃, settingsOf_accepts h₄,
    hnavigation, hredirects, checkPath_accepts hpath hpa, hdirs, hsize, checkFixes_accepts hf⟩

/-! ## Sections of a valid configuration -/

/-- A mapping has the keys of all these settings. -/
def HasKeys (entries : List (String × Value)) (m : Dict) : Prop :=
  ∀ e ∈ entries, (get? m e.1).isSome = true

/-- The settings of a section, as they are in the defaults. -/
def defaultsOf (name : String) : List (String × Value) :=
  ((defaultSections.find? (·.1 == name)).map Prod.snd).getD []

/-- The same as a mapping. -/
def defaultSettings (name : String) : Dict := (defaultsOf name).map fun (k, v) => (.text k, v)

theorem isSome_get?_defaultSettings {name key : String} :
    (get? (defaultSettings name) key).isSome = true ↔ ∃ e ∈ defaultsOf name, e.1 = key := by
  have hkeys : textKeys (defaultSettings name) = (defaultsOf name).map Prod.fst := by
    unfold defaultSettings
    induction defaultsOf name with
    | nil => rfl
    | cons e rest ih => rw [List.map_cons, textKeys_cons_text, ih, List.map_cons]
  rw [get?_isSome_iff, hkeys, List.mem_map]

/-- A section of a configuration that comes of another one: null if it was, and otherwise a mapping
with all default keys and a property. -/
def Filled (d c : Dict) (name : String) (P : Dict → Prop) : Prop :=
  (IsNullSection d name ∧ IsNullSection c name) ∨
    (¬IsNullSection d name ∧ ∃ m, get? c name = some (.dict m) ∧ IsKeyed m ∧
      HasKeys (defaultsOf name) m ∧ P m)

/-- The root and the files of the project are given by texts. -/
structure ProjectSettings (m : Dict) : Prop where
  root : Permits m "root" IsText
  navigation : Permits m "navigation_file" IsText
  redirects : Permits m "redirects_file" IsText

/-- The settings of a link checker, of which `given` is what was checked. -/
structure CheckerSettings (given m : Dict) : Prop where
  path : Permits m "path" fun v => v = .null ∨ IsText v
  excludeDirs : Permits m "exclude_dirs" fun v => NamesFolders v.bare
  maxFileSize : Permits m "max_file_size" fun v => ∃ n, v = .int n ∧ 0 < n
  nullDirs : IsNullSection m "exclude_dirs" ↔ IsNullSection given "exclude_dirs"

/-- The tier of a section of fixes is one. -/
def FixesSettings (m : Dict) : Prop :=
  Permits m "auto_fix_confidence" fun v => ∃ c, Confidence.ofValue v = .ok c

/-- A valid configuration, of which `d` is what was checked. -/
structure Usable (d c : Dict) : Prop where
  keyed : IsKeyed c
  project : ¬IsNullSection d "project"
  projectSettings : Filled d c "project" ProjectSettings
  checker : Filled d c "link_checker" (CheckerSettings (sectionOf d "link_checker"))
  fixes : Filled d c "fixes" FixesSettings
  logging : Filled d c "logging" fun _ => True

/-- The sections that have defaults: none is called as a list of folders is, and their default keys
are distinct. -/
theorem of_mem_defaultSections {name : String} (h : name ∈ defaultSections.map Prod.fst) :
    name ≠ "exclude_dirs" ∧ get? defaultConfig name = some (.dict (defaultSettings name)) ∧
      IsKeyed (defaultSettings name) := by
  have hnames : name = "project" ∨ name = "link_checker" ∨ name = "fixes" ∨ name = "logging" := by
    simpa [defaultSections] using h
  rcases hnames with rfl | rfl | rfl | rfl
  all_goals exact ⟨by decide, rfl, by decide⟩

/-- The keys of a configuration and of its sections are distinct, as those of every mapping. -/
structure HasDistinctKeys (d : Dict) : Prop where
  sections : IsKeyed d
  settings : ∀ name ∈ defaultSections.map Prod.fst, IsKeyed (sectionOf d name)

/-- A section that is accepted, with its defaults. -/
theorem filled_overlay {e : Dict} {name : String} {P : Dict → Prop} (hkeys : HasDistinctKeys d)
    (hsame : SameSections d e) (hname : name ∈ defaultSections.map Prod.fst)
    (hform : SectionForm d name (sectionOf d name))
    (hP : ∀ s, SameSettings (sectionOf d name) s → IsKeyed s →
      P (Dict.merge (defaultSettings name) s)) :
    Filled d (overlay e) name P := by
  obtain ⟨hother, hdefaults, hkeyed⟩ := of_mem_defaultSections hname
  rcases section_overlay hkeys.sections hsame hother hdefaults hform with hnull | ⟨hnull, s, hget, hs⟩
  · exact .inl hnull
  · have hskeyed := hs.keyed (hkeys.settings name hname)
    exact .inr ⟨hnull, _, hget, hkeyed.merge s,
      fun e he => isSome_get?_merge hskeyed (isSome_get?_defaultSettings.2 ⟨e, he, rfl⟩),
      hP s hs hskeyed⟩

theorem isSettled_of_isText {v : Value} (h : IsText v) : IsSettled v := by
  obtain ⟨s, rfl⟩ := h
  exact .text s

theorem isSettled_of_namesFolders {v : Value} (h : NamesFolders v.bare) : IsSettled v := by
  refine isSettled_of_bare ?_
  generalize v.bare = w at h
  cases h with
  | null => exact .null
  | text s => exact .text s
  | texts ss => exact .texts ss

/-- The project section of an accepted configuration with its defaults, and with a root. -/
theorem projectSettings_put (h : Accepted d) {s : Dict}
    (hs : SameSettings (sectionOf d "project") s) (hkeyed : IsKeyed s) (root : String) :
    ProjectSettings
      (Dict.put (Dict.merge (defaultSettings "project") s) (.text "root") (.text root)) := by
  have hfiles : ∀ name, name ≠ "root" → name ≠ "link_checker" → name ≠ "exclude_dirs" →
      Permits (defaultSettings "project") name IsText →
      Permits (sectionOf d "project") name IsText →
      Permits (Dict.put (Dict.merge (defaultSettings "project") s) (.text "root") (.text root))
        name IsText := by
    intro name hroot hname hname' hdefaults hgiven v hv
    rw [get?_put_of_ne _ hroot] at hv
    exact hdefaults.merge (hgiven.kept hs hname hname' fun _ => isSettled_of_isText) hkeyed v hv
  refine ⟨fun v hv => ?_, ?_, ?_⟩
  · rw [get?_put_self] at hv
    cases hv
    exact ⟨root, rfl⟩
  · refine hfiles _ (by decide) (by decide) (by decide) (fun v hv => ?_) h.navigation
    cases hv
    exact ⟨_, rfl⟩
  · refine hfiles _ (by decide) (by decide) (by decide) (fun v hv => ?_) h.redirects
    cases hv
    exact ⟨_, rfl⟩

/-- What names folders still does so when it is normalized, and is null only if it was. -/
theorem Normalized.namesFolders {key : String} {v w : Value} (h : Normalized key v w)
    (hv : NamesFolders v.bare) : NamesFolders w.bare ∧ (w.bare = .null ↔ v.bare = .null) := by
  cases h with
  | same => exact ⟨hv, Iff.rfl⟩
  | listed _ s => exact ⟨.texts [s], nofun, nofun⟩

/-- The folders of an accepted section are null with its defaults only if they were. -/
theorem isNullSection_merge_excludeDirs (h : Accepted d) {s : Dict}
    (hs : SameSettings (sectionOf d "link_checker") s) (hkeyed : IsKeyed s) :
    IsNullSection (Dict.merge (defaultSettings "link_checker") s) "exclude_dirs" ↔
      IsNullSection (sectionOf d "link_checker") "exclude_dirs" := by
  unfold IsNullSection
  rw [get?_merge _ hkeyed]
  rcases hget : get? (sectionOf d "link_checker") "exclude_dirs" with _ | v
  · rw [hs.absent _ (by decide) hget]
    constructor
    · rintro ⟨v, hv, hnull⟩
      cases hv
      cases hnull
    · rintro ⟨v, hv, -⟩
      cases hv
  · have hfolders := h.excludeDirs v hget
    obtain ⟨v', hv', hn⟩ := hs.settled _ (by decide) v hget (isSettled_of_namesFolders hfolders)
    rw [hv']
    have hnull := (hn.namesFolders hfolders).2
    constructor
    · rintro ⟨u, hu, hbare⟩
      cases hu
      exact ⟨v, rfl, hnull.1 hbare⟩
    · rintro ⟨u, hu, hbare⟩
      cases hu
      exact ⟨v', rfl, hnull.2 hbare⟩

/-- The section of the link checker of an accepted configuration with its defaults. -/
theorem checkerSettings_merge (h : Accepted d) {s : Dict}
    (hs : SameSettings (sectionOf d "link_checker") s) (hkeyed : IsKeyed s) :
    CheckerSettings (sectionOf d "link_checker")
      (Dict.merge (defaultSettings "link_checker") s) := by
  refine ⟨?path, ?excludeDirs, ?maxFileSize, isNullSection_merge_excludeDirs h hs hkeyed⟩
  case path =>
    refine Permits.merge (fun v hv => ?_)
      (h.path.kept hs (by decide) (by decide) fun v hv => ?_) hkeyed
    · cases hv
      exact .inl rfl
    · rcases hv with rfl | hv
      · exact .null
      · exact isSettled_of_isText hv
  case excludeDirs =>
    refine Permits.merge (fun v hv => ?_)
      (h.excludeDirs.normalized hs (by decide) (fun _ => isSettled_of_namesFolders)
        fun v v' hv hn => (hn.namesFolders hv).1) hkeyed
    cases hv
    exact .texts defaultExcludeDirs
  case maxFileSize =>
    refine Permits.merge (fun v hv => ?_)
      (h.maxFileSize.kept hs (by decide) (by decide) fun v hv => ?_) hkeyed
    · cases hv
      exact ⟨_, rfl, by decide⟩
    · obtain ⟨n, rfl, -⟩ := hv
      exact .int n

/-- The section of the fixes of an accepted configuration with its defaults. -/
theorem fixesSettings_merge (h : Accepted d) {s : Dict}
    (hs : SameSettings (sectionOf d "fixes") s) (hkeyed : IsKeyed s) :
    FixesSettings (Dict.merge (defaultSettings "fixes") s) := by
  have htier : Permits (sectionOf d "fixes") "auto_fix_confidence" fun v =>
      IsText v ∧ ∃ c, Confidence.ofValue v = .ok c :=
    h.tier.mono fun v ⟨s, c, hs, hc⟩ => ⟨⟨s, hs⟩, c, hc⟩
  refine Permits.merge (fun v hv => ?_)
    ((htier.kept hs (by decide) (by decide) fun v hv => isSettled_of_isText hv.1).mono
      fun v hv => hv.2) hkeyed
  cases hv
  exact ⟨.high, rfl⟩

/-! ## The defaults and the root -/

/-- The section of the link checker of an accepted configuration, once the defaults are there. -/
theorem filled_checker {e : Dict} (hkeys : HasDistinctKeys d) (hsame : SameSections d e)
    (h : Accepted d) :
    Filled d (overlay e) "link_checker" (CheckerSettings (sectionOf d "link_checker")) :=
  filled_overlay hkeys hsame (by decide) h.checker fun _ hs hskeyed =>
    checkerSettings_merge h hs hskeyed

/-- Setting a section leaves the others as they are. -/
theorem Filled.put_of_ne {name other : String} {P : Dict → Prop} (h : Filled d c name P)
    (hne : name ≠ other) (v : Value) : Filled d (Dict.put c (.text other) v) name P := by
  unfold Filled IsNullSection at h ⊢
  rwa [get?_put_of_ne _ hne]

theorem usable_of_withRoot {e : Dict} {root : String} (hkeys : HasDistinctKeys d)
    (hsame : SameSections d e) (h : Accepted d) (hc : withRoot e root = .ok c) : Usable d c := by
  have hproject : Filled d (overlay e) "project" fun m =>
      ProjectSettings (Dict.put m (.text "root") (.text root)) :=
    filled_overlay hkeys hsame (by decide) h.project fun s hs hskeyed =>
      projectSettings_put h hs hskeyed root
  have hchecker := filled_checker hkeys hsame h
  have hfixes : Filled d (overlay e) "fixes" FixesSettings :=
    filled_overlay hkeys hsame (by decide) h.fixes fun s hs hskeyed => fixesSettings_merge h hs hskeyed
  have hlogging : Filled d (overlay e) "logging" fun _ => True :=
    filled_overlay hkeys hsame (by decide) h.logging fun _ _ _ => trivial
  unfold withRoot at hc
  simp only at hc
  split at hc
  · rename_i settings hsettings
    cases hc
    -- Setting the root leaves the other sections as they are.
    rcases hproject with ⟨-, v, hv, hnull⟩ | ⟨hnull, m, hm, hkeyed, hkeys', hP⟩
    · rw [hsettings] at hv
      cases hv
      cases hnull
    · rw [hsettings] at hm
      cases hm
      refine ⟨(isKeyed_overlay e).put _ _, hnull, .inr ⟨hnull, _, get?_put_self _ _ _,
        hkeyed.put _ _, fun entry hentry => ?_, hP⟩, hchecker.put_of_ne (by decide) _,
        hfixes.put_of_ne (by decide) _, hlogging.put_of_ne (by decide) _⟩
      rw [get?_put]
      split
      · rfl
      · exact hkeys' entry hentry
  · cases hc

/-- A root can be set unless the section of the project is null. -/
theorem exists_withRoot {e : Dict} (root : String) (hkeys : HasDistinctKeys d)
    (hsame : SameSections d e) (h : Accepted d) (hproject : ¬IsNullSection d "project") :
    ∃ c, withRoot e root = .ok c := by
  have hfilled : Filled d (overlay e) "project" fun _ => True :=
    filled_overlay hkeys hsame (by decide) h.project fun _ _ _ => trivial
  rcases hfilled with ⟨hnull, -⟩ | ⟨-, m, hm, -⟩
  · exact absurd hnull hproject
  · unfold withRoot
    simp only [hm]
    exact ⟨_, rfl⟩

/-! ## Defaults that are given once more -/

/-- Mappings in which the same is found for every key. -/
def SameLookups (m m' : Dict) : Prop := ∀ key, get? m' key = get? m key

namespace SameLookups

variable {m' : Dict}

theorem permits {name : String} {P : Value → Prop} (h : SameLookups m m') (hm : Permits m name P) :
    Permits m' name P :=
  fun v hv => hm v (h name ▸ hv)

theorem project (h : SameLookups m m') (hm : ProjectSettings m) : ProjectSettings m' :=
  ⟨h.permits hm.root, h.permits hm.navigation, h.permits hm.redirects⟩

theorem checker {given : Dict} (h : SameLookups m m') (hm : CheckerSettings given m) :
    CheckerSettings given m' := by
  refine ⟨h.permits hm.path, h.permits hm.excludeDirs, h.permits hm.maxFileSize, ?_⟩
  rw [← hm.nullDirs, IsNullSection, IsNullSection, h]

end SameLookups

/-- A section that has all default keys takes nothing from the defaults. -/
theorem Filled.overlay {name : String} {P : Dict → Prop} (h : Filled d c name P) (hc : IsKeyed c)
    (hname : name ∈ defaultSections.map Prod.fst)
    (hP : ∀ {m m'}, SameLookups m m' → P m → P m') : Filled d (overlay c) name P := by
  obtain ⟨-, hdefaults, hdefaultsKeyed⟩ := of_mem_defaultSections hname
  rcases h with ⟨hnull, v, hv, hbare⟩ | ⟨hnull, m, hm, hkeyed, hkeys, hp⟩
  · exact .inl ⟨hnull, v, get?_overlay_null hc hv hbare, hbare⟩
  · have hsame : SameLookups m (Dict.merge (defaultSettings name) m) := by
      intro key
      rw [get?_merge _ hkeyed]
      rcases hget : get? m key with _ | v
      · have hnone : ¬(get? (defaultSettings name) key).isSome = true := by
          rw [isSome_get?_defaultSettings]
          rintro ⟨e, he, rfl⟩
          have hsome := hkeys e he
          rw [hget] at hsome
          cases hsome
        rw [Option.none_or]
        exact Option.isNone_iff_eq_none.1 (by simpa using hnone)
      · rfl
    refine .inr ⟨hnull, _, get?_overlay_mapping hc hdefaults hm rfl, hdefaultsKeyed.merge m,
      fun e he => ?_, hP hsame hp⟩
    rw [hsame]
    exact hkeys e he

/-- **A usable configuration stays one with its defaults given once more.** -/
theorem Usable.overlay (h : Usable d c) : Usable d (overlay c) where
  keyed := isKeyed_overlay c
  project := h.project
  projectSettings := h.projectSettings.overlay h.keyed (by decide) SameLookups.project
  checker := h.checker.overlay h.keyed (by decide) SameLookups.checker
  fixes := h.fixes.overlay h.keyed (by decide) SameLookups.permits
  logging := h.logging.overlay h.keyed (by decide) fun _ => id

end DocLinks.Config
