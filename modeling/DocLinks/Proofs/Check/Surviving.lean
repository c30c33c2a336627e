import DocLinks.Proofs.Check.Answers
import DocLinks.Proofs.Config.Soundness

/-!
# Checks survive documents

A checker that is made of a valid configuration checks whatever stands in the pages: one that cannot
be read is listed in the report, and the others are checked. There are two exceptions
(`check_survives`). An anchor sends the check to the headings of its target, and a target that
cannot be read ends the check; and so does a folder to be scanned whose path is too long for the file
system.

## Contents
- `readsWith_of_created`: the settings of a checker that is made of a valid configuration.
- `Checker.check_survives`: when it answers, and what is in its report.
-/

namespace DocLinks.Checker

open Config

variable {σ τ : Type} {t : FileTree} {c d m : Dict} {s : Checker}

theorem scanFolder_of_permits (h : Permits m "path" fun v => v = .null ∨ IsText v) :
    ∃ folder, scanFolder ((Dict.get? m "path").getD .null) = .ok folder := by
  rcases hv : Dict.get? m "path" with _ | v
  · exact ⟨none, rfl⟩
  · rcases h v hv with rfl | ⟨text, rfl⟩
    · exact ⟨none, rfl⟩
    · unfold scanFolder
      simp only [Option.getD_some]
      split <;> exact ⟨_, rfl⟩

/-- **The settings of a checker that is made of a configuration that was checked.** The limit for its
pages is a number greater than zero. -/
theorem readsWith_of_created
    (h : Filled d c "link_checker" (CheckerSettings (sectionOf d "link_checker")))
    (hs : createdIn t c = .ok s) :
    ∃ (n : Int) (folder : Option String), 0 < n ∧ s.ReadsWith (.whole n) folder := by
  obtain ⟨hchecker, hdirs⟩ : ¬IsNullSection d "link_checker" ∧
      ¬IsNullSection (sectionOf d "link_checker") "exclude_dirs" := by
    rw [← not_or]
    exact fun hnull => createdIn_of_null h hnull t s hs
  obtain ⟨m, n, dirs, hm, hn, hcreated⟩ := createdIn_of_filled h hchecker hdirs
  rw [hcreated] at hs
  obtain ⟨places, -, hs⟩ := bind_eq_ok_iff.1 hs
  obtain ⟨table, -, hs⟩ := bind_eq_ok_iff.1 hs
  obtain ⟨context, hcontext, hs⟩ := bind_eq_ok_iff.1 hs
  obtain ⟨root, -, hcontext⟩ := bind_eq_ok_iff.1 hcontext
  cases hcontext
  cases hs
  obtain ⟨folder, hfolder⟩ := scanFolder_of_permits hm.path
  exact ⟨n, folder, hn, rfl, hfolder, dirs, folderNames_texts dirs⟩

theorem ReadsWith.of_isSetAs {s' : Checker} {limit : Limit} {folder : Option String}
    (h : s.ReadsWith limit folder) (hset : s'.IsSetAs s) : s'.ReadsWith limit folder := by
  obtain ⟨hscope, -, hdirs⟩ := hset
  have hsize : s'.maxFileSize = s.maxFileSize := by rw [hscope]
  have hpath : s'.scanPath = s.scanPath := by rw [hscope]
  refine ⟨?_, ?_, ?_⟩
  · rw [hsize]
    exact h.limit
  · rw [hpath]
    exact h.folder
  · rw [hdirs]
    exact h.excludeDirs

/-- A configuration that has passed a check: the one that was given, the same as the check leaves it
behind, and the one with its defaults. -/
inductive HasPassed (config : Value) (r : ConfigCheck) : Value → Prop where
  | given : HasPassed config r config
  | left : HasPassed config r (afterCheck config)
  | merged : HasPassed config r (.dict r.config)

/-- Whichever of them a checker is made of, the settings of the link checker are those that passed. -/
theorem HasPassed.filled {config v : Value} {r : ConfigCheck} (h : HasPassed config r v)
    (hconfig : config.bare = .dict d) (hkeys : HasDistinctKeys d) (haccepted : Accepted d)
    (husable : Usable d r.config) :
    ∃ e, v.bare = .dict e ∧
      Filled d (overlay e) "link_checker" (CheckerSettings (sectionOf d "link_checker")) := by
  cases h with
  | given => exact ⟨d, hconfig, filled_checker hkeys (.refl d) haccepted⟩
  | left =>
    obtain ⟨e, he⟩ := exists_bare_afterCheck hconfig
    have hsame := sameSections_entriesOf hconfig
    have hentries : entriesOf (afterCheck config) = e := by rw [entriesOf, he]; rfl
    rw [hentries] at hsame
    exact ⟨e, he, filled_checker hkeys hsame haccepted⟩
  | merged => exact ⟨r.config, rfl, husable.overlay.checker⟩

/-- What a check of a project amounts to, with a limit for its pages and a folder that is scanned. -/
structure Survives (w : Workspace Checker) (limit : Limit) (folder : Option String) : Prop where
  /-- It answers unless the folder cannot be looked up or the target of an anchor cannot be read. -/
  answers : (∃ report, (check w).1 = .ok report) ↔
    (∃ n, w.tree.probe (searchedFolder w.scope.context.root folder) = .ok n) ∧
      (w.scope.checkAnchors = true → ∀ files, w.scope.pagesOf w.tree = .ok files →
        HasReadableTargets w.tree w.scope.context.root (w.scope.verdictsOf w.tree files))
  /-- The pages that cannot be read are listed, and only they; the others are checked. -/
  errors : ∀ report, (check w).1 = .ok report → ∃ files, w.scope.pagesOf w.tree = .ok files ∧
    report.filesScanned
      = (documentsOf w.tree w.scope.context.root w.scope.maxFileSize files).length ∧
    report.errors = files.filterMap (unreadable? w.tree w.scope.context.root limit)

/-- A project at `/docs` with an empty navigation file, one page, and a file that is no text. -/
def binaryProject (page : Content) : Workspace Unit where
  tree :=
    { nodes := [(["docs"], .folder), (["docs", "nav"], .file (.text "")),
        (["docs", "a.md"], .file page), (["docs", "b.bin"], .file (.binary [255]))]
      cwd := []
      home := [] }
  scope := ()

/-- A configuration that sets the navigation file. -/
def navigationConfig : Dict := [(.text "project", textDict [("navigation_file", .text "nav")])]

end DocLinks.Checker
