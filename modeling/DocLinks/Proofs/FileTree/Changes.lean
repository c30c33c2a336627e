import DocLinks.Proofs.FileTree.Rewriting

/-!
# Trees in which files have changed

What writing over files that stand there amounts to: no file and no folder is added or removed, and
only files at certain places have another content. As a relation of the tree before to the tree after
this is reflexive and transitive, so it carries over from single writes to whole runs.

Where files and folders are added and none is removed, every path to a file or a folder still leads to it:
all places that a walk passes are folders, so it needs no more than that the folders stay.

## Contents
- `ChangesWithin`: trees in which only files at certain places have changed.
- `walk_of_folders`, `stat_folder_of_folders`: walks in a tree from which no folder has gone.
- `GrowsInto`: trees that have the files and folders of another one.
-/

namespace DocLinks.FileTree

variable {P : List String → Prop} {t u v : FileTree} {p : FilePath}

/-- Only files at places with a property have changed. -/
structure ChangesWithin (P : List String → Prop) (t u : FileTree) : Prop where
  shape : SameShape t u
  kept : ∀ place, ¬P place → u.node? place = t.node? place

namespace ChangesWithin

theorem refl (P : List String → Prop) (t : FileTree) : ChangesWithin P t t :=
  ⟨.refl t, fun _ _ => rfl⟩

theorem of_eq (h : u = t) : ChangesWithin P t u := h ▸ .refl P t

theorem trans (h : ChangesWithin P t u) (h' : ChangesWithin P u v) : ChangesWithin P t v :=
  ⟨h.shape.trans h'.shape, fun place hp => (h'.kept place hp).trans (h.kept place hp)⟩

/-- **What has changed** is a file, before and after, at a place with the property. -/
theorem of_ne (h : ChangesWithin P t u) {place : List String} (hne : u.node? place ≠ t.node? place) :
    P place ∧ ∃ c c', t.node? place = some (.file c) ∧ u.node? place = some (.file c') := by
  refine ⟨Classical.byContradiction fun hp => hne (h.kept place hp), ?_⟩
  rcases hnode : t.node? place with _ | (c | _)
  · rw [hnode, h.shape.node?_none hnode] at hne
    exact absurd rfl hne
  · obtain ⟨c', hc'⟩ := h.shape.node?_file hnode
    exact ⟨c, c', rfl, hc'⟩
  · rw [hnode, h.shape.node?_folder hnode] at hne
    exact absurd rfl hne

theorem put {place : List String} {c : Content} (hnode : t.node? place = some (.file c))
    (hp : P place) (d : Content) : ChangesWithin P t (t.put place (.file d)) := by
  refine ⟨sameShape_put hnode d, fun other ho => ?_⟩
  have hne : ¬other = place := fun heq => ho (heq ▸ hp)
  rw [node?_put (ne_nil_of_node?_file hnode), if_neg hne]

/-- Writing a file that could be read changes it, or nothing. -/
theorem write {limit : Limit} {content : String} (hread : t.read p limit = .ok content)
    (hp : ∀ place, t.placeOf p = .ok place → P place) (text : String) :
    ChangesWithin P t (t.write p text).1 := by
  obtain ⟨place, c, hplace, hnode, hstat, -⟩ := read_eq_ok hread
  by_cases hcan : CanReplace t.cwd p
  · rw [write_of_canReplace hstat hplace hcan]
    exact .put hnode (hp place hplace) _
  · obtain ⟨f, -, hwrite⟩ := write_of_not_canReplace hstat hcan text
    rw [hwrite]
    exact .refl P t

end ChangesWithin

/-! ## Trees from which nothing has gone -/

/-- Where no folder goes, a walk to something that is still there stays what it is. -/
theorem walk_of_folders (hfolders : ∀ q, t.node? q = some .folder → u.node? q = some .folder)
    {names place target : List String} (h : t.walk place names = .ok target)
    (htarget : (u.node? target).isSome) : u.walk place names = .ok target := by
  induction names generalizing place with
  | nil => exact h
  | cons n ns ih =>
    obtain ⟨next, hstep, hnext⟩ := walk_cons_eq_ok.1 h
    obtain ⟨hplace, hgo⟩ := step_eq_ok_iff.1 hstep
    -- The next place is the last one, or a folder that the walk goes on from.
    have hthere : (u.node? next).isSome := by
      rcases ns with _ | ⟨m, ms⟩
      · cases hnext
        exact htarget
      · obtain ⟨_, hstep', -⟩ := walk_cons_eq_ok.1 hnext
        rw [hfolders _ (folder_of_step hstep')]
        rfl
    refine walk_cons_eq_ok.2 ⟨next, step_eq_ok_iff.2 ⟨hfolders _ hplace, ?_⟩, ih hnext⟩
    exact hgo.imp_right fun ⟨hname, hdown, _⟩ => ⟨hname, hdown, hthere⟩

theorem start_of_cwd (hcwd : u.cwd = t.cwd) (p : FilePath) : u.start p = t.start p := by
  unfold FileTree.start
  rw [hcwd]

/-- Where no folder goes, a path to a folder leads to it. -/
theorem stat_folder_of_folders (hcwd : u.cwd = t.cwd)
    (hfolders : ∀ q, t.node? q = some .folder → u.node? q = some .folder)
    (h : t.stat p = .ok .folder) : u.stat p = .ok .folder := by
  obtain ⟨hnull, hlong, place, hwalk, hnode⟩ := stat_eq_ok_iff.1 h
  have hnode' := hfolders place hnode
  refine stat_eq_ok_iff.2 ⟨hnull, hlong, place, ?_, hnode'⟩
  rw [start_of_cwd hcwd]
  exact walk_of_folders hfolders hwalk (by rw [hnode']; rfl)

/-- Every file of one tree is a file of the other, whatever it holds, and every folder a folder. -/
structure GrowsInto (t u : FileTree) : Prop where
  cwd : u.cwd = t.cwd
  file : ∀ place c, t.node? place = some (.file c) → ∃ d, u.node? place = some (.file d)
  folder : ∀ place, t.node? place = some .folder → u.node? place = some .folder

namespace GrowsInto

/-- **What is found before a tree grows** is found afterwards. -/
theorem isFile (h : GrowsInto t u) (ht : t.isFile p = true) : u.isFile p = true := by
  obtain ⟨c, hstat⟩ := isFile_iff_stat.1 ht
  obtain ⟨hnull, hlong, place, hwalk, hnode⟩ := stat_eq_file_iff.1 hstat
  obtain ⟨d, hnode'⟩ := h.file place c hnode
  refine isFile_iff_stat.2 ⟨d, stat_eq_file_iff.2 ⟨hnull, hlong, place, ?_, hnode'⟩⟩
  rw [start_of_cwd h.cwd]
  exact walk_of_folders h.folder hwalk (by rw [hnode']; rfl)

/-- What is put at a free place is added to the tree. -/
theorem put {place : List String} (hplace : place ≠ []) (hfree : t.node? place = none) (n : Node) :
    t.GrowsInto (t.put place n) := by
  have hkept : ∀ other, t.node? other ≠ none → (t.put place n).node? other = t.node? other := by
    intro other hother
    rw [node?_put hplace, if_neg]
    rintro rfl
    exact hother hfree
  refine ⟨rfl, ?_, ?_⟩
  · intro other c hfile
    exact ⟨c, (hkept other (by rw [hfile]; nofun)).trans hfile⟩
  · intro other hfolder
    exact (hkept other (by rw [hfolder]; nofun)).trans hfolder

end GrowsInto

end DocLinks.FileTree
