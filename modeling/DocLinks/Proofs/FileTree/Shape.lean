import DocLinks.FileTree.Write
import DocLinks.Project.Resolve

/-!
# The shape of a tree

Two trees have the same shape if the same places are taken in both, by a file in both or by a folder
in both. Where a path leads, and whether a file stands there, depends on the shape alone; only
reading looks further. Putting a file where a file stands keeps the shape, so rewriting documents
changes no look-up.
-/

namespace DocLinks

/-- Whether what stands at a place is a folder. -/
def Node.isFolder : Node → Bool
  | .folder => true
  | .file _ => false

namespace FileTree

/-- The same places are taken, by nodes of the same kind. -/
structure SameShape (t u : FileTree) : Prop where
  cwd : u.cwd = t.cwd
  home : u.home = t.home
  keys : u.nodes.map Prod.fst = t.nodes.map Prod.fst
  kind : ∀ place, (u.node? place).map Node.isFolder = (t.node? place).map Node.isFolder

namespace SameShape

variable {t u v : FileTree}

theorem refl (t : FileTree) : SameShape t t := ⟨rfl, rfl, rfl, fun _ => rfl⟩

theorem trans (h : SameShape t u) (h' : SameShape u v) : SameShape t v where
  cwd := h'.cwd.trans h.cwd
  home := h'.home.trans h.home
  keys := h'.keys.trans h.keys
  kind place := (h'.kind place).trans (h.kind place)

theorem symm (h : SameShape t u) : SameShape u t where
  cwd := h.cwd.symm
  home := h.home.symm
  keys := h.keys.symm
  kind place := (h.kind place).symm

theorem isSome_node? (h : SameShape t u) (place : List String) :
    (u.node? place).isSome = (t.node? place).isSome := by
  have hk := congrArg Option.isSome (h.kind place)
  simpa using hk

theorem node?_folder (h : SameShape t u) {place : List String}
    (ht : t.node? place = some .folder) : u.node? place = some .folder := by
  have hk := h.kind place
  rw [ht] at hk
  rcases hu : u.node? place with _ | (_ | _)
  · rw [hu] at hk; cases hk
  · rw [hu] at hk; cases hk
  · rfl

theorem node?_file (h : SameShape t u) {place : List String} {c : Content}
    (ht : t.node? place = some (.file c)) : ∃ d, u.node? place = some (.file d) := by
  have hk := h.kind place
  rw [ht] at hk
  rcases hu : u.node? place with _ | (d | _)
  · rw [hu] at hk; cases hk
  · exact ⟨d, rfl⟩
  · rw [hu] at hk; cases hk

theorem node?_none (h : SameShape t u) {place : List String}
    (ht : t.node? place = none) : u.node? place = none := by
  have hk := h.isSome_node? place
  rw [ht] at hk
  exact Option.not_isSome_iff_eq_none.1 (by rw [hk]; simp)

/-! ## Look-ups -/

theorem step (h : SameShape t u) (place : List String) (name : String) :
    u.step place name = t.step place name := by
  rcases ht : t.node? place with _ | (c | _)
  · simp only [FileTree.step, ht, h.node?_none ht]
  · obtain ⟨d, hu⟩ := h.node?_file ht
    simp only [FileTree.step, ht, hu]
  · simp only [FileTree.step, ht, h.node?_folder ht, h.isSome_node?]

theorem walk (h : SameShape t u) (place names : List String) :
    u.walk place names = t.walk place names := by
  induction names generalizing place with
  | nil => rfl
  | cons n ns ih =>
    simp only [FileTree.walk, h.step]
    split
    · exact ih _
    · rfl

theorem start (h : SameShape t u) (p : FilePath) : u.start p = t.start p := by
  simp only [FileTree.start, h.cwd]

theorem placeOf (h : SameShape t u) (p : FilePath) : u.placeOf p = t.placeOf p := by
  simp only [FileTree.placeOf, h.start, h.walk]

/-- What stands at a path is of the same kind, or missing for the same reason. -/
theorem stat (h : SameShape t u) (p : FilePath) :
    (u.stat p).map Node.isFolder = (t.stat p).map Node.isFolder := by
  unfold FileTree.stat
  split
  · rfl
  · split
    · rfl
    · rw [h.start, h.walk]
      split
      · rfl
      · rename_i place _
        rcases ht : t.node? place with _ | (c | _)
        · simp only [h.node?_none ht]
        · obtain ⟨d, hu⟩ := h.node?_file ht
          simp only [hu]
          rfl
        · simp only [h.node?_folder ht]

theorem isFile (h : SameShape t u) (p : FilePath) : u.isFile p = t.isFile p := by
  have hs := h.stat p
  unfold FileTree.isFile
  rcases ht : t.stat p with _ | (_ | _) <;> rcases hu : u.stat p with _ | (_ | _) <;>
    rw [ht, hu] at hs <;> first | rfl | cases hs

theorem isFolder (h : SameShape t u) (p : FilePath) : u.isFolder p = t.isFolder p := by
  have hs := h.stat p
  unfold FileTree.isFolder
  rcases ht : t.stat p with _ | (_ | _) <;> rcases hu : u.stat p with _ | (_ | _) <;>
    rw [ht, hu] at hs <;> first | rfl | cases hs

theorem hasFile (h : SameShape t u) (root : FilePath) (path : String) :
    u.hasFile root path = t.hasFile root path := h.isFile _

end SameShape

/-! ## Putting a file where one stands -/

theorem node?_put {t : FileTree} {place : List String} (hne : place ≠ []) (n : Node)
    (other : List String) :
    (t.put place n).node? other = if other = place then some n else t.node? other := by
  unfold node? put
  by_cases ho : other = []
  · subst ho
    rw [if_pos rfl, if_neg (Ne.symm hne), if_pos rfl]
  · rw [if_neg ho, if_neg ho, Assoc.get?_put]
    by_cases he : place = other
    · rw [if_pos he, if_pos he.symm]
    · rw [if_neg he, if_neg (Ne.symm he)]

theorem ne_nil_of_node?_file {t : FileTree} {place : List String} {c : Content}
    (h : t.node? place = some (.file c)) : place ≠ [] := by
  rintro rfl
  cases h

/-- Setting a key that is there keeps the keys. -/
theorem keys_update {α β : Type} [DecidableEq α] (m : Assoc α β) (key : α) (f : Option β → β)
    (h : (Assoc.get? m key).isSome) :
    (Assoc.update m key f).map Prod.fst = m.map Prod.fst := by
  induction m with
  | nil => cases h
  | cons e rest ih =>
    obtain ⟨k, v⟩ := e
    by_cases hk : k = key
    · simp [Assoc.update, hk]
    · simp only [Assoc.get?, if_neg hk] at h
      simp [Assoc.update, hk, ih h]

theorem sameShape_put {t : FileTree} {place : List String} {c : Content}
    (h : t.node? place = some (.file c)) (d : Content) :
    SameShape t (t.put place (.file d)) where
  cwd := rfl
  home := rfl
  keys := by
    have hne := ne_nil_of_node?_file h
    unfold node? at h
    rw [if_neg hne] at h
    exact keys_update _ _ _ (by rw [h]; rfl)
  kind other := by
    rw [node?_put (ne_nil_of_node?_file h)]
    by_cases ho : other = place
    · subst ho; rw [if_pos rfl, h]; rfl
    · rw [if_neg ho]

end FileTree

end DocLinks
