import DocLinks.Proofs.FileTree.Changes
import DocLinks.Proofs.Redirect.Batches

/-!
# What applying fixes writes

A batch of fixes writes over its documents and over the file of the redirects, each of which it has
read before, and over nothing else. That holds however the batch ends: also a fault leaves behind only
what was written before it.

## Contents
- `changes_applyFixes`: the documents of a batch.
- `KeepsTable`, `changes_recordRedirects`: the file of the redirects.
- `changes_applyFixesWithRedirects`: both.
-/

namespace DocLinks

open Text FileTree Work

variable {P : List String → Prop} {σ : Type}

/-! ## Documents -/

/-- The tree has changed at certain places only. -/
def ChangesTree (P : List String → Prop) (w v : Workspace σ) : Prop := ChangesWithin P w.tree v.tree

theorem changesTree_isPreorder :
    IsPreorder (ChangesTree P : Workspace σ → Workspace σ → Prop) where
  refl w := .refl P w.tree
  trans h h' := ChangesWithin.trans h h'

theorem changesTree_of_eq {w v : Workspace σ} (h : v.tree = w.tree) : ChangesTree P w v := .of_eq h

/-- The tree is the same. -/
def SameTree (w v : Workspace σ) : Prop := v.tree = w.tree

theorem sameTree_isPreorder : IsPreorder (SameTree : Workspace σ → Workspace σ → Prop) where
  refl _ := rfl
  trans h h' := Eq.trans h' h

theorem sameTree_fixLines (lines : List (List Char)) (fs : List SuggestedFix) :
    Sat SameTree (fixLines lines fs : Work σ _) :=
  sat_fixLines sameTree_isPreorder (fun _ _ => rfl) fs lines

/-- Writing over a file that could be read. -/
theorem changes_write {p : FilePath} {limit : Limit} {content : String} {w : Workspace σ}
    (hread : w.tree.read p limit = .ok content)
    (hp : ∀ place, w.tree.placeOf p = .ok place → P place) (text : String) :
    ChangesTree P w (Work.write p text w).2 := by
  have htree : (Work.write p text w).2.tree = (w.tree.write p text).1 := by
    unfold Work.write
    rcases w.tree.write p text with ⟨t, _ | f⟩
    · rfl
    · cases f <;> rfl
  unfold ChangesTree
  rw [htree]
  exact .write hread hp text

variable {root : FilePath} {w : Workspace σ}

theorem changes_applyFileFixes {source : String}
    (hp : ∀ place, w.tree.placeOf (projectPath root source) = .ok place → P place)
    (fs : List SuggestedFix) : ChangesTree P w (applyFileFixes root source fs w).2 := by
  have hR : IsPreorder (ChangesTree P : Workspace σ → Workspace σ → Prop) := changesTree_isPreorder
  unfold applyFileFixes
  rw [bind_run_of_ok (tree_run w)]
  rcases hread : w.tree.read (projectPath root source) defaultLimit with f | content
  · exact changesTree_of_eq rfl
  · simp only
    refine hR.bind (changesTree_of_eq (sameTree_fixLines _ _ w)) fun (lines, outcomes) u hlines => ?_
    have htree : u.tree = w.tree := (sameTree_fixLines _ _).of_run hlines
    simp only
    split
    · exact hR.refl u
    · refine hR.bind (changes_write (htree ▸ hread) (htree ▸ hp) _) fun written v _ => ?_
      cases written <;> exact changesTree_of_eq rfl

theorem changes_applyGroups {groups : List (String × List SuggestedFix)}
    (hp : ∀ g ∈ groups, ∀ place, w.tree.placeOf (projectPath root g.1) = .ok place → P place) :
    ChangesTree P w (applyGroups root groups w).2 := by
  have hR : IsPreorder (ChangesTree P : Workspace σ → Workspace σ → Prop) := changesTree_isPreorder
  induction groups generalizing w with
  | nil => exact hR.refl w
  | cons group groups ih =>
    have hfirst := changes_applyFileFixes (hp group (List.mem_cons_self ..)) group.2
    refine hR.bind hfirst fun results u hu => ?_
    -- The documents that follow are where they were.
    have hshape : SameShape w.tree u.tree := by
      have h := hfirst.shape
      rwa [hu] at h
    refine hR.bind (ih fun g hg place hplace => ?_) fun _ v _ => hR.refl v
    rw [hshape.placeOf] at hplace
    exact hp g (List.mem_cons_of_mem _ hg) place hplace

/-- **A batch of fixes** changes its documents only. -/
theorem changes_applyFixes {fs : List SuggestedFix}
    (hp : ∀ f ∈ fs, ∀ place,
      w.tree.placeOf (projectPath root f.broken.sourceFile) = .ok place → P place) :
    ChangesTree P w (applyFixes root fs w).2 := by
  have hR : IsPreorder (ChangesTree P : Workspace σ → Workspace σ → Prop) := changesTree_isPreorder
  unfold applyFixes
  refine hR.bind (changes_applyGroups fun g hg place hplace => ?_) fun results u _ =>
    changesTree_of_eq rfl
  rw [groupBySource_eq] at hg
  obtain ⟨source, hsource, rfl⟩ := List.mem_map.1 hg
  obtain ⟨f, hf, rfl⟩ := mem_sourcesOf.1 hsource
  exact hp f hf place hplace

/-! ## The file of the redirects -/

/-- What is recorded is in the file of the redirects. -/
theorem Records.changesWithin {file : Option FilePath} {w v : Workspace Context}
    (h : Records file w v)
    (hp : ∀ p, file = some p → ∀ place, w.tree.placeOf p = .ok place → P place) :
    ChangesWithin P w.tree v.tree :=
  ⟨h.shape, fun place hnot => h.kept place fun p hfile hplace => hnot (hp p hfile place hplace)⟩

/-- The root, the excluded folders and the file of the redirects are the same, and the tree has
changed at certain places only. -/
structure KeepsTable (P : List String → Prop) (w v : Workspace Context) : Prop where
  tree : ChangesWithin P w.tree v.tree
  root : v.scope.root = w.scope.root
  excludeDirs : v.scope.excludeDirs = w.scope.excludeDirs
  file : v.scope.table.bind (·.file) = w.scope.table.bind (·.file)

theorem keepsTable_isPreorder : IsPreorder (KeepsTable P) where
  refl w := ⟨.refl P w.tree, rfl, rfl, rfl⟩
  trans h h' := ⟨h.tree.trans h'.tree, h'.root.trans h.root, h'.excludeDirs.trans h.excludeDirs,
    h'.file.trans h.file⟩

theorem KeepsTable.of_scope {w v : Workspace Context} (htree : ChangesWithin P w.tree v.tree)
    (hscope : v.scope = w.scope) : KeepsTable P w v := by
  refine ⟨htree, ?_, ?_, ?_⟩
  all_goals rw [hscope]

section Context

variable {w : Workspace Context}

/-- **Recording redirects** changes their file only. -/
theorem changes_recordRedirects
    (hp : ∀ file, w.scope.table.bind (·.file) = some file →
      ∀ place, w.tree.placeOf file = .ok place → P place) (results : List FixResult) :
    KeepsTable P w (recordRedirects results w).2 := by
  obtain ⟨batch, v, hrun, hends⟩ := recordRedirects_ends results w
  have hrecords := hends.records
  rw [hrun]
  exact ⟨hrecords.changesWithin hp, hrecords.root, hrecords.excludeDirs, hends.file_eq⟩

/-- **Applying fixes and recording redirects** changes the documents and the file of the redirects
only. -/
theorem changes_applyFixesWithRedirects {fs : List SuggestedFix}
    (hdocuments : ∀ f ∈ fs, ∀ place,
      w.tree.placeOf (projectPath w.scope.root f.broken.sourceFile) = .ok place → P place)
    (hredirects : ∀ file, w.scope.table.bind (·.file) = some file →
      ∀ place, w.tree.placeOf file = .ok place → P place) (wanted : Bool) :
    KeepsTable P w (applyFixesWithRedirects fs wanted w).2 := by
  have hR : IsPreorder (KeepsTable P) := keepsTable_isPreorder
  have hfixes : ChangesWithin P w.tree (applyFixes w.scope.root fs w).2.tree :=
    changes_applyFixes hdocuments
  have hscope : (applyFixes w.scope.root fs w).2.scope = w.scope := sameScope_applyFixes _ _ w
  unfold applyFixesWithRedirects
  rw [bind_run_of_ok (scope_run w)]
  refine hR.bind (.of_scope hfixes hscope) fun results u hresults => ?_
  rw [hresults] at hfixes hscope
  split
  · refine changes_recordRedirects (fun file hfile place hplace => ?_) results
    rw [hfixes.shape.placeOf] at hplace
    rw [hscope] at hfile
    exact hredirects file hfile place hplace
  · exact hR.refl u

end Context

end DocLinks
