import DocLinks.Proofs.Check.Answers

/-!
# What a check remembers

A checker remembers headings and an index of the pages, and neither notices that a file has changed. A
check does not show it: it forgets the headings when it begins and the index before it searches, and
what it remembers from then on is what the files say (`RemembersHeadings`, `FreshIndex`). So checks of
the same project answer alike, whatever was remembered before (`Checker.alike_check`).

## Contents
- `headingsIn`, `headingsOf_run`, `fileIndex_fst`: what is looked up, and what the files say.
- `Agree`, `Agreeing`: two workspaces with the same project, and computations that cannot tell them apart.
- `agreeing_searchFix`, `agreeing_searchAllFixes`: searching suggestions.
- `agreeing_validateAllAnchors`: checking anchors.
- `Checker.SameProject`, `Checker.alike_check`: the whole check.
-/

namespace DocLinks

open Work

/-! ## Look-ups -/

/-- The headings of a document as its file has them. -/
def headingsIn (t : FileTree) (root : FilePath) (path : String) : Except Fault (Option FileHeadings) :=
  if t.hasFile root path then
    match t.read (projectPath root path) FileTree.defaultLimit with
    | .error f => .error (.file f)
    | .ok content => .ok (some (Markdown.parseHeadings path content))
  else .ok none

/-- The headings that are remembered are those of the files. -/
def RemembersHeadings (t : FileTree) (root : FilePath) (headings : Assoc String FileHeadings) : Prop :=
  ∀ path h, headings.get? path = some h → headingsIn t root path = .ok (some h)

theorem RemembersHeadings.put {t : FileTree} {root : FilePath} {headings : Assoc String FileHeadings}
    (hheadings : RemembersHeadings t root headings) {path : String} {h : FileHeadings}
    (hpath : headingsIn t root path = .ok (some h)) : RemembersHeadings t root (headings.put path h) := by
  intro path' h' hget
  rw [Assoc.get?_put] at hget
  by_cases heq : path = path'
  · rw [if_pos heq] at hget
    cases hget
    exact heq ▸ hpath
  · rw [if_neg heq] at hget
    exact hheadings path' h' hget

/-- **Looking up headings** answers as the files say, and remembers what they say. -/
theorem headingsOf_run {w : Workspace Context}
    (hw : RemembersHeadings w.tree w.scope.root w.scope.headings) (path : String) :
    ∃ headings, headingsOf path w
        = (headingsIn w.tree w.scope.root path, { w with scope := { w.scope with headings } }) ∧
      RemembersHeadings w.tree w.scope.root headings := by
  rcases hget : w.scope.headings.get? path with _ | h
  · by_cases hfile : w.tree.hasFile w.scope.root path = true
    · rw [headingsOf_of_file hget hfile]
      have hheadings : headingsIn w.tree w.scope.root path
          = match w.tree.read (projectPath w.scope.root path) FileTree.defaultLimit with
            | .error f => .error (.file f)
            | .ok content => .ok (some (Markdown.parseHeadings path content)) := if_pos hfile
      rcases hread : w.tree.read (projectPath w.scope.root path) FileTree.defaultLimit with f | content
      · rw [hread] at hheadings
        rw [hheadings]
        exact ⟨w.scope.headings, rfl, hw⟩
      · rw [hread] at hheadings
        rw [hheadings]
        exact ⟨_, rfl, hw.put hheadings⟩
    · rw [headingsOf_of_no_file hget (Bool.eq_false_iff.2 hfile)]
      unfold headingsIn
      rw [if_neg hfile]
      exact ⟨w.scope.headings, rfl, hw⟩
  · rw [headingsOf_of_remembered hget, hw path h hget]
    exact ⟨w.scope.headings, rfl, hw⟩

/-- **Asking for the index** answers as the files say. -/
theorem fileIndex_fst {w : Workspace Context} (hw : FreshIndex w) :
    (fileIndex w).1
      = (w.tree.scan w.scope.root [".md"] w.scope.excludeDirs).map FileIndex.ofFiles := by
  rw [fileIndex_run]
  rcases hi : w.scope.index with _ | i
  · rcases w.tree.scan w.scope.root [".md"] w.scope.excludeDirs with e | files <;> rfl
  · obtain ⟨files, hfiles, rfl⟩ := hw i hi
    rw [hfiles]
    rfl

/-! ## Workspaces with the same project -/

/-- Two workspaces agree on the tree and on everything in the context but its memories; both memories
are of a kind. -/
structure Agree (I : FileTree → Context → Prop) (w v : Workspace Context) : Prop where
  tree : w.tree = v.tree
  context : w.scope.reset = v.scope.reset
  left : I w.tree w.scope
  right : I v.tree v.scope

namespace Agree

variable {I : FileTree → Context → Prop} {w v : Workspace Context}

theorem root (h : Agree I w v) : w.scope.root = v.scope.root := by
  have hroot := congrArg Context.root h.context
  exact hroot

theorem excludeDirs (h : Agree I w v) : w.scope.excludeDirs = v.scope.excludeDirs := by
  have hdirs := congrArg Context.excludeDirs h.context
  exact hdirs

theorem table (h : Agree I w v) : w.scope.table = v.scope.table := by
  have htable := congrArg Context.table h.context
  exact htable

end Agree

section Alike

variable {I : FileTree → Context → Prop}

/-- A computation that keeps workspaces in agreement, and answers by what they agree on. -/
abbrev Agreeing (I : FileTree → Context → Prop) {α : Type} (x : Work Context α) : Prop :=
  Alike (Agree I) (Agree I) x

theorem agreeing_report (r : LogRecord) : Agreeing I (report r) := fun _ _ h =>
  ⟨rfl, fun _ _ => ⟨h.tree, h.context, h.left, h.right⟩⟩

theorem agreeing_documentLinks (relative content : String) :
    Agreeing I (documentLinks relative content) :=
  Alike.bind (agreeing_report _) fun _ => Alike.pure _

/-- Reading the pages has nothing to do with memories. -/
theorem agreeing_readDocuments (limit : Value) (pages : List String) :
    Agreeing I (Checker.readDocuments limit pages) := by
  induction pages with
  | nil => exact Alike.pure _
  | cons page rest ih =>
    unfold Checker.readDocuments
    apply Alike.bind (Alike.ofExcept _)
    intro limit'
    apply Alike.scope_bind
    · intro w v h
      simp only [Context.path, h.root]
    · intro c
      apply Alike.tree_bind fun _ _ h => h.tree
      intro t
      split
      · exact Alike.bind (agreeing_report _) fun _ => Alike.bind ih fun _ => Alike.pure _
      · exact Alike.bind (agreeing_documentLinks _ _) fun _ => Alike.bind ih fun _ => Alike.pure _

theorem agreeing_validateAll (fs : List FileLinks) : Agreeing I (validateAll fs) := by
  apply Alike.scope_bind
  · intro w v h
    simp only [h.root, h.table]
  · intro c
    apply Alike.tree_bind fun _ _ h => h.tree
    intro t
    apply Alike.bind (Alike.forM agreeing_report _)
    intro _
    exact Alike.bind (agreeing_report _) fun _ => Alike.pure _

end Alike

/-! ## Searching suggestions -/

/-- What is known about headings that are remembered. -/
abbrev HeadingsKind := FileTree → FilePath → Assoc String FileHeadings → Prop

/-- The headings of a context are of a kind. -/
def HeadingsAre (P : HeadingsKind) (t : FileTree) (c : Context) : Prop := P t c.root c.headings

/-- The headings of a context are of a kind, and its index is that of the pages. -/
def IndexIsFresh (P : HeadingsKind) (t : FileTree) (c : Context) : Prop :=
  FreshIndex ⟨t, c, []⟩ ∧ P t c.root c.headings

section Search

variable {P : HeadingsKind}

/-- Asking for the index keeps everything but the index, and that is fresh then. -/
theorem indexIsFresh_fileIndex {w : Workspace Context} (hw : IndexIsFresh P w.tree w.scope) :
    (fileIndex w).2.tree = w.tree ∧ (fileIndex w).2.scope.reset = w.scope.reset ∧
      IndexIsFresh P (fileIndex w).2.tree (fileIndex w).2.scope := by
  have hkeep : KeepsProject w (fileIndex w).2 := keeps_fileIndex w
  have hsame : (fileIndex w).2.scope.reset = w.scope.reset ∧
      (fileIndex w).2.scope.headings = w.scope.headings := by
    rw [fileIndex_run]
    split
    · exact ⟨rfl, rfl⟩
    · split
      · exact ⟨rfl, rfl⟩
      · exact ⟨rfl, rfl⟩
  refine ⟨hkeep.tree, hsame.1, hkeep.index hw.1, ?_⟩
  rw [hkeep.tree, hkeep.root, hsame.2]
  exact hw.2

theorem agreeing_fileIndex : Agreeing (IndexIsFresh P) fileIndex := by
  intro w v h
  have hw : FreshIndex w := h.left.1
  have hv : FreshIndex v := h.right.1
  refine ⟨?_, fun i _ => ?_⟩
  · rw [fileIndex_fst hw, fileIndex_fst hv, h.tree, h.root, h.excludeDirs]
  · obtain ⟨htree, hcontext, hfresh⟩ := indexIsFresh_fileIndex h.left
    obtain ⟨htree', hcontext', hfresh'⟩ := indexIsFresh_fileIndex h.right
    refine ⟨?_, ?_, hfresh, hfresh'⟩
    · rw [htree, htree', h.tree]
    · rw [hcontext, hcontext', h.context]

theorem agreeing_surroundings (strategy : Strategy) :
    Agreeing (IndexIsFresh P) (surroundings strategy) := by
  have hrest : ∀ index : FileIndex, Agreeing (IndexIsFresh P) (do
      let c ← scope
      return (⟨← tree, c.root, c.table, index⟩ : Surroundings)) := by
    intro index
    apply Alike.scope_bind
    · intro w v h
      simp only [h.root, h.table]
    · intro c
      exact Alike.tree_bind (fun _ _ h => h.tree) fun t => Alike.pure _
  unfold surroundings
  by_cases huse : strategy.usesIndex = true
  · rw [if_pos huse]
    exact Alike.bind agreeing_fileIndex hrest
  · rw [if_neg huse]
    exact Alike.bind (Alike.pure _) hrest

theorem agreeing_runStrategy (strategy : Strategy) (b : BrokenLink) :
    Agreeing (IndexIsFresh P) (runStrategy strategy b) := by
  apply Alike.bind (agreeing_surroundings strategy)
  intro s
  split
  · exact Alike.bind (Alike.forM agreeing_report _) fun _ => Alike.pure _
  · exact Alike.pure _

/-- **Searching a suggestion** for one link: the answer is told by the project. -/
theorem agreeing_searchFix (b : BrokenLink) : Agreeing (IndexIsFresh P) (searchFix b) := by
  unfold searchFix
  induction Strategy.all with
  | nil => exact Alike.pure _
  | cons strategy rest ih =>
    apply Alike.bind (agreeing_runStrategy strategy b)
    intro found
    split
    · exact Alike.pure _
    · exact ih

theorem agreeing_searchEach (bs : List BrokenLink) : Agreeing (IndexIsFresh P) (searchEach bs) := by
  induction bs with
  | nil => exact Alike.pure _
  | cons b bs ih =>
    apply Alike.bind (agreeing_searchFix b)
    intro suggestion
    split
    · exact Alike.bind (agreeing_report _) fun _ => Alike.bind ih fun _ => Alike.pure _
    · exact Alike.bind ih fun _ => Alike.pure _

/-- With the index forgotten, it is fresh. -/
theorem alike_clearIndex :
    Alike (Agree (HeadingsAre P)) (Agree (IndexIsFresh P)) (modifyScope Context.clearIndex) := by
  intro w v h
  exact ⟨rfl, fun _ _ => ⟨h.tree, h.context, ⟨nofun, h.left⟩, ⟨nofun, h.right⟩⟩⟩

/-- **Searching suggestions for a batch.** The index is forgotten before, so it may be of any age. -/
theorem agreeing_searchAllFixes (bs : List BrokenLink) :
    Agreeing (HeadingsAre P) (searchAllFixes bs) := by
  apply Alike.bind alike_clearIndex
  intro _
  apply Alike.mono (S := Agree (IndexIsFresh P))
  · exact Alike.bind (agreeing_searchEach bs) fun _ =>
      Alike.bind (agreeing_report _) fun _ => Alike.pure _
  · intro w v h
    exact ⟨h.tree, h.context, h.left.2, h.right.2⟩

end Search

/-! ## Checking anchors -/

theorem agreeing_headingsOf (path : String) :
    Agreeing (HeadingsAre RemembersHeadings) (headingsOf path) := by
  intro w v h
  obtain ⟨headings, hw, hheadings⟩ := headingsOf_run h.left path
  obtain ⟨headings', hv, hheadings'⟩ := headingsOf_run h.right path
  rw [hw, hv]
  refine ⟨?_, fun _ _ => ⟨h.tree, h.context, hheadings, hheadings'⟩⟩
  rw [h.tree, h.root]

/-- **Checking anchors** is told by the project, as long as the headings that are remembered are those of
the files. -/
theorem agreeing_validateAllAnchors (rs : List ValidationResult) :
    Agreeing (HeadingsAre RemembersHeadings) (validateAllAnchors rs) := by
  induction rs with
  | nil => exact Alike.pure _
  | cons r rs ih =>
    unfold validateAllAnchors
    split
    · exact ih
    · rename_i target anchor _
      apply Alike.bind (Alike.bind (agreeing_headingsOf target) fun _ => Alike.pure _)
      intro check
      split
      · exact Alike.bind (agreeing_report _) fun _ => Alike.bind ih fun _ => Alike.pure _
      · exact Alike.bind ih fun _ => Alike.pure _

/-! ## The whole check -/

namespace Checker

/-- The workspace of the context of a checker. -/
def contextOf (w : Workspace Checker) : Workspace Context := ⟨w.tree, w.scope.context, w.log⟩

/-- Two checkers have the same project: everything but the memories of the context is the same, and both
memories are of a kind. -/
structure SameProject (I : FileTree → Context → Prop) (w v : Workspace Checker) : Prop where
  scope : v.scope = { w.scope with context := v.scope.context }
  context : Agree I (contextOf w) (contextOf v)

section SameProject

variable {I J : FileTree → Context → Prop} {w v : Workspace Checker}

theorem SameProject.tree (h : SameProject I w v) : w.tree = v.tree := h.context.tree

theorem SameProject.root (h : SameProject I w v) : w.scope.context.root = v.scope.context.root :=
  h.context.root

theorem alike_onContext {α : Type} {x : Work Context α} (hx : Alike (Agree I) (Agree J) x) :
    Alike (SameProject I) (SameProject J) (onContext x) := by
  intro w v h
  obtain ⟨hfst, hsnd⟩ := hx _ _ h.context
  refine ⟨hfst, fun a ha => ⟨?_, hsnd a ha⟩⟩
  show ({ v.scope with context := (x (contextOf v)).2.scope } : Checker)
    = { w.scope with context := (x (contextOf v)).2.scope }
  generalize (x (contextOf v)).2.scope = c
  rw [h.scope]

theorem alike_report (r : LogRecord) : Alike (SameProject I) (SameProject I) (report r) :=
  fun _ _ h => ⟨rfl, fun _ _ =>
    ⟨h.scope, h.context.tree, h.context.context, h.context.left, h.context.right⟩⟩

theorem alike_sayDone (operation : String) (success : Bool) (context : LogContext) :
    Alike (SameProject I) (SameProject I) (sayDone operation success context) := by
  unfold sayDone
  cases success
  · exact alike_report _
  · exact alike_report _

theorem alike_parseFile (p : FilePath) :
    Alike (SameProject I) (SameProject I) (Navigation.parseFile p) := by
  apply Alike.tree_bind fun _ _ h => h.tree
  intro t
  split
  · exact Alike.fail _
  · exact Alike.bind (alike_report _) fun _ => Alike.pure _

theorem alike_checkNavigation : Alike (SameProject I) (SameProject I) checkNavigation := by
  apply Alike.scope_bind
  · intro w v h
    have hpath : v.scope.navigationPath = w.scope.navigationPath := by rw [h.scope]
    have hfile : ∀ t, w.scope.context.hasFile t = v.scope.context.hasFile t := by
      intro t
      funext relative
      unfold Context.hasFile
      rw [h.root]
    simp only [hpath, hfile]
  · intro s
    apply Alike.bind (alike_parseFile _)
    intro navigation
    apply Alike.tree_bind fun _ _ h => h.tree
    intro t
    exact Alike.bind (Alike.forM (fun i => alike_report _) _) fun _ => Alike.pure _

theorem alike_pages : Alike (SameProject I) (SameProject I) pages := by
  apply Alike.scope_bind
  · intro w v h
    have hscan : v.scope.scanPath = w.scope.scanPath := by rw [h.scope]
    have hdirs : w.scope.context.excludeDirs = v.scope.context.excludeDirs := h.context.excludeDirs
    simp only [hscan, hdirs, h.root]
  · intro s
    exact Alike.tree_bind (fun _ _ h => h.tree) fun t => Alike.ofExcept _

/-- A check forgets the headings, and what it remembers then are those of the files. -/
theorem alike_clearHeadings :
    Alike (Agree I) (Agree (HeadingsAre RemembersHeadings)) (modifyScope Context.clearHeadings) := by
  intro w v h
  exact ⟨rfl, fun _ _ => ⟨h.tree, h.context, nofun, nofun⟩⟩

/-- **Checks of the same project answer alike**, whatever is remembered of it. -/
theorem alike_check :
    Alike (SameProject I) (SameProject (HeadingsAre RemembersHeadings)) check := by
  apply Alike.scope_bind
  · intro w v h
    have hsize : v.scope.maxFileSize = w.scope.maxFileSize := by rw [h.scope]
    have hanchors : v.scope.checkAnchors = w.scope.checkAnchors := by rw [h.scope]
    simp only [h.root, hsize, hanchors]
  · intro s
    apply Alike.bind (alike_report _)
    intro _
    apply Alike.bind (alike_onContext alike_clearHeadings)
    intro _
    apply Alike.bind alike_checkNavigation
    intro missing
    apply Alike.bind alike_pages
    intro files
    apply Alike.bind (alike_onContext (agreeing_readDocuments _ _))
    rintro ⟨documents, errors⟩
    apply Alike.bind (alike_onContext (agreeing_validateAll _))
    intro results
    apply Alike.bind (alike_onContext (agreeing_searchAllFixes _))
    intro found
    apply Alike.bind (Alike.forM (fun b => alike_report _) _)
    intro _
    by_cases hanchors : s.checkAnchors = true
    · simp only [hanchors, if_true]
      exact Alike.bind (alike_onContext (agreeing_validateAllAnchors _)) fun _ =>
        Alike.bind (alike_sayDone _ _ _) fun _ => Alike.pure _
    · simp only [hanchors]
      exact Alike.bind (Alike.pure _) fun _ => Alike.bind (alike_sayDone _ _ _) fun _ => Alike.pure _

end SameProject

end Checker

end DocLinks
