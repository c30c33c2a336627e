import DocLinks.Fault
import DocLinks.FileTree.Write
import DocLinks.Log

/-!
# Work on a tree

`Work σ α` is a computation that reads and changes a file tree, reports what it does, keeps a state
of type `σ` of its own, and ends with an answer or with a fault. What it did to the tree, to its
state and to the log before a fault stays done.

## Contents
- `Workspace`, `Work`.
- `tree`, `report`, `reading`: the elementary computations.
- `Work.within`: a computation on a part of the state.
-/

namespace DocLinks

/-- What a computation works on. -/
structure Workspace (σ : Type) where
  tree : FileTree
  scope : σ
  log : List LogRecord := []
  deriving Inhabited

/-- A computation on a workspace. -/
abbrev Work (σ α : Type) := ExceptT Fault (StateM (Workspace σ)) α

namespace Work

variable {σ τ α : Type}

/-- The file tree as it is now. -/
def tree : Work σ FileTree := fun w => (.ok w.tree, w)

/-- Replaces the file tree. -/
def setTree (t : FileTree) : Work σ Unit := fun w => (.ok (), { w with tree := t })

/-- The state as it is now. -/
def scope : Work σ σ := fun w => (.ok w.scope, w)

/-- Changes the state. -/
def modifyScope (f : σ → σ) : Work σ Unit := fun w => (.ok (), { w with scope := f w.scope })

/-- Adds a record to the log. -/
def report (r : LogRecord) : Work σ Unit := fun w => (.ok (), { w with log := w.log ++ [r] })

/-- Ends with a fault. -/
def fail (f : Fault) : Work σ α := fun w => (.error f, w)

/-- Goes on with an answer that is known, or ends with a fault that is. -/
def ofExcept (r : Except Fault α) : Work σ α := fun w => (r, w)

/-- Runs a computation on a part of the state. -/
def within (get : σ → τ) (set : τ → σ → σ) (x : Work τ α) : Work σ α := fun w =>
  let (r, v) := x { tree := w.tree, scope := get w.scope, log := w.log }
  (r, { tree := v.tree, scope := set v.scope w.scope, log := v.log })

/-- Runs a computation that needs no state. -/
def stateless (x : Work Unit α) : Work σ α := within (fun _ => ()) (fun _ s => s) x

/-- Writes a file. A fault of the file system is one of writing; a path that no file can have is
refused as it is. -/
def write (p : FilePath) (text : String) : Work σ (Except WriteFault Unit) := fun w =>
  let (t, fault) := w.tree.write p text
  let w := { w with tree := t }
  match fault with
  | none => (.ok (.ok ()), w)
  | some .nullByte => (.error (.file .nullByte), w)
  | some f => (.ok (.error ⟨p.text, f⟩), w)

/-- Changes the tree, also if that ends with a fault of the file system. -/
def change (f : FileTree → FileTree × Option FileFault) : Work σ Unit := do
  let (t, fault) := f (← tree)
  setTree t
  match fault with
  | none => pure ()
  | some fault => fail (.file fault)

/-- Begins to write a file and finds that there is no text to write. The temporary file stays. -/
def beginWrite (p : FilePath) : Work σ Unit := do
  let (t, fault) := (← tree).makeFolders p.parent
  setTree t
  match fault with
  | some f => fail (.write ⟨p.text, f⟩)
  | none => pure ()
  let temporary := (p.parent.child (FileTree.temporaryName p.name)).resolve t.cwd
  match t.openToAdd temporary with
  | .error .nullByte => fail (.file .nullByte)
  | .error f => fail (.write ⟨p.text, f⟩)
  | .ok t =>
    setTree t
    fail (.shape .wrongType)

end Work

end DocLinks
