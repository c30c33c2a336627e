import DocLinks.FileTree

/-!
# Writing files

Changing a tree. A file is written as a whole: under a temporary name beside its place first, and
then renamed, so it holds the old text or the new one and nothing in between. Folders that are
missing on the way are made, and they stay also if the write fails afterwards.

## Contents
- `put`, `remove`: single changes.
- `makeFolder`, `makeFolders`: folders.
- `write`: a file, with the tree that is left behind in either case.
- `openToAdd`, `store`, `delete`: files without a temporary name.
-/

namespace DocLinks.FileTree

variable (t : FileTree)

/-- The tree with a node at a place. -/
def put (place : List String) (n : Node) : FileTree :=
  { t with nodes := Assoc.put t.nodes place n }

/-- The tree without a place and all that lies below it. -/
def remove (place : List String) : FileTree :=
  { t with nodes := t.nodes.filter fun e => !place.isPrefixOf e.1 }

/-- Makes the folder at a path in the folder that the path leads through, whose place is given. -/
def makeFolderIn (place : List String) (p : FilePath) : Except FileFault FileTree :=
  match t.node? place with
  | some .folder =>
    if p.name = ".." ∨ (t.node? (place ++ [p.name])).isSome then
      .error (.os .alreadyThere p.text none)
    else if maxNameSize < p.name.utf8ByteSize then .error (.os .nameTooLong p.text none)
    else .ok (t.put (place ++ [p.name]) .folder)
  | some (.file _) => .error (.os .notFolder p.text none)
  | none => .error (.os .noEntry p.text none)

/-- Makes the folder at a path, whose parent has to be a folder. -/
def makeFolder (p : FilePath) : Except FileFault FileTree :=
  if p.hasNull then .error .nullByte
  else if isTooLong p then .error (.os .nameTooLong p.text none)
  else if p.names = [] then .error (.os .alreadyThere p.text none)
  else
    match t.walk (t.start p) p.names.dropLast with
    | .error c => .error (.os c p.text none)
    | .ok place => t.makeFolderIn place p

/-- A folder that was to be made, or that is there already. -/
def orPresent (p : FilePath) (made : Except FileFault FileTree) : Except FileFault FileTree :=
  match made with
  | .ok t => .ok t
  | .error (.os .noEntry path target) => .error (.os .noEntry path target)
  | .error (.os code path target) =>
    if t.isFolder p then .ok t else .error (.os code path target)
  | .error f => .error f

/-- Makes the folder at a path unless it is there. -/
def ensureFolder (p : FilePath) : Except FileFault FileTree := t.orPresent p (t.makeFolder p)

/-- The place that a path leads to. -/
def placeOf (p : FilePath) : Except FileFault (List String) :=
  (t.walk (t.start p) p.names).mapError fun c => .os c p.text none

/-- Makes the folder at a path and the missing ones above it, at most `depth` of them, and finds its
place. -/
def makeFoldersUpTo (t : FileTree) (p : FilePath) :
    Nat → FileTree × Except FileFault (List String)
  | 0 =>
    match t.ensureFolder p with
    | .ok t => (t, t.placeOf p)
    | .error f => (t, .error f)
  | depth + 1 =>
    match t.ensureFolder p with
    | .ok t => (t, t.placeOf p)
    | .error (.os .noEntry _ _) =>
      match makeFoldersUpTo t p.parent depth with
      | (t, .error f) => (t, .error f)
      | (t, .ok place) =>
        match t.makeFolderIn place p with
        | .ok t => (t, .ok (place ++ [p.name]))
        | made =>
          match t.orPresent p made with
          | .ok t => (t, t.placeOf p)
          | .error f => (t, .error f)
    | .error f => (t, .error f)

/-- Makes the folder at a path and the missing ones above it. -/
def makeFolders (p : FilePath) : FileTree × Option FileFault :=
  match makeFoldersUpTo t p p.names.length with
  | (t, .ok _) => (t, none)
  | (t, .error f) => (t, some f)

/-- The name under which a file is written before it is renamed; the middle part is chosen so that
no file has the name. -/
def temporaryName (name : String) : String := ".tmp_" ++ name ++ "_XXXXXXXX.tmp"

/-- Writes a file in a folder that exists. -/
def replaceFile (p : FilePath) (text : String) : Except FileFault FileTree :=
  let temporary := (p.parent.child (temporaryName p.name)).resolve t.cwd
  if p.hasNull then .error .nullByte
  else if maxNameSize < (temporaryName p.name).utf8ByteSize ∨ isTooLong temporary then
    .error (.os .nameTooLong temporary.text none)
  else
    match t.walk (t.start p) p.names.dropLast with
    | .error c => .error (.os c temporary.text none)
    | .ok place =>
      let onRename (code : OsCode) : FileFault :=
        .os code temporary.text (some p.text)
      if p.names = [] ∨ p.name = ".." then .error (onRename .busy)
      else
        match t.node? (place ++ [p.name]) with
        | some .folder => .error (onRename .isFolder)
        | _ => .ok (t.put (place ++ [p.name]) (.file (.text text)))

/-- Writes the file at a path, making the folders above it. -/
def write (p : FilePath) (text : String) : FileTree × Option FileFault :=
  match t.makeFolders p.parent with
  | (t, some f) => (t, some f)
  | (t, none) =>
    match t.replaceFile p text with
    | .ok t => (t, none)
    | .error f => (t, some f)

/-- Opens the file at a path for adding to it; one that is missing is made empty, in a folder that
exists. -/
def openToAdd (p : FilePath) : Except FileFault FileTree :=
  match t.stat p with
  | .ok .folder => .error (.os .isFolder p.text none)
  | .ok (.file _) => .ok t
  | .error (.os .noEntry _ _) =>
    match t.walk (t.start p) p.names.dropLast with
    | .error c => .error (.os c p.text none)
    | .ok place =>
      match t.node? place with
      | some .folder => .ok (t.put (place ++ [p.name]) (.file (.text "")))
      | _ => .error (.os .noEntry p.text none)
  | .error f => .error f

/-- Puts content into the file at a path, making the folders above it. -/
def store (p : FilePath) (c : Content) : FileTree × Option FileFault :=
  match t.makeFolders p.parent with
  | (t, some f) => (t, some f)
  | (t, none) =>
    match t.openToAdd p with
    | .error f => (t, some f)
    | .ok t =>
      match t.placeOf p with
      | .ok place => (t.put place (.file c), none)
      | .error f => (t, some f)

/-- The tree without what is at a path. -/
def delete (p : FilePath) : Except FileFault FileTree := do
  let _ ← t.stat p
  return t.remove (← t.placeOf p)

end DocLinks.FileTree
