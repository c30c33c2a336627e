import DocLinks.Project.Resolve
import DocLinks.Fault

/-!
# Finding files

## Contents
- `filesBelow`: the files below a folder whose extension is wanted and that no excluded folder
  holds, as sorted document paths.
- `markdownFiles`: the pages of a project, or of one folder of it.
- `FileIndex`: the pages by file name and by path, letter case aside.
-/

namespace DocLinks

open Text

/-- Folder names that are passed over unless others are configured. -/
def defaultExcludeDirs : List String := ["node_modules", "_book", "dist", ".git"]

/-- The names behind a common beginning. -/
def namesBehind? : List String → List String → Option (List String)
  | [], names => some names
  | _ :: _, [] => none
  | p :: ps, n :: ns => if p = n then namesBehind? ps ns else none

/-- Whether names lead from a place to a file. -/
def FileTree.isFileFrom (t : FileTree) (place names : List String) : Bool :=
  match t.walk place names with
  | .error _ => false
  | .ok target =>
    match t.node? target with
    | some (.file _) => true
    | _ => false

/-- Whether a file is wanted: by its extension, and by the folders that hold it. -/
def isWanted (extensions excluded names : List String) : Bool :=
  extensions.contains (FilePath.suffixOf (names.getLast?.getD "")) &&
    !names.dropLast.any excluded.contains

/-- The wanted files below a place, by their names from there, sorted by their paths. -/
def FileTree.filesBelow (t : FileTree) (place extensions excluded : List String) : List String :=
  let found := t.nodes.filterMap fun e =>
    match namesBehind? place e.1 with
    | some (n :: ns) =>
      if isWanted extensions excluded (n :: ns) && t.isFileFrom place (n :: ns) then
        some ("/".intercalate (n :: ns))
      else none
    | _ => none
  (found.mergeSort fun a b => decide (a ≤ b)).eraseDups

/-- The folder names among configured values. A list or a mapping cannot be a name. -/
def folderNames (values : List Value) : Except Fault (List String) :=
  if values.all Value.isHashable then
    .ok (values.filterMap fun v => match v with
      | .text s => some s
      | _ => none)
  else .error (.shape .wrongType)

/-- The wanted files below a folder. -/
def FileTree.scan (t : FileTree) (folder : FilePath) (extensions : List String)
    (excluded : List Value) : Except Fault (List String) := do
  let excluded ← folderNames excluded
  match t.stat folder with
  | .error (.os .nameTooLong path target) => throw (.file (.os .nameTooLong path target))
  | .ok .folder =>
    match t.walk (t.start folder) folder.names with
    | .ok place => return t.filesBelow place extensions excluded
    | .error _ => return []
  | _ => return []

/-- The document path of a folder, without slashes at its ends. -/
def folderLead (folder : String) : String :=
  let cs := (FilePath.ofString folder).text.toList
  .ofList (dropEndWhile (· == '/') (DocPath.unrooted cs))

/-- The pages of a project, or of one folder of it. -/
def markdownFiles (t : FileTree) (root : FilePath) (folder : Option String)
    (excluded : List Value) : Except Fault (List String) := do
  let folder := folder.filter (· ≠ "")
  let searched := match folder with
    | some f => root.join (.ofString f)
    | none => root
  match t.probe searched with
  | .error c => .error (.file (.os c searched.text none))
  | .ok (some .folder) =>
    let files ← t.scan searched [".md"] excluded
    match folder with
    | some f => return files.map (folderLead f ++ "/" ++ ·)
    | none => return files
  | .ok _ => return []

/-- The pages of a project, for look-ups. -/
structure FileIndex where
  allFiles : List String
  byStem : Assoc String (List String)
  byLowerPath : Assoc String (List String)
  deriving Inhabited

namespace FileIndex

/-- The file name of a path without its extension, in lower case. -/
def lowerStem (path : String) : String := .ofList (lower (DocPath.stem path.toList))

/-- The index of a list of files. -/
def ofFiles (files : List String) : FileIndex where
  allFiles := files
  byStem := Assoc.group (files.map fun f => (lowerStem f, f))
  byLowerPath := Assoc.group (files.map fun f => (lowercase f, f))

/-- The number of files. -/
def size (i : FileIndex) : Nat := i.allFiles.length

/-- The files whose name without its extension is the given one, letter case aside. -/
def findByStem (i : FileIndex) (stem : String) : List String :=
  (i.byStem.get? (lowercase stem)).getD []

/-- The files whose path is the given one, letter case aside. -/
def findByPath (i : FileIndex) (path : String) : List String :=
  (i.byLowerPath.get? (lowercase path)).getD []

end FileIndex

end DocLinks
