import DocLinks.Work

/-!
# The root of a project

## Contents
- `validateRoot`: a root has to be a folder that exists.
- `validateContained`: a path of the configuration has to stay inside its container. Whether the
  path exists does not matter; where its steps end does.
- `hidePlaces`: a message without the places of the project and of the home directory.
-/

namespace DocLinks

/-- The absolute path of a project root, if it is a folder. -/
def validateRoot (t : FileTree) (root : FilePath) : Except Fault FilePath :=
  if root.hasNull then .error (.file .nullByte)
  else
    let resolved := root.resolve t.cwd
    match t.probe resolved with
    | .error c => .error (.file (.os c resolved.text none))
    | .ok none => .error (.path (.rootMissing resolved.text))
    | .ok (some (.file _)) => .error (.path (.rootNotFolder resolved.text))
    | .ok (some .folder) => .ok resolved

/-- The absolute path that a path means in a container, if it does not leave the container. -/
def validateContained (t : FileTree) (path container : FilePath) : Except Fault FilePath :=
  let container' := container.resolve t.cwd
  let resolved := (container'.join path).resolve t.cwd
  if container.hasNull ∨ path.hasNull then .error (.file .nullByte)
  else if container'.isBelow resolved then .ok resolved
  else .error (.path (.outside resolved.text container'.text))

/-- Text with every occurrence of a word replaced, from left to right; an empty word stands nowhere.
`fuel` bounds the number of characters. -/
def replaceWord (old new : List Char) : Nat → List Char → List Char
  | 0, cs => cs
  | _, [] => []
  | fuel + 1, c :: cs =>
    if !old.isEmpty ∧ old.isPrefixOf (c :: cs) then
      new ++ replaceWord old new fuel (cs.drop (old.length - 1))
    else c :: replaceWord old new fuel cs

/-- A string with every occurrence of a word replaced. -/
def replaceAll (old new s : String) : String :=
  .ofList (replaceWord old.toList new.toList s.length s.toList)

/-- A message in which the place of the project and that of the home directory have names. -/
def hidePlaces (t : FileTree) (root : Option FilePath) (message : String) : String :=
  let message := match root with
    | some r => replaceAll (r.resolve t.cwd).text "<project>" message
    | none => message
  replaceAll (FilePath.absolute t.home).text "<home>" message

end DocLinks
