import DocLinks.Redirect.Table
import DocLinks.Work

/-!
# The redirect file

Reading the table of a project from its file, and recording new redirects in the file.

## Contents
- `insertEntries`: the lines of a file with new entries: behind the last entry of the block, behind
  the opening line if the block has none, or in a new block at the end of the file.
- `RedirectTable.ofFile`, `loadTable`: reading. A missing file makes an empty table.
- `addRedirects`, `RedirectTable.append`: recording.
-/

namespace DocLinks

open Text

namespace Redirect

/-- The line of an entry. -/
def entryLine (p : RedirectPair) : List Char :=
  ' ' :: ' ' :: (p.source.toList ++ ':' :: ' ' :: p.destination.toList)

/-- A line with something visible behind exactly two blanks. -/
def looksLikeEntry (line : List Char) : Bool :=
  match line with
  | a :: b :: c :: _ => isBlank a && isBlank b && !isBlank c
  | _ => false

/-- The number of lines, from the given ones on, up to the last one that looks like an entry; the
search ends with the block. -/
def upToLastEntry : List (List Char) → Nat
  | [] => 0
  | l :: ls =>
    if looksLikeEntry l then upToLastEntry ls + 1
    else if endsBlock l then 0
    else
      match upToLastEntry ls with
      | 0 => 0
      | n + 1 => n + 2

/-- The lines with others inserted behind the first `n`. -/
def insertBehind (n : Nat) (new lines : List (List Char)) : List (List Char) :=
  lines.take n ++ new ++ lines.drop n

/-- The number of lines that a new block comes behind: all of them, but an empty last line stays
the last one. -/
def endOfText (lines : List (List Char)) : Nat :=
  if lines.getLast? = some [] then lines.length - 1 else lines.length

/-- The lines with the entries recorded. -/
def insertEntries (pairs : List RedirectPair) (lines : List (List Char)) : List (List Char) :=
  let new := pairs.map entryLine
  match lines.findIdx? isMarker with
  | none => insertBehind (endOfText lines) ([] :: marker :: new) lines
  | some i => insertBehind (i + 1 + upToLastEntry (lines.drop (i + 1))) new lines

end Redirect

/-- Reads the table of a file. -/
def RedirectTable.ofFile (t : FileTree) (p : FilePath) : Except RedirectFault RedirectTable :=
  match t.read p FileTree.defaultLimit with
  | .error f => .error (.unreadable p.text f)
  | .ok content => .ok (.ofText content (some p))

/-- Reads the table of a file that may be missing. -/
def loadTable {σ : Type} (p : FilePath) : Work σ RedirectTable := do
  let t ← Work.tree
  if t.isFile p then
    Work.ofExcept ((RedirectTable.ofFile t p).mapError .redirects)
  else
    Work.report
      { level := .warning
        logger := loggerOf "parsers.redirects"
        message := p.name ++ " not found - redirect suggestions will be limited"
        context := { filePath := some p.text, errorCode := some "RDR-02" } }
    return .empty

/-- Records redirects in a file. -/
def addRedirects {σ : Type} (p : FilePath) (pairs : List RedirectPair) :
    Work σ (Except RedirectFault Unit) := do
  if pairs.isEmpty then return .ok ()
  match (← Work.tree).read p FileTree.defaultLimit with
  | .error f => return .error (.unreadable p.text f)
  | .ok content =>
    match ← Work.write p (ofLines (Redirect.insertEntries pairs (linesOf content))) with
    | .error f => return .error (.unwritable f)
    | .ok () =>
      Work.report
        { level := .info
          logger := loggerOf "parsers.redirects"
          message := "Added " ++ toString pairs.length ++ " redirect(s) to " ++ p.text }
      return .ok ()

/-- Records redirects in the file of a table, and reads the table again. -/
def RedirectTable.append {σ : Type} (table : RedirectTable) (pairs : List RedirectPair) :
    Work σ (Except RedirectFault (RedirectTable × Nat)) := do
  if pairs.isEmpty then return .ok (table, 0)
  match table.file with
  | none => return .error .noFile
  | some p =>
    match ← addRedirects p pairs with
    | .error f => return .error f
    | .ok () =>
      return (RedirectTable.ofFile (← Work.tree) p).map fun reloaded =>
        ({ table with entries := reloaded.entries }, pairs.length)

end DocLinks
