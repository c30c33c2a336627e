import DocLinks.Text.Blank
import DocLinks.Text.Lines

/-!
# Fenced code

Which lines of a document are code. A fence is a line whose first visible characters are three
backquotes or three tildes; fences are marked themselves, and so is every line between an opening
fence and the next one. A fence that is never closed hides the rest of the document.
-/

namespace DocLinks.Markdown

open Text

/-- A line that opens or closes a code block. -/
def isFence (line : List Char) : Bool :=
  "```".toList.isPrefixOf (trim line) || "~~~".toList.isPrefixOf (trim line)

/-- Marks lines as code, starting inside a block or outside of one. -/
def codeMarksFrom (inBlock : Bool) : List (List Char) → List Bool
  | [] => []
  | l :: ls =>
    if isFence l then true :: codeMarksFrom (!inBlock) ls
    else inBlock :: codeMarksFrom inBlock ls

/-- One mark per line: whether the line is a fence or stands in a code block. -/
def codeMarks (lines : List (List Char)) : List Bool := codeMarksFrom false lines

theorem length_codeMarksFrom (inBlock : Bool) (lines : List (List Char)) :
    (codeMarksFrom inBlock lines).length = lines.length := by
  induction lines generalizing inBlock with
  | nil => rfl
  | cons l ls ih => by_cases h : isFence l <;> simp [codeMarksFrom, h, ih]

@[simp] theorem length_codeMarks (lines : List (List Char)) :
    (codeMarks lines).length = lines.length :=
  length_codeMarksFrom false lines

/-- The lines outside code, each with its number counted from one. -/
def visibleLines (lines : List (List Char)) : List (Nat × List Char) :=
  ((numberFrom 1 lines).zip (codeMarks lines)).filterMap fun (numbered, marked) =>
    if marked then none else some numbered

end DocLinks.Markdown
