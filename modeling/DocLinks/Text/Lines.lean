/-!
# Lines

A text is the list of its lines joined by line feeds: nothing but the line feed ends a line, so a
carriage return stays at the end of its line, and a text that ends in a line feed has an empty last
line. Cutting and joining are inverse to each other.
-/

namespace DocLinks.Text

/-- The lines of a text; there is always at least one. -/
def splitLines (cs : List Char) : List (List Char) := cs.splitOn '\n'

/-- The text with the given lines. -/
def joinLines (ls : List (List Char)) : List Char := ['\n'].intercalate ls

@[simp] theorem joinLines_splitLines (cs : List Char) : joinLines (splitLines cs) = cs :=
  List.intercalate_splitOn '\n'

theorem splitLines_joinLines {ls : List (List Char)} (h : ∀ l ∈ ls, '\n' ∉ l) (hne : ls ≠ []) :
    splitLines (joinLines ls) = ls :=
  List.splitOn_intercalate '\n' h hne

theorem splitLines_ne_nil (cs : List Char) : splitLines cs ≠ [] := List.splitOn_ne_nil '\n' cs

/-- The lines of a string. -/
def linesOf (s : String) : List (List Char) := splitLines s.toList

/-- The string with the given lines. -/
def ofLines (ls : List (List Char)) : String := .ofList (joinLines ls)

@[simp] theorem ofLines_linesOf (s : String) : ofLines (linesOf s) = s := by
  simp [ofLines, linesOf]

/-- Each item with its number, counted from `n`. -/
def numberFrom {α : Type} (n : Nat) : List α → List (Nat × α)
  | [] => []
  | a :: as => (n, a) :: numberFrom (n + 1) as

@[simp] theorem map_snd_numberFrom {α : Type} (n : Nat) (as : List α) :
    (numberFrom n as).map Prod.snd = as := by
  induction as generalizing n with
  | nil => rfl
  | cons a as ih => simp [numberFrom, ih]

/-- The text with every line end written as a line feed. -/
def unifyLineEnds : List Char → List Char
  | [] => []
  | '\r' :: '\n' :: rest => '\n' :: unifyLineEnds rest
  | '\r' :: rest => '\n' :: unifyLineEnds rest
  | c :: rest => c :: unifyLineEnds rest

/-- The characters that end a line on a terminal. -/
def isLineEnd (c : Char) : Bool :=
  ('\n' ≤ c && c ≤ '\r') || ('\x1c' ≤ c && c ≤ '\x1e') || c == '\u0085' || c == '\u2028' ||
    c == '\u2029'

/-- The lines that a text makes on a terminal; `line` is what was read of the first one, the last
character first. -/
def shownLinesAfter (line : List Char) : List Char → List (List Char)
  | [] => if line.isEmpty then [] else [line.reverse]
  | '\r' :: '\n' :: rest => line.reverse :: shownLinesAfter [] rest
  | c :: rest =>
    if isLineEnd c then line.reverse :: shownLinesAfter [] rest
    else shownLinesAfter (c :: line) rest

/-- The lines that a text makes on a terminal. What comes after the last line end is a line unless
it is empty. -/
def shownLines (s : String) : List String := (shownLinesAfter [] s.toList).map .ofList

example : shownLines "a\u2028b\r\n\nc\x0b" = ["a", "b", "", "c"] := by decide +kernel

end DocLinks.Text
