/-!
# Tables of characters

Character sets for East Asian scripts are tables. A code tells a row and a column.

## Contents
- `Grid`: a dense table, with `Grid.char?`.
- `charInRuns?`: a character of a sparse table.
- `Sign`: what stands at the head of bytes.
- `charsBySigns`: bytes read sign by sign.
-/

namespace DocLinks.Text.EastAsian

/-- A table of characters by row and column, both counted from zero. -/
structure Grid where
  width : Nat
  cells : Array Char
  deriving Inhabited

namespace Grid

/-- Stands for a cell without a character. -/
def gap : Char := '.'

/-- The cells with those of a row behind them. The rows that were left out are gaps. -/
def addRow (width : Nat) (cells : Array Char) (row : Nat × String) : Array Char :=
  row.2.toList.foldl Array.push (cells ++ Array.replicate (row.1 * width - cells.size) gap)

/-- The table with the given rows, which are in order. -/
def ofRows (width : Nat) (rows : List (Nat × String)) : Grid :=
  ⟨width, rows.foldl (addRow width) #[]⟩

/-- The character in a cell. -/
def char? (g : Grid) (row column : Nat) : Option Char :=
  if column < g.width then g.cells[row * g.width + column]?.filter (· ≠ gap) else none

example : (ofRows 3 [(0, "ab"), (2, "c")]).char? 2 0 = some 'c' := by decide
example : (ofRows 3 [(0, "ab"), (2, "c")]).char? 1 0 = none := by decide

end Grid

/-- The character of a code in runs of codes, each with the code that it starts at. -/
def charInRuns? (runs : List (Nat × String)) (code : Nat) : Option Char :=
  runs.findSome? fun (start, cs) =>
    if start ≤ code then cs.toList[code - start]? else none

/-- What stands at the head of bytes: characters in a number of bytes, with the state behind them;
a number of bytes that are no character; or the start of a character that is cut short. -/
inductive Sign (σ : Type) where
  | text (cs : List Char) (width : Nat) (next : σ)
  | illegal (width : Nat)
  | short

/-- Why bytes are not read, and where: how many stand before the flaw, and how many it covers. -/
structure SignFault where
  position : Nat
  byte : UInt8
  width : Nat
  isShort : Bool

/-- Bytes read sign by sign; `read` is what was read of them, the last character first. -/
def charsBySigns {σ : Type} (signOf : σ → UInt8 → List UInt8 → Sign σ) (position : Nat) (state : σ)
    (read : List Char) : List UInt8 → Except SignFault (List Char)
  | [] => .ok read.reverse
  | b :: rest =>
    match signOf state b rest with
    | .text cs width next =>
      charsBySigns signOf (position + max width 1) next (cs.reverseAux read) (rest.drop (width - 1))
    | .illegal width => .error ⟨position, b, width, false⟩
    | .short => .error ⟨position, b, rest.length + 1, true⟩
termination_by bytes => bytes.length
decreasing_by simp only [List.length_drop, List.length_cons]; omega

/-- The sign of a byte below 0x80: a character of ASCII. -/
def asciiSign {σ : Type} (b : UInt8) (state : σ) : Sign σ := .text [Char.ofNat b.toNat] 1 state

/-- The sign of two bytes, the second one at the head of `rest`. -/
def pairSign {σ : Type} (charsOf : Nat → Nat → Option (List Char)) (a : UInt8) (rest : List UInt8)
    (state : σ) : Sign σ :=
  match rest with
  | [] => .short
  | b :: _ =>
    match charsOf a.toNat b.toNat with
    | some cs => .text cs 2 state
    | none => .illegal 1

/-- The sign where bytes from 0x80 on come in pairs. -/
def pairedSign (charsOf : Nat → Nat → Option (List Char)) (state : Unit) (a : UInt8)
    (rest : List UInt8) : Sign Unit :=
  if a < 0x80 then asciiSign a state else pairSign charsOf a rest state

end DocLinks.Text.EastAsian
