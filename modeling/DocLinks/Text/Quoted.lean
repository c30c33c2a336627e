import DocLinks.Text.CodePoints
import DocLinks.Text.Half
import DocLinks.Text.PrintableTable

/-!
# Quoted text

How a message shows a text: between single quotes, or between double quotes when it holds a single
quote and no double one. The quote in use, the backslash, the three common controls and every
character that is not printable are escaped.
-/

namespace DocLinks.Text

/-- A character that is shown as it is. -/
def isPrintable (c : Char) : Bool := inRanges c.toNat printableBounds

/-- The lowest `width` hexadecimal digits of a number, most significant first. -/
def hexDigits : Nat → Nat → List Char
  | 0, _ => []
  | width + 1, n => hexDigits width (n / 16) ++ [Nat.digitChar (n % 16)]

@[simp] theorem length_hexDigits (width n : Nat) : (hexDigits width n).length = width := by
  induction width generalizing n with
  | zero => rfl
  | succ width ih => simp [hexDigits, ih]

/-- The escape of a code point: two, four or eight hexadecimal digits, the fewest that hold it. -/
def escape (n : Nat) : List Char :=
  if n < 0x100 then '\\' :: 'x' :: hexDigits 2 n
  else if n < 0x10000 then '\\' :: 'u' :: hexDigits 4 n
  else '\\' :: 'U' :: hexDigits 8 n

/-- A character inside the given quotes. -/
def quoteChar (quote c : Char) : List Char :=
  if c = quote || c = '\\' then ['\\', c]
  else if c = '\n' then ['\\', 'n']
  else if c = '\r' then ['\\', 'r']
  else if c = '\t' then ['\\', 't']
  else if isPrintable c then [c]
  else escape c.toNat

/-- The quotes for a text: double ones only if they spare an escape. -/
def quoteFor (cs : List Char) : Char :=
  if '\x27' ∈ cs ∧ '"' ∉ cs then '"' else '\x27'

/-- Characters inside the given quotes behind `shown`, whose last character comes first. Two that
spell half of a surrogate pair are its escape. -/
def quoteAfter (quote : Char) (shown : List Char) : List Char → List Char
  | [] => shown.reverse
  | [c] => ((quoteChar quote c).reverseAux shown).reverse
  | a :: b :: rest =>
    match halfOf? a b with
    | some n => quoteAfter quote ((escape n).reverseAux shown) rest
    | none => quoteAfter quote ((quoteChar quote a).reverseAux shown) (b :: rest)

/-- The text as a message shows it. -/
def quoted (s : String) : String :=
  let quote := quoteFor s.toList
  .ofList (quoteAfter quote [quote] s.toList ++ [quote])

/-- A byte inside the given quotes: escaped unless it is a printable character of ASCII. -/
def quoteByte (quote : Char) (b : UInt8) : List Char :=
  if b < 0x7F then quoteChar quote (Char.ofNat b.toNat) else '\\' :: 'x' :: hexDigits 2 b.toNat

/-- Bytes as a message shows them. -/
def quotedBytes (bs : List UInt8) : String :=
  let quote := quoteFor (bs.map fun b => Char.ofNat b.toNat)
  .ofList ('b' :: quote :: bs.flatMap (quoteByte quote) ++ [quote])

/-- The text with an escape in place of every character beyond ASCII. -/
def ascii (s : String) : String :=
  .ofList (s.toList.flatMap fun c => if c.toNat < 0x80 then [c] else escape c.toNat)

example : quoted "it's" = "\"it's\"" := by decide +kernel
example : quoted "a\u200b\x00\n" = "'a\\u200b\\x00\\n'" := by decide +kernel

end DocLinks.Text
