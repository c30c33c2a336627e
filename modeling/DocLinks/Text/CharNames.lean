import DocLinks.Text.CharNames.Alphabets
import DocLinks.Text.CharNames.Ancient
import DocLinks.Text.CharNames.Forms
import DocLinks.Text.CharNames.Others
import DocLinks.Text.CharNames.Pictures
import DocLinks.Text.CharNames.Syllables
import DocLinks.Text.CharNames.Symbols
import DocLinks.Text.Percent
import Std.Data.HashMap

/-!
# Names of characters

Most names are in tables. A table is made of lines: one with a number, and with words if the names
behind it begin with them; and lines with the rest of each name behind a slash, for the character
with that number and those that follow it. A slash alone is that of a number without a name.

Ideographs and the syllables of Korean have names by a rule.

## Contents
- `namesIn`: what is in a table.
- `syllable?`, `ideograph?`: the names by a rule.
- `char?`: the character with a name.
-/

namespace DocLinks.Text.CharNames

/-! ## Tables -/

/-- The value of hexadecimal digits. -/
def hexNumber? (digits : List Char) : Option Nat :=
  digits.foldlM (fun n c => (Percent.hexValue? c).map (n * 16 + ·)) 0

/-- Where the next line of a table goes on, how its names begin, and the names before it. -/
structure Reading where
  next : Nat := 0
  start : List Char := []
  names : List (String × Nat) := []

/-- Reads the rest of a name. -/
def addName (r : Reading) (rest : List Char) : Reading :=
  { r with
    next := r.next + 1
    names := if rest.isEmpty then r.names else (.ofList (r.start ++ rest), r.next) :: r.names }

/-- What a name begins with before its rest: a space parts the two, unless a hyphen joins them. -/
def startOf (words : List Char) : List Char :=
  if words.isEmpty || words.getLast? = some '-' then words else words ++ [' ']

/-- Reads a line. -/
def addLine (r : Reading) (line : List Char) : Reading :=
  match line.dropWhile (· = ' ') with
  | '/' :: rests => (rests.splitOn '/').foldl addName r
  | line =>
    let number := line.takeWhile (· ≠ ' ')
    { r with
      next := (hexNumber? number).getD 0
      start := startOf (line.drop (number.length + 1)) }

/-- The names in a table, each with the number of its character. -/
def namesIn (table : List Char) : List (String × Nat) :=
  (((table.splitOn '\n').foldl addLine {}).names).reverse

example : namesIn "41 LATIN CAPITAL LETTER\n  /A//C\n  2010\n  /HYPHEN".toList =
    [("LATIN CAPITAL LETTER A", 0x41), ("LATIN CAPITAL LETTER C", 0x43), ("HYPHEN", 0x2010)] := by
  decide +kernel

/-- The characters whose names end in their own number: how the names begin, and the first and the
last number. -/
def numbered : List (String × Nat × Nat) :=
  [("CJK COMPATIBILITY IDEOGRAPH-", 0xF900, 0xFA6D), ("CJK COMPATIBILITY IDEOGRAPH-", 0xFA70, 0xFAD9),
    ("KHITAN SMALL SCRIPT CHARACTER-", 0x18B00, 0x18CD5), ("NUSHU CHARACTER-", 0x1B170, 0x1B2FB),
    ("CJK COMPATIBILITY IDEOGRAPH-", 0x2F800, 0x2FA1D)]

/-- The names that end in a number. -/
def numberedNames : List (String × Nat) :=
  numbered.flatMap fun (start, first, last) =>
    (List.range' first (last + 1 - first)).map fun n =>
      (start ++ .ofList ((Nat.toDigits 16 n).map Char.toUpper), n)

/-- All names that are not by a rule. The table is made when it is first used. -/
def names : Thunk (Std.HashMap String Nat) :=
  Thunk.mk fun _ =>
    let tables := [alphabetNames, syllableNames, symbolNames, formNames, ancientNames,
      pictureNames, otherNames]
    .ofList (numberedNames ++ tables.flatMap fun table => namesIn table.toList)

/-! ## Names by a rule -/

/-- How the names of syllables and of ideographs begin. -/
def syllableStart : List Char := "HANGUL SYLLABLE ".toList
def ideographStart : List Char := "CJK UNIFIED IDEOGRAPH-".toList

/-- The initials, vowels and finals of syllables. -/
def initials : List String :=
  ["G", "GG", "N", "D", "DD", "R", "M", "B", "BB", "S", "SS", "", "J", "JJ", "C", "K", "T", "P", "H"]
def vowels : List String :=
  ["A", "AE", "YA", "YAE", "EO", "E", "YEO", "YE", "O", "WA", "WAE", "OE", "YO", "U", "WEO", "WE",
    "WI", "YU", "EU", "YI", "I"]
def finals : List String :=
  ["", "G", "GG", "GS", "N", "NJ", "NH", "D", "L", "LG", "LM", "LB", "LS", "LT", "LP", "LH", "M",
    "B", "BS", "S", "SS", "NG", "J", "C", "K", "T", "P", "H"]

/-- The longest of some texts that the characters begin with: its number, and what follows. -/
def longest? (texts : List String) (cs : List Char) : Option (Nat × List Char) :=
  let found := texts.zipIdx.filter fun (t, _) => t.toList.isPrefixOf cs
  let size := (found.map fun (t, _) => t.length).max?.getD 0
  (found.find? fun (t, _) => t.length = size).map fun (_, i) => (i, cs.drop size)

/-- The number of the syllable that is spelled like this. -/
def syllable? (cs : List Char) : Option Nat := do
  let (i, cs) ← longest? initials cs
  let (v, cs) ← longest? vowels cs
  let (f, cs) ← longest? finals cs
  if cs.isEmpty then some (0xAC00 + (i * vowels.length + v) * finals.length + f) else none

/-- The numbers of ideographs. -/
def ideographRanges : List (Nat × Nat) :=
  [(0x3400, 0x4DBF), (0x4E00, 0x9FFF), (0x20000, 0x2A6DF), (0x2A700, 0x2B738), (0x2B740, 0x2B81D),
    (0x2B820, 0x2CEA1), (0x2CEB0, 0x2EBE0), (0x30000, 0x3134A)]

/-- The number of the ideograph with that number in capital digits, of which there are four or
five. -/
def ideograph? (digits : List Char) : Option Nat := do
  let n ← hexNumber? digits
  let isNumber := (digits.length = 4 || digits.length = 5) && !digits.any Char.isLower
  if isNumber && ideographRanges.any fun (first, last) => first ≤ n && n ≤ last then some n
  else none

/-- The character with a name. The case of letters does not matter, unless the name is one by a
rule. -/
def char? (name : String) : Option Char :=
  let cs := name.toList
  let number :=
    if syllableStart.isPrefixOf cs then syllable? (cs.drop syllableStart.length)
    else if ideographStart.isPrefixOf cs then ideograph? (cs.drop ideographStart.length)
    else names.get.get? (.ofList (cs.map Char.toUpper))
  number.map Char.ofNat

end DocLinks.Text.CharNames
