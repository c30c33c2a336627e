import DocLinks.Text.CharNames
import DocLinks.Text.DecodeFault
import DocLinks.Text.Half
import DocLinks.Text.Percent

/-!
# Escaped text

Bytes that stand for the characters with their numbers, but for a backslash, which begins an escape.

## Contents
- `decode`: with all escapes.
- `decodeRaw`: with those of code points alone.
-/

namespace DocLinks.Text.Escaped

/-- What an escape amounts to: characters, or a flaw, and how many bytes it takes. -/
inductive Escape where
  | text (cs : List Char) (width : Nat)
  | flaw (f : Flaw) (width : Nat)

/-- The value of a hexadecimal digit. -/
def digit? (b : UInt8) : Option Nat := Percent.hexValue? (Char.ofNat b.toNat)

/-- The digits at the head of bytes, at most `count` of them: their value and their number. -/
def digitsFrom (value read : Nat) : Nat → List UInt8 → Nat × Nat
  | 0, _ => (value, read)
  | _, [] => (value, read)
  | count + 1, b :: rest =>
    match digit? b with
    | some d => digitsFrom (value * 16 + d) (read + 1) count rest
    | none => (value, read)

/-- The escape of a code point by `count` digits, which come behind a backslash and a letter. -/
def pointEscape (count : Nat) (short beyond : Flaw) (rest : List UInt8) : Escape :=
  let (value, read) := digitsFrom 0 0 count rest
  if read < count then .flaw short (read + 2)
  else if 0x110000 ≤ value then .flaw beyond (count + 2)
  else .text (spell value) (count + 2)

/-- The flaw of an escape with too few digits behind a letter. -/
def shortFlaw (letter : Char) (count : Nat) : Flaw := .fewDigits letter count

/-- The escape of a character by its name in curly brackets. -/
def nameEscape (rest : List UInt8) : Escape :=
  match rest with
  | b :: rest =>
    if b = 0x7B then
      let name := rest.takeWhile (· != 0x7D)
      if name.length = rest.length ∨ name.isEmpty then .flaw .badName (name.length + 3)
      else
        match CharNames.char? (.ofList (name.map fun b => Char.ofNat b.toNat)) with
        | some c => .text [c] (name.length + 4)
        | none => .flaw .unknownName (name.length + 4)
    else .flaw .badName 2
  | [] => .flaw .badName 2

/-- The value of an octal digit. -/
def octal? (b : UInt8) : Option Nat := if 0x30 ≤ b ∧ b ≤ 0x37 then some (b.toNat - 0x30) else none

/-- The escape of a character by three octal digits at most. -/
def octalEscape (first : Nat) (rest : List UInt8) : Escape :=
  match rest.head?.bind octal?, (rest.drop 1).head?.bind octal? with
  | some a, some b => .text [Char.ofNat ((first * 8 + a) * 8 + b)] 4
  | some a, none => .text [Char.ofNat (first * 8 + a)] 3
  | none, _ => .text [Char.ofNat first] 2

/-- The characters with an escape of their own. The end of a line is escaped to nothing. -/
def simple? (c : Char) : Option (List Char) :=
  match c with
  | '\n' => some []
  | '\\' => some ['\\']
  | '\'' => some ['\'']
  | '"' => some ['"']
  | 'a' => some ['\x07']
  | 'b' => some ['\x08']
  | 't' => some ['\t']
  | 'n' => some ['\n']
  | 'v' => some ['\x0b']
  | 'f' => some ['\x0c']
  | 'r' => some ['\r']
  | _ => none

/-- The escape behind a backslash. A backslash before any other character stands for itself. -/
def escapeOf (bytes : List UInt8) : Escape :=
  match bytes with
  | [] => .flaw .loneBackslash 1
  | b :: rest =>
    let c := Char.ofNat b.toNat
    match simple? c, octal? b with
    | some cs, _ => .text cs 2
    | none, some n => octalEscape n rest
    | none, none =>
      match c with
      | 'x' => pointEscape 2 (shortFlaw 'x' 2) .noPoint rest
      | 'u' => pointEscape 4 (shortFlaw 'u' 4) .noPoint rest
      | 'U' => pointEscape 8 (shortFlaw 'U' 8) .noPoint rest
      | 'N' => nameEscape rest
      | c => .text ['\\', c] 2

/-- The escape behind a backslash where only code points are escaped. -/
def rawEscapeOf (bytes : List UInt8) : Escape :=
  match bytes with
  | [] => .text ['\\'] 1
  | b :: rest =>
    match Char.ofNat b.toNat with
    | 'u' => pointEscape 4 (shortFlaw 'u' 4) .pointBeyond rest
    | 'U' => pointEscape 8 (shortFlaw 'U' 8) .pointBeyond rest
    | c => .text ['\\', c] 2

/-- Reads bytes whose first one has the number `position`; `read` is what was read before them, the
last character first. -/
def decodeFrom (encoding : String) (escapeOf : List UInt8 → Escape) (position : Nat)
    (read : List Char) : List UInt8 → Except DecodeFault (List Char)
  | [] => .ok read.reverse
  | b :: rest =>
    if b = 0x5C then
      match escapeOf rest with
      | .text cs width =>
        decodeFrom encoding escapeOf (position + max width 1) (cs.reverseAux read)
          (rest.drop (width - 1))
      | .flaw f width => .error ⟨encoding, b, position, width, f⟩
    else decodeFrom encoding escapeOf (position + 1) (Char.ofNat b.toNat :: read) rest
termination_by bytes => bytes.length
decreasing_by all_goals simp only [List.length_drop, List.length_cons]; omega

/-- Bytes as text, with all escapes. -/
def decode (bytes : List UInt8) : Except DecodeFault (List Char) :=
  decodeFrom "unicodeescape" escapeOf 0 [] bytes

/-- Bytes as text, with the escapes of code points alone. -/
def decodeRaw (bytes : List UInt8) : Except DecodeFault (List Char) :=
  decodeFrom "rawunicodeescape" rawEscapeOf 0 [] bytes

end DocLinks.Text.Escaped
