import DocLinks.Text.Base64
import DocLinks.Text.DecodeFault
import DocLinks.Text.Half

/-!
# UTF-7

ASCII but for the plus sign, behind which a section writes UTF-16 units in Base64 without padding. A
section ends before the first character outside the alphabet; a minus sign there belongs to it.
-/

namespace DocLinks.Text.Utf7

/-- A section that is being read: where it starts, how many bits are not used yet, their value, and
the first half of a pair that waits for the second one. -/
structure Section where
  start : Nat
  count : Nat := 0
  bits : Nat := 0
  high : Option Nat := none

namespace Section

/-- Whether a unit is the first half of a pair. -/
def isHigh (unit : Nat) : Bool := 0xD800 ≤ unit && unit < 0xDC00

/-- Whether a unit is the second half of a pair. -/
def isLow (unit : Nat) : Bool := 0xDC00 ≤ unit && unit < 0xE000

/-- The section with one more unit, and the characters that are complete with it. -/
def addUnit (s : Section) (unit : Nat) : List Char × Section :=
  match s.high with
  | some high =>
    if isLow unit then
      ([Char.ofNat (0x10000 + (high - 0xD800) * 0x400 + (unit - 0xDC00))], { s with high := none })
    else if isHigh unit then (spell high, { s with high := some unit })
    else (spell high ++ spell unit, { s with high := none })
  | none => if isHigh unit then ([], { s with high := some unit }) else (spell unit, s)

/-- The section with six more bits, and the characters that are complete with them. -/
def addBits (s : Section) (six : Nat) : List Char × Section :=
  let count := s.count + 6
  let bits := s.bits * 64 + six
  if 16 ≤ count then
    let left := Nat.pow 2 (count - 16)
    { s with count := count - 16, bits := bits % left }.addUnit (bits / left)
  else ([], { s with count, bits })

/-- Why a section cannot end where it does. -/
def flaw? (s : Section) : Option Flaw :=
  if 6 ≤ s.count then some .partialUnit else if s.bits ≠ 0 then some .padding else none

/-- The half that waits at the end of a section. -/
def left (s : Section) : List Char := (s.high.map spell).getD []

/-- Whether a text can end inside the section. -/
def canStop (s : Section) : Bool := s.high.isNone && s.flaw?.isNone

end Section

/-- The flaw that begins at the plus sign of a section and ends before `position`. -/
def sectionFault (s : Section) (position : Nat) (flaw : Flaw) : DecodeFault :=
  ⟨"utf7", 0x2B, s.start, position - s.start, flaw⟩

/-- The six bits of a byte. -/
def sixBits? (b : UInt8) : Option Nat :=
  if b < 0x80 then Base64.bitsOf? (Char.ofNat b.toNat) else none

/-- Reads bytes whose first one has the number `position`, perhaps inside a section; `read` is what
was read before them, the last character first. -/
def decodeFrom (position : Nat) (inside : Option Section) (read : List Char) :
    List UInt8 → Except DecodeFault (List Char)
  | [] =>
    match inside with
    | none => .ok read.reverse
    | some s => if s.canStop then .ok read.reverse else .error (sectionFault s position .openSection)
  | b :: rest =>
    let outside (read : List Char) : Except DecodeFault (List Char) :=
      if b = 0x2B then
        match rest with
        | c :: more =>
          if c = 0x2D then decodeFrom (position + 2) none ('+' :: read) more
          else if (sixBits? c).isNone then
            .error (sectionFault { start := position } (position + 2) .illFormed)
          else decodeFrom (position + 1) (some { start := position }) read (c :: more)
        | [] => decodeFrom (position + 1) (some { start := position }) read []
      else if b < 0x80 then decodeFrom (position + 1) none (Char.ofNat b.toNat :: read) rest
      else .error ⟨"utf7", b, position, 1, .special⟩
    match inside with
    | none => outside read
    | some s =>
      match sixBits? b, s.flaw? with
      | some six, _ =>
        let (cs, s) := s.addBits six
        decodeFrom (position + 1) (some s) (cs.reverseAux read) rest
      | none, some flaw => .error (sectionFault s (position + 1) flaw)
      | none, none =>
        if b = 0x2D then decodeFrom (position + 1) none (s.left.reverseAux read) rest
        else outside ((if b < 0x80 then s.left else []).reverseAux read)

/-- Bytes as text. -/
def decode (bytes : List UInt8) : Except DecodeFault (List Char) := decodeFrom 0 none [] bytes

end DocLinks.Text.Utf7
