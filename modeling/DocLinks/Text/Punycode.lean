import DocLinks.Text.DecodeFault
import DocLinks.Text.Half

/-!
# Punycode

A text written in ASCII: its characters of ASCII, and behind the last minus sign numbers that tell
where the others go, in the order of their code points. A number has digits of decreasing weight.

## Contents
- `Ascii.decode`: the text of bytes of ASCII.
- `decode`: the text of bytes; `decodePoints`, its code points.
- `encode`: the other way round.
-/

namespace DocLinks.Text.Ascii

/-- Bytes as text, the first one with the number `position`; `read` is what was read before them,
the last character first. -/
def decodeFrom (position : Nat) (read : List Char) : List UInt8 → Except DecodeFault (List Char)
  | [] => .ok read.reverse
  | b :: rest =>
    if b < 0x80 then decodeFrom (position + 1) (Char.ofNat b.toNat :: read) rest
    else .error ⟨"ascii", b, position, 1, .beyondAscii⟩

/-- Bytes as text. -/
def decode (bytes : List UInt8) : Except DecodeFault (List Char) := decodeFrom 0 [] bytes

end DocLinks.Text.Ascii

namespace DocLinks.Text.Punycode

/-- Why bytes are no text. -/
inductive Fault where
  | bytes (f : DecodeFault)
  /-- A number breaks off. -/
  | cutShort
  /-- A character is no digit. -/
  | noDigit (c : Char)
  /-- No character has the number. -/
  | noCharacter (n : Nat)

def Fault.message : Fault → String
  | bytes f => f.message
  | cutShort => "incomplete punicode string"
  | noDigit c => "Invalid extended code point '" ++ String.singleton c ++ "'"
  | noCharacter n => "Invalid character U+" ++ String.ofList (Nat.toDigits 16 n)

/-! ## Numbers -/

/-- The number of digits. -/
def base : Nat := 36

/-- From which digit on a number ends in the place `j`. -/
def threshold (j bias : Nat) : Nat := min 26 (max 1 (base * (j + 1) - bias))

/-- The value of a digit. -/
def digit? (c : Char) : Option Nat :=
  if c.isUpper then some (c.toNat - 65)
  else if c.isDigit then some (c.toNat - 22)
  else none

/-- The digit with a value. -/
def digitOf (n : Nat) : Char := Char.ofNat (if n < 26 then 97 + n else 22 + n)

/-- The number at the head of a text, from its place `j` on. -/
def readNumber (bias : Nat) (value weight j : Nat) : List Char → Except Fault (Nat × List Char)
  | [] => .error .cutShort
  | c :: rest =>
    match digit? c with
    | none => .error (.noDigit c)
    | some d =>
      let value := value + d * weight
      let t := threshold j bias
      if d < t then .ok (value, rest) else readNumber bias value (weight * (base - t)) (j + 1) rest

theorem length_of_readNumber {bias value weight j : Nat} {cs rest : List Char} {n : Nat}
    (h : readNumber bias value weight j cs = .ok (n, rest)) : rest.length < cs.length := by
  induction cs generalizing value weight j with
  | nil => simp [readNumber] at h
  | cons c cs ih =>
    unfold readNumber at h
    split at h
    · simp at h
    · dsimp only at h
      split at h
      · simp only [Except.ok.injEq, Prod.mk.injEq] at h
        simp [h.2]
      · have := ih h
        simp only [List.length_cons]
        omega

/-- The digits of a number, from its place `j` on. -/
def writeNumber (bias j n : Nat) : Nat → List Char
  | 0 => []
  | fuel + 1 =>
    let t := threshold j bias
    if n < t then [digitOf n]
    else digitOf (t + (n - t) % (base - t)) :: writeNumber bias (j + 1) ((n - t) / (base - t)) fuel

/-- How often a number is divided until it is small, and what is left of it. -/
def divisions (n : Nat) : Nat × Nat :=
  if n ≤ 455 then (0, n)
  else
    let (count, left) := divisions (n / 35)
    (count + 1, left)
termination_by n
decreasing_by omega

/-- The bias for the number behind `delta`, when `count` characters are in place. -/
def adapt (delta : Nat) (first : Bool) (count : Nat) : Nat :=
  let delta := if first then delta / 700 else delta / 2
  let (n, left) := divisions (delta + delta / count)
  base * n + base * left / (left + 38)

/-! ## Reading and writing -/

/-- The first code point beyond ASCII. -/
def firstPoint : Nat := 0x80

/-- The bias for the first number. -/
def firstBias : Nat := 72

/-- Puts further code points into `points`. The last one was `point`, and the next place is
`place`. -/
def insertFrom (points : List Nat) (point place bias : Nat) (first : Bool) (cs : List Char) :
    Except Fault (List Nat) :=
  if cs.isEmpty then .ok points
  else
    match h : readNumber bias 0 1 0 cs with
    | .error f => .error f
    | .ok (delta, rest) =>
      let count := points.length + 1
      let place := place + delta
      let point := point + place / count
      if 0x110000 ≤ point then .error (.noCharacter point)
      else
        let place := place % count
        insertFrom (points.take place ++ point :: points.drop place) point (place + 1)
          (adapt delta first count) false rest
termination_by cs.length
decreasing_by exact length_of_readNumber h

/-- The bytes before the last minus sign, and those behind it. -/
def parts (bytes : List UInt8) : List UInt8 × List UInt8 :=
  let behind := (bytes.reverse.takeWhile (· != 0x2D)).reverse
  (bytes.take (bytes.length - behind.length - 1), behind)

/-- Bytes as the code points of a text. -/
def decodePoints (bytes : List UInt8) : Except Fault (List Nat) := do
  let (plain, numbers) := parts bytes
  let plain ← (Ascii.decode plain).mapError .bytes
  let numbers ← (Ascii.decode numbers).mapError .bytes
  insertFrom (plain.map Char.toNat) firstPoint 0 firstBias true (numbers.map Char.toUpper)

/-- Bytes as text. -/
def decode (bytes : List UInt8) : Except Fault (List Char) :=
  (decodePoints bytes).map fun points => points.flatMap spell

/-- The numbers for the occurrences of `point` in a text, when `count` characters are in place and
`delta` steps were left over. -/
def numbersFor (point : Nat) (delta bias count : Nat) (first : Bool) :
    List Nat → List Char × Nat × Nat × Nat × Bool
  | [] => ([], delta, bias, count, first)
  | p :: ps =>
    if p < point then numbersFor point (delta + 1) bias count first ps
    else if p = point then
      let digits := writeNumber bias 0 delta (delta + 1)
      let (more, state) := numbersFor point 0 (adapt delta first (count + 1)) (count + 1) false ps
      (digits ++ more, state)
    else numbersFor point delta bias count first ps

/-- The numbers for code points in their order; `last` was the one before them. -/
def numbersFrom (text : List Nat) (last delta bias count : Nat) (first : Bool) :
    List Nat → List Char
  | [] => []
  | p :: ps =>
    let delta := delta + (p - last) * (count + 1)
    let (digits, delta, bias, count, first) := numbersFor p delta bias count first text
    digits ++ numbersFrom text (p + 1) (delta + 1) bias count first ps

/-- The code points of a text in ASCII. -/
def encode (text : List Nat) : List Char :=
  let plain := (text.filter (· < firstPoint)).map Char.ofNat
  let points := ((text.filter (firstPoint ≤ ·)).eraseDups).mergeSort
  let numbers := numbersFrom text firstPoint 0 firstBias plain.length true points
  if plain.isEmpty then numbers else plain ++ '-' :: numbers

example : encode ("bücher".toList.map Char.toNat) = "bcher-kva".toList := by decide +kernel

end DocLinks.Text.Punycode
