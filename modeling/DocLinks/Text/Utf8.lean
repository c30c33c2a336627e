import DocLinks.Text.DecodeFault

/-!
# UTF-8

Reading bytes as text, and where reading fails.

## Contents
- `next`: the character at the head of a byte list, or the flaw that stands there. A flaw covers the
  longest start of a character that the bytes hold, at least one byte.
- `decode`: the text, or the first flaw with its place.
- `decodeReplacing`: the text with U+FFFD for every flaw.
-/

namespace DocLinks.Text.Utf8

/-- What stands at the head of a byte list: a character or a flaw, and how many bytes follow the
first one in it. -/
inductive Item where
  | char (c : Char) (more : Nat)
  | flaw (f : Flaw) (more : Nat)

/-- A byte that continues a character. -/
def isTail (b : UInt8) : Bool := 0x80 ≤ b && b < 0xC0

/-- Whether `b` may follow the first byte `a`: overlong forms, surrogates and code points past the
last are ruled out by the second byte. -/
def isSecond (a b : UInt8) : Bool :=
  isTail b && (a != 0xE0 || 0xA0 ≤ b) && (a != 0xED || b < 0xA0) && (a != 0xF0 || 0x90 ≤ b) &&
    (a != 0xF4 || b < 0x90)

/-- The payload of a continuation byte, shifted into place before what follows. -/
def push (n : Nat) (b : UInt8) : Nat := n * 64 + (b.toNat - 0x80)

/-- What stands at the head of the bytes `a :: rest`. -/
def next (a : UInt8) (rest : List UInt8) : Item :=
  if a < 0x80 then .char (Char.ofNat a.toNat) 0
  else if a < 0xC2 then .flaw .start 0
  else if a < 0xE0 then
    match rest with
    | [] => .flaw .cutShort 0
    | b :: _ =>
      if isTail b then .char (Char.ofNat (push (a.toNat - 0xC0) b)) 1 else .flaw .continuation 0
  else if a < 0xF0 then
    match rest with
    | [] => .flaw .cutShort 0
    | b :: rest =>
      if isSecond a b then
        match rest with
        | [] => .flaw .cutShort 1
        | c :: _ =>
          if isTail c then .char (Char.ofNat (push (push (a.toNat - 0xE0) b) c)) 2
          else .flaw .continuation 1
      else .flaw .continuation 0
  else if a < 0xF5 then
    match rest with
    | [] => .flaw .cutShort 0
    | b :: rest =>
      if isSecond a b then
        match rest with
        | [] => .flaw .cutShort 1
        | c :: rest =>
          if isTail c then
            match rest with
            | [] => .flaw .cutShort 2
            | d :: _ =>
              if isTail d then
                .char (Char.ofNat (push (push (push (a.toNat - 0xF0) b) c) d)) 3
              else .flaw .continuation 2
          else .flaw .continuation 1
      else .flaw .continuation 0
  else .flaw .start 0

/-- Reads bytes whose first one has the number `position`. -/
def decodeFrom (position : Nat) : List UInt8 → Except DecodeFault (List Char)
  | [] => .ok []
  | a :: rest =>
    match next a rest with
    | .char c more => (decodeFrom (position + more + 1) (rest.drop more)).map (c :: ·)
    | .flaw f more => .error ⟨"utf-8", a, position, more + 1, f⟩
termination_by bytes => bytes.length
decreasing_by simp only [List.length_drop, List.length_cons]; omega

/-- Reads bytes as text. -/
def decode (bytes : List UInt8) : Except DecodeFault String :=
  (decodeFrom 0 bytes).map .ofList

/-- Reads bytes as text, with the replacement character for every flaw. -/
def decodeReplacing : List UInt8 → List Char
  | [] => []
  | a :: rest =>
    match next a rest with
    | .char c more => c :: decodeReplacing (rest.drop more)
    | .flaw _ more => '\uFFFD' :: decodeReplacing (rest.drop more)
termination_by bytes => bytes.length
decreasing_by all_goals simp only [List.length_drop, List.length_cons]; omega

end DocLinks.Text.Utf8
