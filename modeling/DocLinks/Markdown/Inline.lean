import DocLinks.Text.Blank

/-!
# Link syntax

Recognisers for the four ways a line can spell a link. A recogniser looks at the head of a text;
`scan` runs it along a line from left to right and goes on behind each match, so matches of one
spelling never overlap.

## Contents
- `angle`: `[text](<target>)`.
- `standard`: `[text](target)`, where the target holds no blanks and no angle brackets, and at most
  one pair of parentheses, not at its start.
- `htmlAnchor`: an `a` tag with an `href` attribute, letters in any case; the last attribute that
  fits is the one that counts.
- `dataRef`: a `data-ref` attribute anywhere.
-/

namespace DocLinks.Markdown

open Text

/-- A match at the head of a text: how many characters it covers, its link text and its target. -/
structure Found where
  length : Nat
  text : List Char
  target : List Char
  deriving DecidableEq, Repr

/-- A match of a line, with the number of characters before it and its source text. -/
structure Match where
  start : Nat
  raw : List Char
  found : Found
  deriving DecidableEq, Repr

/-- Runs a recogniser along a text, from left to right and without overlaps. `start` characters
precede the text. -/
def scan (recognise : List Char → Option Found) (start : Nat) : List Char → List Match
  | [] => []
  | c :: cs =>
    match recognise (c :: cs) with
    | some f =>
      ⟨start, (c :: cs).take f.length, f⟩ ::
        scan recognise (start + 1 + (f.length - 1)) (cs.drop (f.length - 1))
    | none => scan recognise (start + 1) cs
termination_by cs => cs.length
decreasing_by
  all_goals simp only [List.length_drop, List.length_cons]; omega

/-- The link text at the head of `[text]...`, and what follows the closing bracket. -/
def bracketed? : List Char → Option (List Char × List Char)
  | '[' :: rest =>
    match rest.dropWhile (· != ']') with
    | [] => none
    | _ :: after => some (rest.takeWhile (· != ']'), after)
  | _ => none

/-- `[text](<target>)`. -/
def angle (cs : List Char) : Option Found :=
  match bracketed? cs with
  | some (text, '(' :: '<' :: rest) =>
    let target := rest.takeWhile (· != '>')
    match rest.dropWhile (· != '>') with
    | '>' :: ')' :: _ =>
      if target.isEmpty then none else some ⟨text.length + target.length + 6, text, target⟩
    | _ => none
  | _ => none

/-- A character of a target outside parentheses. -/
def isTargetChar (c : Char) : Bool :=
  !(c == '(' || c == ')' || c == '<' || c == '>' || isBlank c)

/-- A character that is no parenthesis. -/
def isNoParen (c : Char) : Bool := !(c == '(' || c == ')')

/-- The target at the head of `target)...`. -/
def standardTarget? (cs : List Char) : Option (List Char) :=
  let first := cs.takeWhile isTargetChar
  if first.isEmpty then none
  else
    match cs.dropWhile isTargetChar with
    | ')' :: _ => some first
    | '(' :: rest =>
      let group := rest.takeWhile isNoParen
      match rest.dropWhile isNoParen with
      | ')' :: rest =>
        match rest.dropWhile isTargetChar with
        | ')' :: _ => some (first ++ '(' :: group ++ ')' :: rest.takeWhile isTargetChar)
        | _ => none
      | _ => none
    | _ => none

/-- `[text](target)`. -/
def standard (cs : List Char) : Option Found :=
  match bracketed? cs with
  | some (text, '(' :: rest) =>
    (standardTarget? rest).map fun target => ⟨text.length + target.length + 4, text, target⟩
  | _ => none

/-- Whether the text starts with a word, in upper or lower case. -/
def startsAnyCase (word cs : List Char) : Bool :=
  word == (cs.take word.length).map Char.toLower

/-- A single or double quote. -/
def isQuote (c : Char) : Bool := c == '"' || c == '\x27'

/-- The value at the head of `name="value"...`, and what follows the closing quote. -/
def attribute? (name cs : List Char) : Option (List Char × List Char) :=
  if startsAnyCase (name ++ ['=']) cs then
    match cs.drop (name.length + 1) with
    | q :: rest =>
      let value := rest.takeWhile (!isQuote ·)
      match rest.dropWhile (!isQuote ·) with
      | _ :: after => if isQuote q && !value.isEmpty then some (value, after) else none
      | [] => none
    | [] => none
  else none

/-- The last `href` attribute before the first `>` that is closed and followed by a `>`; the length
runs from the head of the text to that second `>`. -/
def lastHref : List Char → Option Found
  | [] => none
  | c :: cs =>
    if c = '>' then none
    else
      match lastHref cs with
      | some f => some { f with length := f.length + 1 }
      | none =>
        match attribute? "href".toList (c :: cs) with
        | some (value, after) =>
          if after.contains '>' then
            some ⟨value.length + (after.takeWhile (· != '>')).length + 8, [], value⟩
          else none
        | none => none

/-- `<a ... href="target" ...>`. -/
def htmlAnchor (cs : List Char) : Option Found :=
  if startsAnyCase "<a".toList cs then
    let rest := cs.drop 2
    let blanks := rest.takeWhile isBlank
    if blanks.isEmpty then none
    else
      (lastHref (rest.dropWhile isBlank)).map fun f =>
        { f with length := f.length + blanks.length + 2 }
  else none

/-- `data-ref="target"`. -/
def dataRef (cs : List Char) : Option Found :=
  (attribute? "data-ref".toList cs).map fun (value, _) => ⟨value.length + 11, [], value⟩

/-- The spellings of a link, in the order in which a line is searched for them. -/
def spellings : List (List Char → Option Found) := [angle, standard, htmlAnchor, dataRef]

/-- The matches of a line: those of one spelling after those of the other, each from left to
right. -/
def matchesOf (line : List Char) : List Match := spellings.flatMap fun r => scan r 0 line

end DocLinks.Markdown
