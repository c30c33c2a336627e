import DocLinks.Text.Blank
import DocLinks.Text.Case
import DocLinks.Text.Word

/-!
# Slugs

The anchor id that a heading gets when it names none: its text in lower case, with nothing left but
word characters and single hyphens in place of blanks, and no hyphen at either end.
-/

namespace DocLinks.Markdown

open Text

/-- The characters of a heading that leave a trace in its slug. -/
def keepsInSlug (c : Char) : Bool := isWord c || isBlank c || c == '-'

/-- Blanks become hyphens. -/
def hyphenate (c : Char) : Char := if isBlank c then '-' else c

/-- Each run of hyphens becomes one. -/
def singleHyphens : List Char → List Char
  | [] => []
  | [c] => [c]
  | c :: d :: rest =>
    if c = '-' ∧ d = '-' then singleHyphens (d :: rest) else c :: singleHyphens (d :: rest)

/-- The text without the hyphens at both ends. -/
def trimHyphens (cs : List Char) : List Char :=
  dropEndWhile (· == '-') (cs.dropWhile (· == '-'))

/-- The slug of a text. -/
def slug (cs : List Char) : List Char :=
  trimHyphens (singleHyphens (((lower cs).filter keepsInSlug).map hyphenate))

/-- The anchor id of a heading text. -/
def slugify (s : String) : String := .ofList (slug s.toList)

@[simp] theorem toList_slugify (s : String) : (slugify s).toList = slug s.toList := by
  simp [slugify]

example : slugify "  Step 2 -- Configure  " = "step-2-configure" := by decide +kernel

end DocLinks.Markdown
