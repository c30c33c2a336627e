/-!
# The ends of a text

Endings such as a file extension, found and replaced. An ending counts also when a single line feed
follows it at the very end of the text; the line feed stays where it is.
-/

namespace DocLinks.Text

/-- The text without the given ending. -/
def dropSuffix? (suffix cs : List Char) : Option (List Char) :=
  if suffix.isSuffixOf cs then some (cs.take (cs.length - suffix.length)) else none

theorem dropSuffix?_append (cs suffix : List Char) :
    dropSuffix? suffix (cs ++ suffix) = some cs := by
  simp [dropSuffix?]

theorem eq_append_of_dropSuffix? {suffix cs rest : List Char}
    (h : dropSuffix? suffix cs = some rest) : cs = rest ++ suffix := by
  unfold dropSuffix? at h
  split at h
  next hs =>
    obtain ⟨t, rfl⟩ := List.isSuffixOf_iff_suffix.1 hs
    simp at h
    rw [h]
  next => simp at h

/-- The text with one ending replaced by another, if it has it. -/
def replaceEnd (old new cs : List Char) : List Char :=
  match dropSuffix? old cs with
  | some stem => stem ++ new
  | none =>
    match dropSuffix? (old ++ ['\n']) cs with
    | some stem => stem ++ new ++ ['\n']
    | none => cs

/-- The text with every occurrence of one character replaced by another. -/
def replaceChar (old new : Char) (cs : List Char) : List Char :=
  cs.map fun c => if c = old then new else c

/-- A function on lists of characters, as a function on strings. -/
def onChars (f : List Char → List Char) (s : String) : String := .ofList (f s.toList)

@[simp] theorem toList_onChars (f : List Char → List Char) (s : String) :
    (onChars f s).toList = f s.toList := by
  simp [onChars]

end DocLinks.Text
