import DocLinks.Text.Blank
import DocLinks.Text.Ends
import Mathlib.Data.List.DropRight

/-!
# Trimmed texts and endings

A text without its outer blanks is a part of the text, and has none to lose. On one line an ending is
replaced exactly where it ends the text.
-/

namespace DocLinks.Text

/-! ## Blanks -/

theorem trimEnd_sublist (cs : List Char) : (trimEnd cs).Sublist cs := by
  have h := (List.dropWhile_sublist isBlank (l := cs.reverse)).reverse
  rwa [List.reverse_reverse] at h

theorem trim_sublist (cs : List Char) : (trim cs).Sublist cs :=
  (trimEnd_sublist _).trans (List.dropWhile_sublist _)

/-- Only what follows the last character that is to stay is dropped. -/
theorem dropEndWhile_append_cons {f : Char → Bool} {c : Char} (hc : f c = false) (a x : List Char) :
    dropEndWhile f (a ++ c :: x) = a ++ c :: dropEndWhile f x := by
  unfold dropEndWhile
  rw [List.reverse_append, List.reverse_cons, List.append_assoc, List.dropWhile_append]
  split
  · rename_i hempty
    rw [List.isEmpty_iff.1 hempty, List.singleton_append, List.dropWhile_cons_of_neg (by simp [hc])]
    simp
  · simp

theorem dropEndWhile_append_of_all {f : Char → Bool} {a b : List Char} (h : ∀ c ∈ b, f c = true) :
    dropEndWhile f (a ++ b) = dropEndWhile f a := by
  unfold dropEndWhile
  rw [List.reverse_append, List.dropWhile_append_of_pos fun c hc => h c (List.mem_reverse.1 hc)]

/-! ## Both ends -/

section Ends

variable {f : Char → Bool} {cs : List Char}

/-- A text that has nothing to lose at its start still has nothing to lose there without its end. -/
theorem dropWhile_dropEndWhile (h : cs.dropWhile f = cs) :
    (dropEndWhile f cs).dropWhile f = dropEndWhile f cs := by
  obtain ⟨rest, hrest⟩ : dropEndWhile f cs <+: cs := List.rdropWhile_prefix f cs
  rcases he : dropEndWhile f cs with _ | ⟨c, front⟩
  · rfl
  · rw [he] at hrest
    rw [← hrest, List.cons_append] at h
    rcases hc : f c with _ | _
    · rw [List.dropWhile_cons_of_neg (by simp [hc])]
    · rw [List.dropWhile_cons_of_pos hc] at h
      have hlength := (List.dropWhile_sublist f (l := front ++ rest)).length_le
      rw [h, List.length_cons] at hlength
      omega

/-- What is without both ends has none to lose. -/
theorem dropEnds_dropEnds (f : Char → Bool) (cs : List Char) :
    dropEndWhile f ((dropEndWhile f (cs.dropWhile f)).dropWhile f)
      = dropEndWhile f (cs.dropWhile f) := by
  have hstart : (cs.dropWhile f).dropWhile f = cs.dropWhile f := List.dropWhile_idempotent ..
  rw [dropWhile_dropEndWhile hstart]
  exact List.rdropWhile_idempotent f _

/-- A text has no end to lose if and only if neither its first character nor its last one is to go. -/
theorem dropEnds_eq_iff :
    dropEndWhile f (cs.dropWhile f) = cs ↔
      (∀ c ∈ cs.head?, f c = false) ∧ ∀ c ∈ cs.getLast?, f c = false := by
  have hstart : cs.dropWhile f = cs ↔ ∀ c ∈ cs.head?, f c = false := by
    rcases cs with _ | ⟨c, cs⟩
    · exact iff_of_true rfl nofun
    · rw [List.dropWhile_eq_self_iff]
      simp
  have hend : dropEndWhile f cs = cs ↔ ∀ c ∈ cs.getLast?, f c = false := by
    have hdrop : dropEndWhile f cs = cs.rdropWhile f := rfl
    rw [hdrop, List.rdropWhile_eq_self_iff]
    rcases cs.eq_nil_or_concat' with rfl | ⟨front, last, rfl⟩
    · exact iff_of_true nofun nofun
    · simp
  rw [← hstart, ← hend]
  constructor
  · intro h
    have hsame : cs.dropWhile f = cs := by
      have hsub : (dropEndWhile f (cs.dropWhile f)).Sublist (cs.dropWhile f) :=
        (List.rdropWhile_prefix f _).sublist
      rw [h] at hsub
      exact (List.dropWhile_sublist f).eq_of_length_le hsub.length_le
    refine ⟨hsame, ?_⟩
    rwa [hsame] at h
  · rintro ⟨hs, he⟩
    rw [hs, he]

end Ends

theorem trim_trim (cs : List Char) : trim (trim cs) = trim cs := dropEnds_dropEnds isBlank cs

/-- **A trimmed text** has no blank at its ends. -/
theorem trim_eq_iff {cs : List Char} :
    trim cs = cs ↔ (∀ c ∈ cs.head?, isBlank c = false) ∧ ∀ c ∈ cs.getLast?, isBlank c = false :=
  dropEnds_eq_iff

/-- Blanks behind a text are not looked at. -/
theorem trim_append_of_blank {b : List Char} (h : ∀ c ∈ b, isBlank c = true) (cs : List Char) :
    trim (cs ++ b) = trim cs := by
  unfold trim trimStart trimEnd
  rw [List.dropWhile_append]
  split
  · rename_i hempty
    rw [List.isEmpty_iff.1 hempty, List.dropWhile_eq_nil_iff.2 h]
  · exact dropEndWhile_append_of_all h

/-- A text that begins with no blank still begins the same way when it is trimmed. -/
theorem trim_cons_of_not_blank {c : Char} (h : isBlank c = false) (cs : List Char) :
    trim (c :: cs) = c :: trimEnd cs := by
  unfold trim trimStart
  rw [List.dropWhile_cons_of_neg (by simp [h])]
  exact dropEndWhile_append_cons h [] cs

/-! ## Endings -/

theorem replaceEnd_append (old new stem : List Char) :
    replaceEnd old new (stem ++ old) = stem ++ new := by
  unfold replaceEnd
  rw [dropSuffix?_append]

theorem dropSuffix?_of_not_suffix {suffix cs : List Char} (h : ¬suffix <:+ cs) :
    dropSuffix? suffix cs = none :=
  if_neg fun hs => h (List.isSuffixOf_iff_suffix.1 hs)

/-- On one line an ending counts only where it ends the text. -/
theorem replaceEnd_of_not_suffix {old cs : List Char} (new : List Char) (h : ¬old <:+ cs)
    (hline : '\n' ∉ cs) : replaceEnd old new cs = cs := by
  have hbreak : ¬old ++ ['\n'] <:+ cs := fun hs =>
    hline (hs.mem (List.mem_append_right _ (List.mem_singleton.2 rfl)))
  unfold replaceEnd
  rw [dropSuffix?_of_not_suffix h, dropSuffix?_of_not_suffix hbreak]

end DocLinks.Text
