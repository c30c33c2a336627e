import DocLinks.Markdown.Slug
import DocLinks.Proofs.Text.LowerCase
import DocLinks.Proofs.Text.Trimming

/-!
# Slugs are normal forms

What a heading text becomes is a slug (`isSlug_slug`), and a slug stays as it is (`IsSlug.slug_eq`). So
the slugs are exactly the texts that `slug` leaves alone, and making a slug twice is making it once
(`slugify_isNormalForm`).

A later step gives an earlier one nothing to do. Blanks turn into hyphens when everything else that is
dropped has gone, runs of hyphens are cut down after that, and taking hyphens off the ends brings no two
together. The lower case comes first: what is left of it is lower case in any context.

## Contents
- `IsSlug`: the shape of a slug.
- `mem_hyphenated`, `singleHyphens_sublist`, `not_infix_singleHyphens`: what each step leaves.
- `isSlug_slug`, `IsSlug.slug_eq`, `slugify_isNormalForm`.
-/

namespace DocLinks.Markdown

open Text

/-- The shape of a slug. -/
structure IsSlug (cs : List Char) : Prop where
  /-- It is made of word characters and hyphens. -/
  parts : ∀ c ∈ cs, isWord c = true ∨ c = '-'
  /-- No two hyphens stand side by side, and none at an end. -/
  single : ¬['-', '-'] <:+: cs
  head : cs.head? ≠ some '-'
  last : cs.getLast? ≠ some '-'
  /-- It is its own lower case. -/
  lowered : lower cs = cs

/-! ## Characters -/

/-- The numbers of the blanks. -/
def blankNumbers : List Nat :=
  [9, 10, 11, 12, 13, 28, 29, 30, 31, 32, 0x85, 0xA0, 0x1680, 0x2000, 0x2001, 0x2002, 0x2003, 0x2004,
    0x2005, 0x2006, 0x2007, 0x2008, 0x2009, 0x200A, 0x2028, 0x2029, 0x202F, 0x205F, 0x3000]

theorem mem_blankNumbers {c : Char} (h : isBlank c = true) : c.toNat ∈ blankNumbers := by
  unfold isBlank at h
  simp only [Bool.or_eq_true, Bool.and_eq_true, decide_eq_true_eq, beq_iff_eq] at h
  unfold blankNumbers
  simp only [List.mem_cons, List.not_mem_nil, or_false]
  omega

/-- A word character is no blank. -/
theorem isBlank_of_isWord {c : Char} (h : isWord c = true) : isBlank c = false := by
  have hblanks : ∀ n ∈ blankNumbers, inRanges n wordBounds = false := by decide +kernel
  by_contra hblank
  have hnone := hblanks c.toNat (mem_blankNumbers (by simpa using hblank))
  unfold isWord at h
  rw [h] at hnone
  cases hnone

/-! ## Steps -/

/-- **What is left of a text when blanks have become hyphens**: word characters and hyphens, and each of
them is its own lower case. -/
theorem mem_hyphenated {cs : List Char} {c : Char}
    (h : c ∈ ((lower cs).filter keepsInSlug).map hyphenate) :
    (isWord c = true ∨ c = '-') ∧ lowerChar c = [c] := by
  obtain ⟨d, hd, rfl⟩ := List.mem_map.1 h
  obtain ⟨hlower, hkeeps⟩ := List.mem_filter.1 hd
  unfold hyphenate
  by_cases hblank : isBlank d
  · rw [if_pos hblank]
    exact ⟨.inr rfl, by decide⟩
  · rw [if_neg hblank]
    unfold keepsInSlug at hkeeps
    refine ⟨?_, mem_lower hlower⟩
    simpa [hblank] using hkeeps

/-- Hyphens are dropped and nothing is added. -/
theorem singleHyphens_sublist (cs : List Char) : (singleHyphens cs).Sublist cs := by
  fun_induction singleHyphens cs with
  | case1 => exact .slnil
  | case2 c => exact .refl _
  | case3 c d rest h ih => exact ih.cons c
  | case4 c d rest h ih => exact ih.cons_cons c

/-- The first character stays what it is. -/
theorem head?_singleHyphens (cs : List Char) : (singleHyphens cs).head? = cs.head? := by
  fun_induction singleHyphens cs with
  | case1 => rfl
  | case2 c => rfl
  | case3 c d rest h ih => rw [ih, List.head?_cons, List.head?_cons, h.1, h.2]
  | case4 c d rest h ih => rfl

theorem twoHyphens_infix_cons_iff {c : Char} {cs : List Char} :
    ['-', '-'] <:+: c :: cs ↔ c = '-' ∧ cs.head? = some '-' ∨ ['-', '-'] <:+: cs := by
  rw [List.infix_cons_iff, List.cons_prefix_cons]
  have hhead : ['-'] <+: cs ↔ cs.head? = some '-' := by
    cases cs with
    | nil => simp
    | cons d ds => simp [eq_comm]
  rw [hhead, eq_comm]

/-- **No two hyphens are left side by side.** -/
theorem not_infix_singleHyphens (cs : List Char) : ¬['-', '-'] <:+: singleHyphens cs := by
  fun_induction singleHyphens cs with
  | case1 => simp
  | case2 c => simp [twoHyphens_infix_cons_iff]
  | case3 c d rest h ih => exact ih
  | case4 c d rest h ih =>
    rw [twoHyphens_infix_cons_iff, head?_singleHyphens, List.head?_cons]
    rintro (⟨rfl, hd⟩ | hrest)
    · exact h ⟨rfl, Option.some.inj hd⟩
    · exact ih hrest

theorem singleHyphens_eq_self {cs : List Char} (h : ¬['-', '-'] <:+: cs) : singleHyphens cs = cs := by
  fun_induction singleHyphens cs with
  | case1 => rfl
  | case2 c => rfl
  | case3 c d rest hd ih =>
    refine absurd (twoHyphens_infix_cons_iff.2 (.inl ⟨hd.1, ?_⟩)) h
    rw [List.head?_cons, hd.2]
  | case4 c d rest hd ih =>
    rw [ih fun hrest => h (twoHyphens_infix_cons_iff.2 (.inr hrest))]

theorem infix_trimHyphens (cs : List Char) : trimHyphens cs <:+: cs := by
  have hfront : trimHyphens cs <+: cs.dropWhile (· == '-') := List.rdropWhile_prefix ..
  exact hfront.isInfix.trans (List.dropWhile_suffix _).isInfix

/-- There is no hyphen to take off exactly where no end is one. -/
theorem trimHyphens_eq_self_iff {cs : List Char} :
    trimHyphens cs = cs ↔ cs.head? ≠ some '-' ∧ cs.getLast? ≠ some '-' := by
  have hends : ∀ o : Option Char, (∀ c ∈ o, (c == '-') = false) ↔ o ≠ some '-' := by
    intro o
    cases o with
    | none => simp
    | some c => simp
  unfold trimHyphens
  rw [dropEnds_eq_iff, hends, hends]

/-! ## Slugs -/

/-- **A slug is made of any text.** -/
theorem isSlug_slug (cs : List Char) : IsSlug (slug cs) := by
  have hpart : slug cs <:+: singleHyphens (((lower cs).filter keepsInSlug).map hyphenate) :=
    infix_trimHyphens _
  have hmem : ∀ c ∈ slug cs, (isWord c = true ∨ c = '-') ∧ lowerChar c = [c] := by
    intro c hc
    exact mem_hyphenated ((singleHyphens_sublist _).mem (hpart.mem hc))
  have hends : trimHyphens (slug cs) = slug cs := dropEnds_dropEnds ..
  obtain ⟨hhead, hlast⟩ := trimHyphens_eq_self_iff.1 hends
  exact
    { parts := fun c hc => (hmem c hc).1
      single := fun h => not_infix_singleHyphens _ (h.trans hpart)
      head := hhead
      last := hlast
      lowered := lower_eq_self_iff.2 fun c hc => (hmem c hc).2 }

/-- **A slug stays as it is.** -/
theorem IsSlug.slug_eq {cs : List Char} (h : IsSlug cs) : slug cs = cs := by
  have hkept : cs.filter keepsInSlug = cs := by
    rw [List.filter_eq_self]
    intro c hc
    unfold keepsInSlug
    rcases h.parts c hc with hword | rfl
    · simp [hword]
    · decide
  have hblank : cs.map hyphenate = cs := by
    have hself : ∀ c ∈ cs, hyphenate c = c := by
      intro c hc
      unfold hyphenate
      rcases h.parts c hc with hword | rfl
      · simp [isBlank_of_isWord hword]
      · decide
    rw [List.map_congr_left hself, List.map_id']
  unfold slug
  rw [h.lowered, hkept, hblank, singleHyphens_eq_self h.single]
  exact trimHyphens_eq_self_iff.2 ⟨h.head, h.last⟩

/-- **Slugs are normal forms**: every text becomes a slug, the slugs are the texts that stay as they are,
and nothing changes the second time. -/
theorem slugify_isNormalForm (s : String) :
    IsSlug (slugify s).toList ∧ (slugify s = s ↔ IsSlug s.toList) ∧
      slugify (slugify s) = slugify s := by
  have hslug : ∀ s : String, IsSlug (slugify s).toList := by
    intro s
    rw [toList_slugify]
    exact isSlug_slug s.toList
  have hstays : ∀ s : String, IsSlug s.toList → slugify s = s := by
    intro s hs
    rw [slugify, hs.slug_eq, String.ofList_toList]
  refine ⟨hslug s, ⟨?_, hstays s⟩, hstays _ (hslug s)⟩
  intro hsame
  rw [← hsame]
  exact hslug s

end DocLinks.Markdown
