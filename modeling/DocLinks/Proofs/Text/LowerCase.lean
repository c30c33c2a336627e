import DocLinks.Text.Case

/-!
# Lower case

The lower case of a text has nothing left to lower (`lower_lower`): lowering a character gives characters
that are their own lower case, in any context. The table of letters is long, so this is checked run by run:
the lower cases of a run of letters make up a run themselves, and that must keep clear of the runs of
letters that have a lower case (`loweredRuns_keepClear`).

## Contents
- `keepsClear`, `shiftIn_eq_none`: runs of numbers that no row of the table covers.
- `lowerChar_of_mem`: what a character becomes is lower case.
- `mem_lower`, `lower_eq_self_iff`, `lower_lower`.
-/

namespace DocLinks.Text

/-! ## Runs of letters -/

/-- A number that is shifted lies in one of the rows. -/
theorem shiftIn_eq_some {n : Nat} {d : Int} {rows : List CaseRow} (h : shiftIn n rows = some d) :
    ∃ r ∈ rows, r.first ≤ n ∧ n ≤ r.last ∧ (n - r.first) % r.stride = 0 ∧ r.shift = d := by
  induction rows with
  | nil => cases h
  | cons r rows ih =>
    have hrest : shiftIn n rows = some d →
        ∃ q ∈ r :: rows, q.first ≤ n ∧ n ≤ q.last ∧ (n - q.first) % q.stride = 0 ∧ q.shift = d := by
      intro hrows
      obtain ⟨q, hq, hcovers⟩ := ih hrows
      exact ⟨q, List.mem_cons_of_mem r hq, hcovers⟩
    unfold shiftIn at h
    by_cases hfirst : n < r.first
    · rw [if_pos hfirst] at h
      cases h
    · rw [if_neg hfirst] at h
      by_cases hlast : n ≤ r.last
      · rw [if_pos hlast] at h
        by_cases hstride : (n - r.first) % r.stride = 0
        · rw [if_pos hstride] at h
          exact ⟨r, List.mem_cons_self, by omega, hlast, hstride, Option.some.inj h⟩
        · rw [if_neg hstride] at h
          exact hrest h
      · rw [if_neg hlast] at h
        exact hrest h

/-- Whether the numbers from `first` to `last` keep clear of the rows: all of them, or, if only every
other one counts, those at an even distance from `first`. -/
def keepsClear (first last : Nat) (everyOther : Bool) : List CaseRow → Bool
  | [] => true
  | r :: rows =>
    last.blt r.first ||
      ((r.last.blt first || everyOther && r.stride.beq 2 && ((first + r.first) % 2).beq 1) &&
        keepsClear first last everyOther rows)

/-- Such a number is not shifted. -/
theorem shiftIn_eq_none {n first last : Nat} {everyOther : Bool} {rows : List CaseRow}
    (h : keepsClear first last everyOther rows = true) (hfirst : first ≤ n) (hlast : n ≤ last)
    (hcounts : everyOther = true → n % 2 = first % 2) : shiftIn n rows = none := by
  induction rows with
  | nil => rfl
  | cons r rows ih =>
    unfold keepsClear at h
    unfold shiftIn
    by_cases hbefore : n < r.first
    · rw [if_pos hbefore]
    · rw [if_neg hbefore]
      have hreached : last.blt r.first = false := by
        rw [← Bool.not_eq_true, Nat.blt_eq]
        omega
      rw [hreached, Bool.false_or, Bool.and_eq_true, Bool.or_eq_true, Nat.blt_eq] at h
      obtain ⟨hclear, hrest⟩ := h
      by_cases hin : n ≤ r.last
      · -- The row reaches the number but passes over it, since their distance is odd.
        have hodd : everyOther = true ∧ r.stride = 2 ∧ (first + r.first) % 2 = 1 := by
          rcases hclear with hbehind | hparity
          · omega
          · simpa [and_assoc] using hparity
        obtain ⟨hother, hstride, hparity⟩ := hodd
        have hsame := hcounts hother
        rw [if_pos hin, hstride, if_neg (by omega)]
        exact ih hrest
      · rw [if_neg hin]
        exact ih hrest

/-! ## Lowering a character -/

/-- Whether the lower cases of a row are characters that the table leaves as they are. -/
def landsInLowerCase (r : CaseRow) : Bool :=
  let first := (r.first + r.shift).toNat
  let last := (r.last + r.shift).toNat
  Nat.blt 0 first && (last.blt 0xD800 || Nat.blt 0xDFFF first && last.blt 0x110000) &&
    (last.blt 0x130 || Nat.blt 0x130 first) &&
    keepsClear first last (r.stride.beq 2 || r.first.beq r.last) lowerRows

/-- **No letter is lowered to one that has a lower case of its own.** -/
theorem loweredRuns_keepClear : lowerRows.all landsInLowerCase = true := by decide +kernel

/-- The number of a shifted letter is that of a character, and the table leaves it as it is. -/
theorem shifted_is_lowerCase {n : Nat} {d : Int} (h : shiftIn n lowerRows = some d) :
    (n + d).toNat.isValidChar ∧ (n + d).toNat ≠ 0x130 ∧
      shiftIn (n + d).toNat lowerRows = none := by
  obtain ⟨r, hr, hfirst, hlast, hstride, rfl⟩ := shiftIn_eq_some h
  have hlands := List.all_eq_true.1 loweredRuns_keepClear r hr
  unfold landsInLowerCase at hlands
  simp only [Bool.and_eq_true, Bool.or_eq_true, Nat.blt_eq] at hlands
  obtain ⟨⟨⟨hpos, hvalid⟩, hdotted⟩, hclear⟩ := hlands
  refine ⟨?_, by omega, shiftIn_eq_none hclear (by omega) (by omega) ?_⟩
  · unfold Nat.isValidChar
    omega
  · intro hother
    rw [Bool.or_eq_true, Nat.beq_eq, Nat.beq_eq] at hother
    rcases hother with htwo | hsingle
    · rw [htwo] at hstride
      omega
    · omega

/-- **What a character becomes** is its own lower case. -/
theorem lowerChar_of_mem {c d : Char} (h : d ∈ lowerChar c) : lowerChar d = [d] := by
  unfold lowerChar at h
  by_cases hdotted : c = 'İ'
  · rw [if_pos hdotted] at h
    simp only [List.mem_cons, List.not_mem_nil, or_false] at h
    rcases h with rfl | rfl
    · decide
    · decide
  · rw [if_neg hdotted] at h
    cases hshift : shiftIn c.toNat lowerRows with
    | none =>
      rw [hshift] at h
      obtain rfl := List.mem_singleton.1 h
      unfold lowerChar
      rw [if_neg hdotted, hshift]
    | some k =>
      rw [hshift] at h
      have hd := List.mem_singleton.1 h
      obtain ⟨hvalid, hne, hnone⟩ := shifted_is_lowerCase hshift
      have hnumber : d.toNat = (c.toNat + k).toNat := by
        rw [hd, Char.ofNat, dif_pos hvalid]
        rfl
      have hplain : d ≠ 'İ' := by
        rintro rfl
        exact hne hnumber.symm
      unfold lowerChar
      rw [if_neg hplain, hnumber, hnone]

/-- A character that is its own lower case is no capital sigma, which depends on its context. -/
theorem ne_sigma_of_lowerChar {c : Char} (h : lowerChar c = [c]) : c ≠ 'Σ' := by
  rintro rfl
  revert h
  decide

/-! ## Lowering a text -/

theorem mem_lowerAfter {d : Char} {before cs : List Char} (h : d ∈ lowerAfter before cs) :
    lowerChar d = [d] := by
  induction cs generalizing before with
  | nil => cases h
  | cons c cs ih =>
    unfold lowerAfter at h
    rcases List.mem_append.1 h with hhead | hrest
    · split at hhead
      · obtain rfl := List.mem_singleton.1 hhead
        decide
      · exact lowerChar_of_mem hhead
    · exact ih hrest

/-- **The characters of a text in lower case** are their own lower case. -/
theorem mem_lower {d : Char} {cs : List Char} (h : d ∈ lower cs) : lowerChar d = [d] :=
  mem_lowerAfter h

theorem lowerAfter_eq_self {before cs : List Char} (h : ∀ c ∈ cs, lowerChar c = [c]) :
    lowerAfter before cs = cs := by
  induction cs generalizing before with
  | nil => rfl
  | cons c cs ih =>
    have hc := h c List.mem_cons_self
    have hsigma := ne_sigma_of_lowerChar hc
    unfold lowerAfter
    rw [if_neg (by simp [hsigma]), hc, ih fun d hd => h d (List.mem_cons_of_mem c hd)]
    rfl

/-- **A text is its own lower case** if and only if its characters are, wherever they stand. -/
theorem lower_eq_self_iff {cs : List Char} : lower cs = cs ↔ ∀ c ∈ cs, lowerChar c = [c] := by
  constructor
  · intro h c hc
    rw [← h] at hc
    exact mem_lower hc
  · exact lowerAfter_eq_self

theorem lower_lower (cs : List Char) : lower (lower cs) = lower cs :=
  lower_eq_self_iff.2 fun _ hc => mem_lower hc

/-! ## Nothing gets lost -/

theorem lowerChar_ne_nil (c : Char) : lowerChar c ≠ [] := by
  unfold lowerChar
  split
  · exact List.cons_ne_nil _ _
  · split <;> exact List.cons_ne_nil _ _

theorem lower_eq_nil_iff {cs : List Char} : lower cs = [] ↔ cs = [] := by
  cases cs with
  | nil => exact iff_of_true rfl rfl
  | cons c cs =>
    refine iff_of_false ?_ (List.cons_ne_nil c cs)
    unfold lower lowerAfter
    split
    · exact List.cons_ne_nil _ _
    · exact List.append_ne_nil_of_left_ne_nil (lowerChar_ne_nil c) _

end DocLinks.Text
