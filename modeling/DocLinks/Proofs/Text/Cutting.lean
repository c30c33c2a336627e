import DocLinks.Text.Lines
import Mathlib.Data.List.TakeWhile

/-!
# Cutting and joining

Facts about `takeWhile`, `splitOn` and `intercalate` that hold of lines, of the names of paths and of
every other way to cut a text at a character.
-/

namespace DocLinks.Text

variable {α : Type}

/-- A text cut behind its longest beginning of a kind. -/
theorem takeWhile_append_dropWhile_cons {f : α → Bool} {cs rest : List α} {c : α}
    (h : cs.dropWhile f = c :: rest) : cs = cs.takeWhile f ++ c :: rest := by
  rw [← h, List.takeWhile_append_dropWhile]

/-- What ends a beginning of a kind is not of the kind. -/
theorem head_of_dropWhile_eq_cons {f : α → Bool} {cs rest : List α} {c : α}
    (h : cs.dropWhile f = c :: rest) : f c = false := by
  have hhead := List.head?_dropWhile_not f cs
  rwa [h] at hhead

theorem all_takeWhile (f : α → Bool) (cs : List α) : ∀ c ∈ cs.takeWhile f, f c = true :=
  fun _ hc => by simpa using List.all_eq_true.1 List.all_takeWhile _ hc

theorem takeWhile_append_cons {f : α → Bool} {a : List α} (ha : ∀ c ∈ a, f c = true) {c : α}
    (hc : f c = false) (rest : List α) : (a ++ c :: rest).takeWhile f = a := by
  rw [List.takeWhile_append_of_pos ha, List.takeWhile_cons_of_neg (by simp [hc]), List.append_nil]

theorem dropWhile_append_cons {f : α → Bool} {a : List α} (ha : ∀ c ∈ a, f c = true) {c : α}
    (hc : f c = false) (rest : List α) : (a ++ c :: rest).dropWhile f = c :: rest := by
  rw [List.dropWhile_append_of_pos ha, List.dropWhile_cons_of_neg (by simp [hc])]

/-- What is in a list is in it for the last time somewhere. -/
theorem exists_last_of_mem {a : α} {as : List α} (h : a ∈ as) :
    ∃ before after, as = before ++ a :: after ∧ a ∉ after := by
  obtain ⟨after, before, hreverse, hlast⟩ := List.eq_append_cons_of_mem (List.mem_reverse.2 h)
  refine ⟨before.reverse, after.reverse, ?_, by simpa using hlast⟩
  rw [← List.reverse_reverse as, hreverse, List.reverse_append, List.reverse_cons, List.append_assoc,
    List.singleton_append]

variable [DecidableEq α]

/-- The pieces of a text do not hold what it is cut at. -/
theorem not_mem_of_mem_splitOn {a : α} {cs piece : List α} (h : piece ∈ cs.splitOn a) : a ∉ piece := by
  induction cs generalizing piece with
  | nil => simp_all [List.splitOn_nil]
  | cons c cs ih =>
    rw [List.splitOn_cons_eq_if_modifyHead] at h
    split at h
    · rcases List.mem_cons.1 h with rfl | h
      · exact List.not_mem_nil
      · exact ih h
    · rename_i hc
      have hca : ¬a = c := fun hac => hc (by simp [hac])
      rcases hs : cs.splitOn a with _ | ⟨p, ps⟩
      · exact absurd hs (List.splitOn_ne_nil a cs)
      · rw [hs, List.modifyHead_cons] at h
        rw [hs] at ih
        rcases List.mem_cons.1 h with rfl | h
        · simpa [hca] using ih (List.mem_cons_self ..)
        · exact ih (List.mem_cons_of_mem _ h)

omit [DecidableEq α] in
/-- A joined text holds what its pieces hold, and what they are joined with. -/
theorem mem_intercalate {sep : List α} {pieces : List (List α)} {a : α}
    (h : a ∈ sep.intercalate pieces) : a ∈ sep ∨ ∃ piece ∈ pieces, a ∈ piece := by
  induction pieces with
  | nil => cases h
  | cons p ps ih =>
    rcases ps with _ | ⟨q, ps⟩
    · exact .inr ⟨p, List.mem_cons_self .., by simpa using h⟩
    · rw [List.intercalate_cons_cons] at h
      rcases List.mem_append.1 h with h | h
      · rcases List.mem_append.1 h with h | h
        · exact .inr ⟨p, List.mem_cons_self .., h⟩
        · exact .inl h
      · exact (ih h).imp_right fun ⟨k, hk, ha⟩ => ⟨k, List.mem_cons_of_mem _ hk, ha⟩

omit [DecidableEq α] in
theorem mem_intercalate_of_mem {sep : List α} {pieces : List (List α)} {piece : List α} {a : α}
    (hp : piece ∈ pieces) (ha : a ∈ piece) : a ∈ sep.intercalate pieces := by
  induction pieces with
  | nil => cases hp
  | cons p ps ih =>
    rcases ps with _ | ⟨q, ps⟩
    · rw [List.mem_singleton.1 hp] at ha
      simpa using ha
    · rw [List.intercalate_cons_cons]
      rcases List.mem_cons.1 hp with rfl | hp
      · exact List.mem_append_left _ (List.mem_append_left _ ha)
      · exact List.mem_append_right _ (ih hp)

/-- What a text is cut into is written in its items. -/
theorem mem_of_mem_splitOn {a b : α} {cs piece : List α} (hp : piece ∈ cs.splitOn a) (hb : b ∈ piece) :
    b ∈ cs := by
  have h : b ∈ [a].intercalate (cs.splitOn a) := mem_intercalate_of_mem hp hb
  rwa [List.intercalate_splitOn] at h

/-- The lines of a text hold no line feed. -/
theorem newline_not_mem_of_mem_linesOf {s : String} {line : List Char} (h : line ∈ linesOf s) :
    '\n' ∉ line :=
  not_mem_of_mem_splitOn h

/-- Lines without a line feed are the lines of the text that they make. -/
theorem linesOf_ofLines {ls : List (List Char)} (h : ∀ l ∈ ls, '\n' ∉ l) (hne : ls ≠ []) :
    linesOf (ofLines ls) = ls := by
  rw [linesOf, ofLines, String.toList_ofList, splitLines_joinLines h hne]

theorem linesOf_ne_nil (s : String) : linesOf s ≠ [] := splitLines_ne_nil _

/-! ## Numbered lines -/

section Numbered

omit [DecidableEq α]

theorem getElem?_numberFrom (n i : Nat) (as : List α) :
    (numberFrom n as)[i]? = as[i]?.map fun a => (n + i, a) := by
  induction as generalizing n i with
  | nil => rfl
  | cons a as ih =>
    rcases i with _ | i
    · rfl
    · simp only [numberFrom, List.getElem?_cons_succ, ih]
      have hn : n + 1 + i = n + (i + 1) := by omega
      rw [hn]

/-- The numbers go up. -/
theorem pairwise_numberFrom (n : Nat) (as : List α) :
    (numberFrom n as).Pairwise fun a b => a.1 < b.1 := by
  induction as generalizing n with
  | nil => exact .nil
  | cons a as ih =>
    refine .cons (fun b hb => ?_) (ih (n + 1))
    obtain ⟨i, hi⟩ := List.mem_iff_getElem?.1 hb
    rw [getElem?_numberFrom] at hi
    obtain ⟨c, _, rfl⟩ := Option.map_eq_some_iff.1 hi
    show n < n + 1 + i
    omega

theorem takeWhile_numberFrom (f : α → Bool) (n : Nat) (as : List α) :
    (numberFrom n as).takeWhile (f ·.2) = numberFrom n (as.takeWhile f) := by
  induction as generalizing n with
  | nil => rfl
  | cons a as ih => rcases h : f a with _ | _ <;> simp [numberFrom, h, ih]

theorem dropWhile_numberFrom (f : α → Bool) (n : Nat) (as : List α) :
    (numberFrom n as).dropWhile (f ·.2)
      = numberFrom (n + (as.takeWhile f).length) (as.dropWhile f) := by
  induction as generalizing n with
  | nil => rfl
  | cons a as ih =>
    rcases h : f a with _ | _
    · simp [numberFrom, h]
    · have hn : n + 1 + (as.takeWhile f).length = n + ((as.takeWhile f).length + 1) := by omega
      simp [numberFrom, h, ih, hn]

/-- Numbers that are counted from a later one are higher. -/
theorem numberFrom_add (n k : Nat) (as : List α) :
    numberFrom (n + k) as = (numberFrom n as).map fun a => (a.1 + k, a.2) := by
  induction as generalizing n with
  | nil => rfl
  | cons a as ih =>
    have hn : n + k + 1 = n + 1 + k := by omega
    simp [numberFrom, hn, ih]

end Numbered

end DocLinks.Text
