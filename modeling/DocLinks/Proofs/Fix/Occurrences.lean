import DocLinks.Fix.Replace

/-!
# Occurrences of a target

`occurrence?` and `replaceOccurrences` without their machinery: an occurrence of a target is the
target between `](` and `)`, with an angle bracket before or after it or not (`occurrence?_eq_some_iff`),
and replacing goes along the text from left to right (`replaceOccurrences_cons`). The fuel is the
length of the text, and no more than that is ever used.

The target may itself begin or end with angle brackets, so one spelling of a link can look like the
start of another; still at most one of them is at the head of a text (`Link.IsSpelling.eq_of_prefix`).
So nothing is left to choose when a link is replaced: the first spelling on the line gives way to the
new target, then the first one behind it, and so on to the end of the line (`replaceLink_isLeftmost`).

## Contents
- `occurrence?_eq_some_iff`, `occurrences_induction`: one occurrence, and the way along all of them.
- `Link.anchorText`, `Link.IsSpelling`: the ways to write a link.
- `Link.IsSpelledAtHead`, `LeftmostReplaced`: a text with all spellings replaced from left to right.
- `leftmostReplaced_iff`: what replacing gives is the only such text.
-/

namespace DocLinks

variable {target replacement : List Char}

/-! ## One occurrence -/

theorem dropWord?_eq_some {word cs rest : List Char} :
    dropWord? word cs = some rest ↔ cs = word ++ rest := by
  induction word generalizing cs with
  | nil => simp [dropWord?]
  | cons w word ih =>
    cases cs with
    | nil => simp [dropWord?]
    | cons c cs =>
      by_cases h : w = c
      · subst h; simp [dropWord?, ih]
      · simp [dropWord?, h, Ne.symm h]

/-- The end of a link behind its target. -/
theorem closing?_eq_some {cs rest : List Char} :
    closing? target cs = some rest ↔
      cs = target ++ '>' :: ')' :: rest ∨ cs = target ++ ')' :: rest := by
  unfold closing?
  constructor
  · intro h
    split at h
    · rename_i after hd
      cases h
      exact .inl (dropWord?_eq_some.1 hd)
    · rename_i after hd
      cases h
      exact .inr (dropWord?_eq_some.1 hd)
    · cases h
  · rintro (h | h) <;> simp only [dropWord?_eq_some.2 h]

/-- A target behind an angle bracket is read in one way: if the bracket is skipped, it does not
count as the start of the target as well. -/
theorem closing?_angle_of_closing? {cs rest : List Char} (h : closing? target ('<' :: cs) = some rest) :
    closing? target cs = none := by
  -- Two readings would make every character of the target an opening bracket, and its end too.
  have key : ∀ (target cs after after' : List Char) (e e' : Char), e ≠ '<' → e' ≠ '<' →
      '<' :: cs = target ++ e :: after → cs ≠ target ++ e' :: after' := by
    intro target
    induction target with
    | nil =>
      intro cs after after' e e' he _ h
      simp only [List.nil_append, List.cons.injEq] at h
      exact absurd h.1.symm he
    | cons t target ih =>
      rintro cs after after' e e' he he' h rfl
      simp only [List.cons_append, List.cons.injEq] at h
      obtain ⟨rfl, h⟩ := h
      exact ih _ after after' e e' he he' h rfl
  rcases hc : closing? target cs with _ | after
  · rfl
  · rcases closing?_eq_some.1 h with h | h <;> rcases closing?_eq_some.1 hc with hc | hc <;>
      exact absurd hc (key target cs _ _ _ _ (by decide) (by decide) h)

/-- **An occurrence of a target** at the head of a text: behind `](`, with or without an angle
bracket at either side. -/
theorem occurrence?_eq_some {cs rest : List Char} :
    occurrence? target cs = some rest ↔
      (∃ after, cs = ']' :: '(' :: after ∧ closing? target after = some rest) ∨
        ∃ after, cs = ']' :: '(' :: '<' :: after ∧ closing? target after = some rest := by
  unfold occurrence?
  constructor
  · intro h
    split at h
    · rename_i after
      split at h
      · rename_i r hr
        cases h
        exact .inr ⟨after, rfl, hr⟩
      · exact .inl ⟨_, rfl, h⟩
    · exact .inl ⟨_, rfl, h⟩
    · cases h
  · rintro (⟨after, rfl, h⟩ | ⟨after, rfl, h⟩)
    · split
      · rename_i hcs
        cases hcs
        rw [closing?_angle_of_closing? h]
        exact h
      · rename_i hcs
        cases hcs
        exact h
      · rename_i hno
        exact absurd rfl (hno _)
    · simp only [h]

/-- What an occurrence is made of. -/
theorem occurrence?_eq_some_iff {cs rest : List Char} :
    occurrence? target cs = some rest ↔ ∃ before after,
      cs = ']' :: '(' :: (before ++ target ++ after ++ ')' :: rest) ∧
        (before = [] ∨ before = ['<']) ∧ (after = [] ∨ after = ['>']) := by
  rw [occurrence?_eq_some]
  constructor
  · rintro (⟨cs', rfl, hc⟩ | ⟨cs', rfl, hc⟩) <;> rcases closing?_eq_some.1 hc with rfl | rfl
    · exact ⟨[], ['>'], by simp, .inl rfl, .inr rfl⟩
    · exact ⟨[], [], by simp, .inl rfl, .inl rfl⟩
    · exact ⟨['<'], ['>'], by simp, .inr rfl, .inr rfl⟩
    · exact ⟨['<'], [], by simp, .inr rfl, .inl rfl⟩
  · rintro ⟨before, after, rfl, hbefore, hafter⟩
    have hclosing : closing? target (target ++ after ++ ')' :: rest) = some rest := by
      rw [closing?_eq_some]
      rcases hafter with rfl | rfl
      · exact .inr (by simp)
      · exact .inl (by simp)
    rcases hbefore with rfl | rfl
    · exact .inl ⟨_, by simp, hclosing⟩
    · exact .inr ⟨_, by simp, hclosing⟩

/-! ## All occurrences -/

theorem length_occurrence? {cs rest : List Char} (h : occurrence? target cs = some rest) :
    rest.length < cs.length := by
  obtain ⟨before, after, rfl, -, -⟩ := occurrence?_eq_some_iff.1 h
  simp only [List.length_cons, List.length_append]
  omega

theorem replaceOccurrencesUpTo_eq (fuel : Nat) :
    ∀ cs : List Char, cs.length ≤ fuel →
      replaceOccurrencesUpTo target replacement fuel cs
        = replaceOccurrencesUpTo target replacement cs.length cs := by
  induction fuel using Nat.strongRecOn with
  | ind fuel ih =>
    intro cs hle
    rcases cs with _ | ⟨c, cs⟩
    · cases fuel <;> rfl
    · obtain ⟨n, rfl⟩ : ∃ n, fuel = n + 1 := ⟨fuel - 1, by simp at hle; omega⟩
      have hn : cs.length ≤ n := by simpa using hle
      simp only [replaceOccurrencesUpTo, List.length_cons]
      split
      · rename_i rest hrest
        have hlt : rest.length ≤ cs.length := by simpa [Nat.lt_succ_iff] using length_occurrence? hrest
        rw [ih n (by omega) rest (by omega), ih cs.length (by omega) rest hlt]
      · rw [ih n (by omega) cs hn]

@[simp] theorem replaceOccurrences_nil : replaceOccurrences target replacement [] = ([], false) := rfl

/-- Replacing at the head of a text, and going on. -/
theorem replaceOccurrences_cons (c : Char) (cs : List Char) :
    replaceOccurrences target replacement (c :: cs) =
      match occurrence? target (c :: cs) with
      | some rest => (replacement ++ (replaceOccurrences target replacement rest).1, true)
      | none =>
        (c :: (replaceOccurrences target replacement cs).1,
          (replaceOccurrences target replacement cs).2) := by
  unfold replaceOccurrences
  simp only [List.length_cons, replaceOccurrencesUpTo]
  rcases hrest : occurrence? target (c :: cs) with _ | rest
  · rfl
  · have hlt : rest.length ≤ cs.length := by simpa [Nat.lt_succ_iff] using length_occurrence? hrest
    simp only [replaceOccurrencesUpTo_eq _ _ hlt]

/-- **Induction along a text** in the steps in which its occurrences are replaced. -/
theorem occurrences_induction (target : List Char) {motive : List Char → Prop} (nil : motive [])
    (occurrence : ∀ c cs rest, occurrence? target (c :: cs) = some rest → motive rest →
      motive (c :: cs))
    (other : ∀ c cs, occurrence? target (c :: cs) = none → motive cs → motive (c :: cs)) :
    ∀ cs, motive cs
  | [] => nil
  | c :: cs =>
    match h : occurrence? target (c :: cs) with
    | some rest => occurrence c cs rest h (occurrences_induction target nil occurrence other rest)
    | none => other c cs h (occurrences_induction target nil occurrence other cs)
termination_by cs => cs.length
decreasing_by
  · exact length_occurrence? h
  · simp

/-- Without an occurrence a text stays. -/
theorem replaceOccurrences_of_not_found {cs : List Char}
    (h : (replaceOccurrences target replacement cs).2 = false) :
    (replaceOccurrences target replacement cs).1 = cs := by
  induction cs with
  | nil => rfl
  | cons c cs ih =>
    rw [replaceOccurrences_cons] at h ⊢
    split at h
    · cases h
    · rw [ih h]

/-- A target is found if and only if it occurs somewhere. -/
theorem replaceOccurrences_found_iff (target replacement cs : List Char) :
    (replaceOccurrences target replacement cs).2 = true ↔
      ∃ front back, cs = front ++ back ∧ (occurrence? target back).isSome := by
  induction cs with
  | nil =>
    constructor
    · intro h; cases h
    · rintro ⟨front, back, h, hs⟩
      obtain ⟨rfl, rfl⟩ := List.append_eq_nil_iff.1 h.symm
      cases hs
  | cons c cs ih =>
    rw [replaceOccurrences_cons]
    rcases ho : occurrence? target (c :: cs) with _ | rest
    · rw [ih]
      constructor
      · rintro ⟨front, back, rfl, hs⟩
        exact ⟨c :: front, back, rfl, hs⟩
      · rintro ⟨front, back, h, hs⟩
        rcases front with _ | ⟨d, front⟩
        · rw [List.nil_append] at h
          rw [← h, ho] at hs
          cases hs
        · cases h
          exact ⟨front, back, rfl, hs⟩
    · exact ⟨fun _ => ⟨[], c :: cs, rfl, by rw [ho]; rfl⟩, fun _ => rfl⟩

/-- Replacing brings in no characters but those of the replacement. -/
theorem mem_replaceOccurrences {c : Char} (cs : List Char)
    (h : c ∈ (replaceOccurrences target replacement cs).1) : c ∈ replacement ∨ c ∈ cs := by
  induction cs using occurrences_induction target with
  | nil => cases h
  | occurrence d cs rest ho ih =>
    obtain ⟨before, after, hcs, -, -⟩ := occurrence?_eq_some_iff.1 ho
    rw [replaceOccurrences_cons, ho] at h
    rcases List.mem_append.1 h with h | h
    · exact .inl h
    · refine (ih h).imp_right fun h => ?_
      rw [hcs]
      simp [h]
  | other d cs ho ih =>
    rw [replaceOccurrences_cons, ho] at h
    rcases List.mem_cons.1 h with rfl | h
    · exact .inr (List.mem_cons_self ..)
    · exact (ih h).imp_right (List.mem_cons_of_mem _)

/-- The characters of a target that is found are in the text. -/
theorem mem_of_found {cs : List Char} (h : (replaceOccurrences target replacement cs).2 = true)
    {c : Char} (hc : c ∈ target) : c ∈ cs := by
  obtain ⟨front, back, rfl, hs⟩ := (replaceOccurrences_found_iff ..).1 h
  obtain ⟨rest, hrest⟩ := Option.isSome_iff_exists.1 hs
  obtain ⟨before, after, rfl, -, -⟩ := occurrence?_eq_some_iff.1 hrest
  simp [hc]

theorem replaceLink_eq_some {line updated : List Char} {l : Link} {newTarget : List Char} :
    replaceLink line l newTarget = some updated ↔
      replaceOccurrences l.writtenTarget (']' :: '(' :: newTarget ++ [')']) line = (updated, true) := by
  unfold replaceLink
  split
  · rename_i u hu; rw [hu]; simp
  · rename_i u hu; rw [hu]; simp

/-! ## Spellings -/

/-- The number sign and the anchor of a link, if it has one that is not empty. -/
def Link.anchorText (l : Link) : List Char :=
  match l.anchor with
  | some a => if a = "" then [] else '#' :: a.toList
  | none => []

/-- The ways to write a link, from the bracket that closes its text on. -/
def Link.IsSpelling (l : Link) (w : List Char) : Prop :=
  ∃ opening closing, (opening = [] ∨ opening = ['<']) ∧ (closing = [] ∨ closing = ['>']) ∧
    w = ']' :: '(' :: (opening ++ l.targetPath.toList ++ l.anchorText ++ closing ++ [')'])

/-- A text begins with a link. -/
def Link.IsSpelledAtHead (l : Link) (cs : List Char) : Prop := ∃ w, l.IsSpelling w ∧ w <+: cs

variable {l : Link} {new cs cs' rest w w' : List Char}

theorem Link.IsSpelling.exists_cons (h : l.IsSpelling w) : ∃ tail, w = ']' :: tail := by
  obtain ⟨opening, closing, -, -, rfl⟩ := h
  exact ⟨_, rfl⟩

theorem Link.writtenTarget_eq (l : Link) : l.writtenTarget = l.targetPath.toList ++ l.anchorText := by
  unfold writtenTarget withAnchor anchor? anchorText
  rcases l.anchor with _ | a
  · simp
  · by_cases ha : a = ""
    · simp [ha, Option.filter]
    · simp [ha, Option.filter]

/-- What is found at the head of a text is a spelling, and every spelling there is found. -/
theorem occurrence?_writtenTarget :
    occurrence? l.writtenTarget cs = some rest ↔ ∃ w, l.IsSpelling w ∧ cs = w ++ rest := by
  rw [occurrence?_eq_some_iff, l.writtenTarget_eq]
  constructor
  · rintro ⟨before, after, rfl, hbefore, hafter⟩
    exact ⟨_, ⟨before, after, hbefore, hafter, rfl⟩, by simp⟩
  · rintro ⟨w, ⟨opening, closing, hopening, hclosing, rfl⟩, rfl⟩
    exact ⟨opening, closing, by simp, hopening, hclosing⟩

/-- **A text begins with one spelling** of a link at most. -/
theorem Link.IsSpelling.eq_of_prefix (hw : l.IsSpelling w) (hw' : l.IsSpelling w') (h : w <+: cs)
    (h' : w' <+: cs) : w = w' := by
  obtain ⟨rest, rfl⟩ := h
  obtain ⟨rest', heq⟩ := h'
  have hrest : occurrence? l.writtenTarget (w ++ rest) = some rest :=
    occurrence?_writtenTarget.2 ⟨w, hw, rfl⟩
  have hrest' : occurrence? l.writtenTarget (w ++ rest) = some rest' :=
    occurrence?_writtenTarget.2 ⟨w', hw', heq.symm⟩
  obtain rfl : rest = rest' := Option.some.inj (hrest.symm.trans hrest')
  exact (List.append_cancel_right heq).symm

theorem occurrence?_eq_none_iff :
    occurrence? l.writtenTarget cs = none ↔ ¬l.IsSpelledAtHead cs := by
  constructor
  · rintro hnone ⟨w, hw, rest, rfl⟩
    rw [occurrence?_writtenTarget.2 ⟨w, hw, rfl⟩] at hnone
    cases hnone
  · intro hno
    rcases ho : occurrence? l.writtenTarget cs with _ | rest
    · rfl
    · obtain ⟨w, hw, rfl⟩ := occurrence?_writtenTarget.1 ho
      exact absurd ⟨w, hw, List.prefix_append w rest⟩ hno

/-- A link is found on a line if and only if a spelling of it stands there. -/
theorem found_iff_exists_spelling (l : Link) (new cs : List Char) :
    (replaceOccurrences l.writtenTarget new cs).2 = true ↔ ∃ w, l.IsSpelling w ∧ w <:+: cs := by
  rw [replaceOccurrences_found_iff]
  constructor
  · rintro ⟨front, back, rfl, hs⟩
    obtain ⟨rest, ho⟩ := Option.isSome_iff_exists.1 hs
    obtain ⟨w, hw, rfl⟩ := occurrence?_writtenTarget.1 ho
    exact ⟨w, hw, front, rest, by simp⟩
  · rintro ⟨w, hw, front, rest, rfl⟩
    have ho : occurrence? l.writtenTarget (w ++ rest) = some rest :=
      occurrence?_writtenTarget.2 ⟨w, hw, rfl⟩
    exact ⟨front, w ++ rest, by simp, by rw [ho]; rfl⟩

/-! ## Replacing from left to right -/

/-- A text with every spelling of a link replaced, from left to right: a text without a spelling stays,
and in any other text the first spelling is replaced, and what follows it in the same way. -/
inductive LeftmostReplaced (l : Link) (new : List Char) : List Char → List Char → Prop
  | stays {cs : List Char} (hno : ∀ w, l.IsSpelling w → ¬w <:+: cs) : LeftmostReplaced l new cs cs
  | replaced {front w back back' : List Char} (hw : l.IsSpelling w)
      (hfirst : ∀ cs, cs <:+ front → cs ≠ [] → ¬l.IsSpelledAtHead (cs ++ (w ++ back)))
      (hback : LeftmostReplaced l new back back') :
      LeftmostReplaced l new (front ++ (w ++ back)) (front ++ (new ++ back'))

/-- What precedes the first spelling stays. -/
theorem replaceOccurrences_append_of_not_spelled {front tail : List Char}
    (hfirst : ∀ cs, cs <:+ front → cs ≠ [] → ¬l.IsSpelledAtHead (cs ++ tail)) :
    (replaceOccurrences l.writtenTarget new (front ++ tail)).1
      = front ++ (replaceOccurrences l.writtenTarget new tail).1 := by
  induction front with
  | nil => rfl
  | cons c front ih =>
    have hhead : occurrence? l.writtenTarget (c :: (front ++ tail)) = none :=
      occurrence?_eq_none_iff.2 (hfirst (c :: front) (List.suffix_refl _) (List.cons_ne_nil _ _))
    have hrest := ih fun cs hcs => hfirst cs (hcs.trans (List.suffix_cons c front))
    rw [List.cons_append, replaceOccurrences_cons, hhead, List.cons_append, hrest]

/-- What replacing gives has been replaced from left to right. -/
theorem leftmostReplaced_replaceOccurrences (l : Link) (new cs : List Char) :
    LeftmostReplaced l new cs (replaceOccurrences l.writtenTarget new cs).1 := by
  induction cs using occurrences_induction l.writtenTarget with
  | nil =>
    refine .stays fun w hw hinfix => ?_
    obtain ⟨tail, rfl⟩ := hw.exists_cons
    exact absurd (List.infix_nil.1 hinfix) (List.cons_ne_nil _ _)
  | occurrence c cs rest ho ih =>
    obtain ⟨w, hw, hcs⟩ := occurrence?_writtenTarget.1 ho
    have hfirst : ∀ cs, cs <:+ [] → cs ≠ [] → ¬l.IsSpelledAtHead (cs ++ (w ++ rest)) :=
      fun cs hcs hne => absurd (List.suffix_nil.1 hcs) hne
    have hreplaced := LeftmostReplaced.replaced hw hfirst ih
    rw [replaceOccurrences_cons, ho, hcs]
    exact hreplaced
  | other c cs ho ih =>
    have hhead : ¬l.IsSpelledAtHead (c :: cs) := occurrence?_eq_none_iff.1 ho
    rw [replaceOccurrences_cons, ho]
    simp only
    generalize (replaceOccurrences l.writtenTarget new cs).1 = cs' at ih
    -- One character more in front of the first spelling, and none begins with it.
    cases ih with
    | stays hno =>
      refine .stays fun w hw hinfix => ?_
      rcases List.infix_cons_iff.1 hinfix with hprefix | hinfix
      · exact hhead ⟨w, hw, hprefix⟩
      · exact hno w hw hinfix
    | @replaced front w back back' hw hfirst hback =>
      have hlonger : ∀ cs, cs <:+ c :: front → cs ≠ [] → ¬l.IsSpelledAtHead (cs ++ (w ++ back)) := by
        intro cs hcs hne
        rcases List.suffix_cons_iff.1 hcs with rfl | hcs
        · exact hhead
        · exact hfirst cs hcs hne
      exact LeftmostReplaced.replaced hw hlonger hback

/-- **Replacing goes from left to right**, and there is one text only that comes out. -/
theorem leftmostReplaced_iff :
    LeftmostReplaced l new cs cs' ↔ (replaceOccurrences l.writtenTarget new cs).1 = cs' := by
  constructor
  · intro h
    induction h with
    | @stays cs hno =>
      refine replaceOccurrences_of_not_found ?_
      rw [← Bool.not_eq_true, found_iff_exists_spelling]
      rintro ⟨w, hw, hinfix⟩
      exact hno w hw hinfix
    | @replaced front w back back' hw hfirst _ ih =>
      have ho : occurrence? l.writtenTarget (w ++ back) = some back :=
        occurrence?_writtenTarget.2 ⟨w, hw, rfl⟩
      rw [replaceOccurrences_append_of_not_spelled hfirst]
      obtain ⟨tail, rfl⟩ := hw.exists_cons
      rw [List.cons_append] at ho ⊢
      rw [replaceOccurrences_cons, ho]
      simp only [ih]
  · rintro rfl
    exact leftmostReplaced_replaceOccurrences l new cs

/-- **Replacing a link is leftmost replacement.** Nothing comes of it exactly if the link is not spelled
anywhere on the line; otherwise every spelling that is met on the way along the line, from left to right
and each behind the one before it, is replaced by the new target in parentheses. -/
theorem replaceLink_isLeftmost (line newTarget : List Char) (l : Link) :
    (replaceLink line l newTarget = none ↔ ∀ w, l.IsSpelling w → ¬w <:+: line) ∧
      ∀ updated, replaceLink line l newTarget = some updated ↔
        (∃ w, l.IsSpelling w ∧ w <:+: line) ∧
          LeftmostReplaced l (']' :: '(' :: newTarget ++ [')']) line updated := by
  have hsome : ∀ updated, replaceLink line l newTarget = some updated ↔
      (∃ w, l.IsSpelling w ∧ w <:+: line) ∧
        LeftmostReplaced l (']' :: '(' :: newTarget ++ [')']) line updated := by
    intro updated
    rw [replaceLink_eq_some, Prod.ext_iff, leftmostReplaced_iff, and_comm]
    exact and_congr_left fun _ => found_iff_exists_spelling l _ line
  refine ⟨?_, hsome⟩
  constructor
  · intro hnone w hw hinfix
    have h := (hsome _).2 ⟨⟨w, hw, hinfix⟩, leftmostReplaced_replaceOccurrences l _ line⟩
    rw [hnone] at h
    cases h
  · intro hno
    rw [Option.eq_none_iff_forall_not_mem]
    intro updated h
    obtain ⟨⟨w, hw, hinfix⟩, -⟩ := (hsome updated).1 h
    exact hno w hw hinfix

/-- The brackets that are the target are told from the brackets around it. -/
example : replaceLink "[a](<<>) [b](<) [c](<<<>)".toList { (default : Link) with targetPath := "<" }
    "n.md".toList = some "[a](n.md) [b](n.md) [c](<<<>)".toList := by decide +kernel

end DocLinks
