import DocLinks.Similarity
import Mathlib.Order.Bounds.Basic
import Mathlib.Order.MinMax

/-!
# Edit distance

`editDistance` computes one row of distances after the other; what it arrives at is the length of the
shortest edit script, and with it a metric (`editDistance_isLeast`).

Between the rows and the scripts stand alignments, which read two texts side by side from the front: what
comes next is kept, replaced, inserted or deleted. An edit anywhere is an alignment at the cost of one, and
alignments compose, so a script is an alignment that costs no more than the script is long. The
recurrence of the rows looks at the next character of each text, and so do the constructors.

The rows go through prefixes and add characters at their ends, hence the prefixes are written with
the last character first.

## Contents
- `Edit`, `applyEdits`: edit scripts.
- `Aligned`, `Aligned.compose`, `Aligned.exists_script`, `aligned_applyEdits`: alignments and scripts.
- `leastEdits`, `aligned_leastEdits`, `Aligned.leastEdits_le`: the recurrence finds the cheapest alignment.
- `rowFrom`, `nextDistanceRow_rowFrom`, `rollingDistance_eq_leastEdits`: the rows follow the recurrence.
- `editDistance_eq_leastEdits`: so does the distance, whichever of the texts is the shorter one.
- `editDistance_isLeast`.
-/

namespace DocLinks

/-! ## Edit scripts -/

/-- A change of one character. Places are counted from zero; an edit behind the end of a text changes
nothing. -/
inductive Edit where
  | insert (place : Nat) (c : Char)
  | delete (place : Nat)
  | substitute (place : Nat) (c : Char)
  deriving DecidableEq, Repr

namespace Edit

/-- The text after an edit. -/
def apply : Edit → List Char → List Char
  | insert i c, cs => cs.insertIdx i c
  | delete i, cs => cs.eraseIdx i
  | substitute i c, cs => cs.set i c

/-- The edit one place further on. -/
def shift : Edit → Edit
  | insert i c => insert (i + 1) c
  | delete i => delete (i + 1)
  | substitute i c => substitute (i + 1) c

@[simp] theorem apply_shift_cons (e : Edit) (c : Char) (cs : List Char) :
    e.shift.apply (c :: cs) = c :: e.apply cs := by
  cases e with
  | insert i d => exact List.insertIdx_succ_cons
  | delete i => exact List.eraseIdx_cons_succ
  | substitute i d => exact List.set_cons_succ

/-- An edit is made at the front, or it is one that is made further on. -/
theorem front_or_shift (e : Edit) :
    (∃ c, e = insert 0 c) ∨ e = delete 0 ∨ (∃ c, e = substitute 0 c) ∨ ∃ e' : Edit, e = e'.shift := by
  cases e with
  | insert i c =>
    cases i with
    | zero => exact .inl ⟨c, rfl⟩
    | succ i => exact .inr (.inr (.inr ⟨insert i c, rfl⟩))
  | delete i =>
    cases i with
    | zero => exact .inr (.inl rfl)
    | succ i => exact .inr (.inr (.inr ⟨delete i, rfl⟩))
  | substitute i c =>
    cases i with
    | zero => exact .inr (.inr (.inl ⟨c, rfl⟩))
    | succ i => exact .inr (.inr (.inr ⟨substitute i c, rfl⟩))

end Edit

/-- The text after the edits of a script, made one after the other. -/
def applyEdits (script : List Edit) (cs : List Char) : List Char :=
  script.foldl (fun cs e => e.apply cs) cs

@[simp] theorem applyEdits_nil (cs : List Char) : applyEdits [] cs = cs := rfl

@[simp] theorem applyEdits_cons (e : Edit) (script : List Edit) (cs : List Char) :
    applyEdits (e :: script) cs = applyEdits script (e.apply cs) := rfl

/-- A script that is made behind a character leaves it as it is. -/
theorem applyEdits_shift (script : List Edit) (c : Char) (cs : List Char) :
    applyEdits (script.map Edit.shift) (c :: cs) = c :: applyEdits script cs := by
  induction script generalizing cs with
  | nil => rfl
  | cons e script ih => simp [ih]

/-! ## Alignments -/

/-- Two texts are aligned at a cost: read from the front, what comes next in both is put side by side, which
costs one unless it is the same, or it is inserted or deleted at the cost of one. -/
inductive Aligned : Nat → List Char → List Char → Prop where
  | nil : Aligned 0 [] []
  | pair {n : Nat} {a b : List Char} (c d : Char) (h : Aligned n a b) :
      Aligned (n + if c = d then 0 else 1) (c :: a) (d :: b)
  | insert {n : Nat} {a b : List Char} (d : Char) (h : Aligned n a b) : Aligned (n + 1) a (d :: b)
  | delete {n : Nat} {a b : List Char} (c : Char) (h : Aligned n a b) : Aligned (n + 1) (c :: a) b

namespace Aligned

variable {m n : Nat} {a b : List Char}

theorem keep (x : Char) (h : Aligned n a b) : Aligned n (x :: a) (x :: b) := by
  have hpair := Aligned.pair x x h
  rwa [if_pos rfl] at hpair

theorem refl (a : List Char) : Aligned 0 a a := by
  induction a with
  | nil => exact .nil
  | cons x a ih => exact ih.keep x

theorem symm (h : Aligned n a b) : Aligned n b a := by
  induction h with
  | nil => exact .nil
  | pair x y _ ih =>
    have hpair := Aligned.pair y x ih
    rwa [if_congr eq_comm rfl rfl] at hpair
  | insert y _ ih => exact .delete y ih
  | delete x _ ih => exact .insert x ih

theorem append {a' b' : List Char} (h : Aligned m a b) (h' : Aligned n a' b') :
    Aligned (m + n) (a ++ a') (b ++ b') := by
  induction h with
  | nil => rwa [Nat.zero_add]
  | pair x y _ ih =>
    rw [Nat.add_right_comm]
    exact .pair x y ih
  | insert y _ ih =>
    rw [Nat.add_right_comm]
    exact .insert y ih
  | delete x _ ih =>
    rw [Nat.add_right_comm]
    exact .delete x ih

/-- Texts that are read from their ends are aligned at the same cost. -/
theorem reverse (h : Aligned n a b) : Aligned n a.reverse b.reverse := by
  induction h with
  | nil => exact .nil
  | @pair n _ _ x y _ ih =>
    rw [List.reverse_cons, List.reverse_cons, ← Nat.zero_add (if x = y then 0 else 1)]
    exact ih.append (.pair x y .nil)
  | @insert _ a _ y _ ih =>
    rw [List.reverse_cons, ← List.append_nil a.reverse]
    exact ih.append (.insert y .nil)
  | @delete _ _ b x _ ih =>
    rw [List.reverse_cons, ← List.append_nil b.reverse]
    exact ih.append (.delete x .nil)

/-- **Alignments compose**, and the costs add up at most: what is inserted and then deleted costs
nothing. -/
theorem compose {m n : Nat} {a b c : List Char} (h : Aligned m a b) (h' : Aligned n b c) :
    ∃ k ≤ m + n, Aligned k a c := by
  cases h with
  | nil => exact ⟨n, by omega, h'⟩
  | delete x h =>
    obtain ⟨k, hk, hac⟩ := compose h h'
    exact ⟨k + 1, by omega, .delete x hac⟩
  | pair x y h =>
    cases h' with
    | pair _ z h' =>
      obtain ⟨k, hk, hac⟩ := compose h h'
      refine ⟨_, ?_, .pair x z hac⟩
      -- Two characters that are not the same differ from one in between.
      by_cases hxy : x = y
      · rw [hxy]
        omega
      · rw [if_neg hxy]
        split <;> omega
    | insert z h' =>
      obtain ⟨k, hk, hac⟩ := compose (.pair x y h) h'
      exact ⟨k + 1, by omega, .insert z hac⟩
    | delete _ h' =>
      obtain ⟨k, hk, hac⟩ := compose h h'
      exact ⟨k + 1, by omega, .delete x hac⟩
  | insert y h =>
    cases h' with
    | pair _ z h' =>
      obtain ⟨k, hk, hac⟩ := compose h h'
      exact ⟨k + 1, by omega, .insert z hac⟩
    | insert z h' =>
      obtain ⟨k, hk, hac⟩ := compose (.insert y h) h'
      exact ⟨k + 1, by omega, .insert z hac⟩
    | delete _ h' =>
      obtain ⟨k, hk, hac⟩ := compose h h'
      exact ⟨k, by omega, hac⟩
termination_by a.length + b.length + c.length

/-- At no cost nothing is changed. -/
theorem eq_of_zero (h : Aligned 0 a b) : a = b := by
  generalize hzero : 0 = n at h
  induction h with
  | nil => rfl
  | pair x y _ ih =>
    by_cases hsame : x = y
    · rw [if_pos hsame, Nat.add_zero] at hzero
      rw [hsame, ih hzero]
    · rw [if_neg hsame] at hzero
      omega
  | insert | delete => omega

/-- The lengths of the texts differ by the cost at most. -/
theorem length_le (h : Aligned n a b) : a.length ≤ b.length + n ∧ b.length ≤ a.length + n := by
  induction h with
  | nil => exact ⟨Nat.le_refl 0, Nat.le_refl 0⟩
  | pair | insert | delete =>
    simp only [List.length_cons]
    omega

/-- Any two texts are aligned at the cost of the longer one. -/
theorem exists_le_max (a b : List Char) : ∃ k ≤ max a.length b.length, Aligned k a b := by
  induction a generalizing b with
  | nil =>
    induction b with
    | nil => exact ⟨0, Nat.zero_le _, .nil⟩
    | cons d b ih =>
      obtain ⟨k, hk, h⟩ := ih
      refine ⟨k + 1, ?_, .insert d h⟩
      simp only [List.length_cons, List.length_nil] at hk ⊢
      omega
  | cons c a ih =>
    cases b with
    | nil =>
      obtain ⟨k, hk, h⟩ := ih []
      refine ⟨k + 1, ?_, .delete c h⟩
      simp only [List.length_cons, List.length_nil] at hk ⊢
      omega
    | cons d b =>
      obtain ⟨k, hk, h⟩ := ih b
      refine ⟨_, ?_, .pair c d h⟩
      simp only [List.length_cons]
      split <;> omega

/-- **An alignment is made by a script** that is as long as the alignment costs. -/
theorem exists_script (h : Aligned n a b) :
    ∃ script : List Edit, script.length = n ∧ applyEdits script a = b := by
  induction h with
  | nil => exact ⟨[], rfl, rfl⟩
  | pair c d _ ih =>
    obtain ⟨script, hlength, hscript⟩ := ih
    by_cases hsame : c = d
    · subst hsame
      rw [if_pos rfl]
      exact ⟨script.map .shift, by simpa using hlength, by rw [applyEdits_shift, hscript]⟩
    · rw [if_neg hsame]
      refine ⟨.substitute 0 d :: script.map .shift, by simpa using hlength, ?_⟩
      show applyEdits (script.map .shift) (d :: _) = _
      rw [applyEdits_shift, hscript]
  | @insert _ a _ d _ ih =>
    obtain ⟨script, hlength, hscript⟩ := ih
    refine ⟨.insert 0 d :: script.map .shift, by simpa using hlength, ?_⟩
    show applyEdits (script.map .shift) (d :: a) = _
    rw [applyEdits_shift, hscript]
  | delete c _ ih =>
    obtain ⟨script, hlength, hscript⟩ := ih
    exact ⟨.delete 0 :: script, by simpa using hlength, hscript⟩

end Aligned

/-- An edit costs one at most. -/
theorem Edit.aligned (e : Edit) (cs : List Char) : ∃ k ≤ 1, Aligned k cs (e.apply cs) := by
  induction cs generalizing e with
  | nil =>
    obtain ⟨c, rfl⟩ | rfl | ⟨c, rfl⟩ | ⟨e', rfl⟩ := e.front_or_shift
    · exact ⟨1, le_refl 1, .insert c .nil⟩
    · exact ⟨0, Nat.zero_le 1, .nil⟩
    · exact ⟨0, Nat.zero_le 1, .nil⟩
    · -- There is no place behind the front.
      cases e' with
      | insert | delete | substitute => exact ⟨0, Nat.zero_le 1, .nil⟩
  | cons x cs ih =>
    obtain ⟨c, rfl⟩ | rfl | ⟨c, rfl⟩ | ⟨e', rfl⟩ := e.front_or_shift
    · exact ⟨1, le_refl 1, .insert c (.refl (x :: cs))⟩
    · exact ⟨1, le_refl 1, .delete x (.refl cs)⟩
    · exact ⟨_, by split <;> omega, .pair x c (.refl cs)⟩
    · obtain ⟨k, hk, h⟩ := ih e'
      rw [apply_shift_cons]
      exact ⟨k, hk, h.keep x⟩

/-- **A script is an alignment** that costs no more than the script is long. -/
theorem aligned_applyEdits (script : List Edit) (cs : List Char) :
    ∃ k ≤ script.length, Aligned k cs (applyEdits script cs) := by
  induction script generalizing cs with
  | nil => exact ⟨0, le_refl 0, .refl cs⟩
  | cons e script ih =>
    obtain ⟨m, hm, hedit⟩ := e.aligned cs
    obtain ⟨n, hn, hrest⟩ := ih (e.apply cs)
    obtain ⟨k, hk, h⟩ := hedit.compose hrest
    refine ⟨k, ?_, h⟩
    rw [List.length_cons]
    omega

/-! ## The recurrence -/

/-- The cost of the cheapest alignment, found by looking at the next character of each text. -/
def leastEdits : List Char → List Char → Nat
  | [], b => b.length
  | c :: a, [] => (c :: a).length
  | c :: a, d :: b =>
    min (min (leastEdits a (d :: b) + 1) (leastEdits (c :: a) b + 1))
      (leastEdits a b + if c = d then 0 else 1)
termination_by a b => a.length + b.length

@[simp] theorem leastEdits_nil_left (b : List Char) : leastEdits [] b = b.length := by
  rw [leastEdits]

@[simp] theorem leastEdits_nil_right (a : List Char) : leastEdits a [] = a.length := by
  cases a with
  | nil => rw [leastEdits]
  | cons c a => rw [leastEdits]

theorem leastEdits_cons_cons (c d : Char) (a b : List Char) :
    leastEdits (c :: a) (d :: b) =
      min (min (leastEdits a (d :: b) + 1) (leastEdits (c :: a) b + 1))
        (leastEdits a b + if c = d then 0 else 1) := by
  rw [leastEdits]

theorem leastEdits_insert_le (d : Char) (a b : List Char) :
    leastEdits a (d :: b) ≤ leastEdits a b + 1 := by
  cases a with
  | nil => simp
  | cons c a =>
    rw [leastEdits_cons_cons]
    omega

theorem leastEdits_delete_le (c : Char) (a b : List Char) :
    leastEdits (c :: a) b ≤ leastEdits a b + 1 := by
  cases b with
  | nil => simp
  | cons d b =>
    rw [leastEdits_cons_cons]
    omega

/-- **The recurrence finds an alignment**, and there is no cheaper one. -/
theorem aligned_leastEdits (a b : List Char) : Aligned (leastEdits a b) a b := by
  fun_induction leastEdits a b with
  | case1 b =>
    induction b with
    | nil => exact .nil
    | cons d b ih => exact .insert d ih
  | case2 c a =>
    have hdelete : ∀ a : List Char, Aligned a.length a [] := by
      intro a
      induction a with
      | nil => exact .nil
      | cons c a ih => exact .delete c ih
    exact hdelete (c :: a)
  | case3 c a d b hdelete hinsert hpair =>
    rcases min_choice (min (leastEdits a (d :: b) + 1) (leastEdits (c :: a) b + 1))
        (leastEdits a b + if c = d then 0 else 1) with hmin | hmin
    · rw [hmin]
      rcases min_choice (leastEdits a (d :: b) + 1) (leastEdits (c :: a) b + 1) with hmin | hmin
      · rw [hmin]
        exact .delete c hdelete
      · rw [hmin]
        exact .insert d hinsert
    · rw [hmin]
      exact .pair c d hpair

theorem Aligned.leastEdits_le {n : Nat} {a b : List Char} (h : Aligned n a b) :
    leastEdits a b ≤ n := by
  induction h with
  | nil => simp
  | pair c d _ ih =>
    rw [leastEdits_cons_cons]
    omega
  | insert d _ ih => exact (leastEdits_insert_le ..).trans (Nat.succ_le_succ ih)
  | delete c _ ih => exact (leastEdits_delete_le ..).trans (Nat.succ_le_succ ih)

theorem leastEdits_comm (a b : List Char) : leastEdits a b = leastEdits b a :=
  le_antisymm (aligned_leastEdits b a).symm.leastEdits_le (aligned_leastEdits a b).symm.leastEdits_le

/-- Nothing needs to be changed if and only if the texts are the same. -/
theorem leastEdits_eq_zero_iff {a b : List Char} : leastEdits a b = 0 ↔ a = b := by
  constructor
  · intro hzero
    have hab := aligned_leastEdits a b
    rw [hzero] at hab
    exact hab.eq_of_zero
  · rintro rfl
    exact Nat.le_zero.1 (Aligned.refl a).leastEdits_le

/-- The longer text bounds what has to be changed. -/
theorem leastEdits_le_max (a b : List Char) : leastEdits a b ≤ max a.length b.length := by
  obtain ⟨k, hk, h⟩ := Aligned.exists_le_max a b
  exact h.leastEdits_le.trans hk

/-- It makes no difference from which end the texts are read. -/
theorem leastEdits_reverse (a b : List Char) : leastEdits a.reverse b.reverse = leastEdits a b := by
  apply le_antisymm
  · exact (aligned_leastEdits a b).reverse.leastEdits_le
  · have h := (aligned_leastEdits a.reverse b.reverse).reverse
    rw [List.reverse_reverse, List.reverse_reverse] at h
    exact h.leastEdits_le

/-! ## The rows -/

/-- The entries of a row from a prefix of the target on. `p` is what was read of the source and `q` is
that prefix, both with the last character first; the target goes on behind `q`. -/
def rowFrom (p q : List Char) : List Char → List Nat
  | [] => [leastEdits p q]
  | d :: ds => leastEdits p q :: rowFrom p (d :: q) ds

theorem rowFrom_eq_cons (p q ds : List Char) :
    rowFrom p q ds = leastEdits p q :: (rowFrom p q ds).tail := by
  cases ds with
  | nil => rfl
  | cons d ds => rfl

/-- **The rest of a row** follows from its first entry and the row before it. -/
theorem distanceRow_rowFrom (c : Char) (p q ds : List Char) :
    distanceRow c (leastEdits (c :: p) q) (rowFrom p q ds) ds = (rowFrom (c :: p) q ds).tail := by
  induction ds generalizing q with
  | nil => rfl
  | cons d ds ih =>
    have hhere : min (min (leastEdits p (d :: q) + 1) (leastEdits (c :: p) q + 1))
        (leastEdits p q + if c = d then 0 else 1) = leastEdits (c :: p) (d :: q) :=
      (leastEdits_cons_cons c d p q).symm
    show distanceRow c _ (leastEdits p q :: rowFrom p (d :: q) ds) (d :: ds)
      = rowFrom (c :: p) (d :: q) ds
    rw [rowFrom_eq_cons p (d :: q) ds]
    unfold distanceRow
    rw [hhere, ← rowFrom_eq_cons]
    show leastEdits (c :: p) (d :: q) ::
      distanceRow c (leastEdits (c :: p) (d :: q)) (rowFrom p (d :: q) ds) ds = _
    rw [ih, ← rowFrom_eq_cons]

/-- **The next row** is that of a prefix with one more character. -/
theorem nextDistanceRow_rowFrom (c : Char) (p target : List Char) :
    nextDistanceRow target (rowFrom p [] target) c = rowFrom (c :: p) [] target := by
  have hrest := distanceRow_rowFrom c p [] target
  rw [leastEdits_nil_right] at hrest
  rw [rowFrom_eq_cons (c :: p), ← hrest, rowFrom_eq_cons p]
  unfold nextDistanceRow
  simp only [leastEdits_nil_right, List.length_cons]

theorem firstDistanceRow_eq (target : List Char) : firstDistanceRow target = rowFrom [] [] target := by
  have hrow : ∀ q ds : List Char, rowFrom [] q ds = List.range' q.length (ds.length + 1) := by
    intro q ds
    induction ds generalizing q with
    | nil => simp [rowFrom]
    | cons d ds ih => simp [rowFrom, ih, List.range'_succ]
  unfold firstDistanceRow
  rw [hrow, List.range_eq_range']
  rfl

/-- After a source has been read, the row is that of the whole source. -/
theorem foldl_nextDistanceRow (source target p : List Char) :
    source.foldl (nextDistanceRow target) (rowFrom p [] target)
      = rowFrom (source.reverse ++ p) [] target := by
  induction source generalizing p with
  | nil => rfl
  | cons c source ih =>
    rw [List.foldl_cons, nextDistanceRow_rowFrom, ih, List.reverse_cons, List.append_assoc]
    rfl

theorem getLast?_rowFrom (p q ds : List Char) :
    (rowFrom p q ds).getLast? = some (leastEdits p (ds.reverse ++ q)) := by
  induction ds generalizing q with
  | nil => rfl
  | cons d ds ih =>
    have hrest := ih (d :: q)
    unfold rowFrom
    rw [rowFrom_eq_cons] at hrest ⊢
    rw [List.getLast?_cons_cons, hrest, List.reverse_cons, List.append_assoc]
    rfl

/-- **The rows follow the recurrence.** -/
theorem rollingDistance_eq_leastEdits (source target : List Char) :
    rollingDistance source target = leastEdits source target := by
  unfold rollingDistance
  cases target with
  | nil => exact (leastEdits_nil_right source).symm
  | cons d ds =>
    rw [if_neg (by simp), firstDistanceRow_eq, foldl_nextDistanceRow, getLast?_rowFrom,
      Option.getD_some, List.append_nil, List.append_nil, leastEdits_reverse]

/-- It makes no difference which text is read and which one the rows go through. -/
theorem editDistance_eq_leastEdits (a b : List Char) : editDistance a b = leastEdits a b := by
  unfold editDistance
  simp only [rollingDistance_eq_leastEdits]
  split
  · exact leastEdits_comm b a
  · rfl

/-! ## The distance -/

/-- **The edit distance is the length of the shortest edit script** from one text to the other. So it is
a metric, and it lies between the difference of the lengths and the greater one. -/
theorem editDistance_isLeast (a b : List Char) :
    IsLeast {n | ∃ script : List Edit, script.length = n ∧ applyEdits script a = b}
        (editDistance a b) ∧
      editDistance a b = editDistance b a ∧
      (editDistance a b = 0 ↔ a = b) ∧
      (∀ c, editDistance a c ≤ editDistance a b + editDistance b c) ∧
      max a.length b.length - min a.length b.length ≤ editDistance a b ∧
      editDistance a b ≤ max a.length b.length := by
  simp only [editDistance_eq_leastEdits]
  have hab := aligned_leastEdits a b
  refine ⟨⟨hab.exists_script, ?_⟩, ?_, ?_, ?_, ?_, ?_⟩
  · rintro n ⟨script, rfl, rfl⟩
    obtain ⟨k, hk, h⟩ := aligned_applyEdits script a
    exact h.leastEdits_le.trans hk
  · exact leastEdits_comm a b
  · constructor
    · intro hzero
      rw [hzero] at hab
      exact hab.eq_of_zero
    · rintro rfl
      exact Nat.le_zero.1 (Aligned.refl a).leastEdits_le
  · intro c
    obtain ⟨k, hk, h⟩ := hab.compose (aligned_leastEdits b c)
    exact h.leastEdits_le.trans hk
  · obtain ⟨ha, hb⟩ := hab.length_le
    omega
  · obtain ⟨k, hk, h⟩ := Aligned.exists_le_max a b
    exact h.leastEdits_le.trans hk

example : editDistance "kitten".toList "sitting".toList = 3 := by decide

end DocLinks
