import DocLinks.Proofs.Fix.Occurrences
import Mathlib.Data.List.Infix

/-!
# The pieces of a line

A line is cut at every `](`. Behind each cut there is one piece, and the target of a link is at the
head of its piece. A target that holds no `](` itself occurs at the head of pieces only, so replacing
it goes piece by piece (`replaceOccurrences_joinPieces`), and what precedes the first cut is never
touched.

## Contents
- `NoOpening`, `cutPieces`, `joinPieces`: cutting a line and joining it again.
- `behindTarget?`, `replacePiece`: a target at the head of a piece.
- `Paired`: parentheses that are paired; of two paired targets without angle brackets at most one is
  at the head of a piece (`eq_of_behindTarget?`).
-/

namespace DocLinks

/-- A text without `](`. -/
def NoOpening (cs : List Char) : Prop := ¬[']', '('] <:+: cs

instance (cs : List Char) : Decidable (NoOpening cs) := inferInstanceAs (Decidable ¬_)

/-- A text cut at every `](`: what precedes the first, and what follows each of them. -/
def cutPieces : List Char → List Char × List (List Char)
  | [] => ([], [])
  | ']' :: '(' :: cs => ([], (cutPieces cs).1 :: (cutPieces cs).2)
  | c :: cs => (c :: (cutPieces cs).1, (cutPieces cs).2)

/-- The text with the given pieces. -/
def joinPieces (first : List Char) (ps : List (List Char)) : List Char :=
  first ++ ps.flatMap fun p => ']' :: '(' :: p

@[simp] theorem joinPieces_nil (first : List Char) : joinPieces first [] = first := by
  simp [joinPieces]

theorem joinPieces_cons (first p : List Char) (ps : List (List Char)) :
    joinPieces first (p :: ps) = first ++ ']' :: '(' :: joinPieces p ps := by
  simp [joinPieces]

theorem cons_joinPieces (c : Char) (first : List Char) (ps : List (List Char)) :
    c :: joinPieces first ps = joinPieces (c :: first) ps := rfl

@[simp] theorem joinPieces_cutPieces (cs : List Char) :
    joinPieces (cutPieces cs).1 (cutPieces cs).2 = cs := by
  fun_induction cutPieces cs with
  | case1 => rfl
  | case2 cs ih => rw [joinPieces_cons, ih]; rfl
  | case3 c cs _ ih => rw [← cons_joinPieces, ih]

/-! ## Texts without a cut -/

theorem noOpening_nil : NoOpening [] := by decide

theorem NoOpening.of_infix {a b : List Char} (h : NoOpening b) (hab : a <:+: b) : NoOpening a :=
  fun ha => h (ha.trans hab)

theorem NoOpening.tail {c : Char} {cs : List Char} (h : NoOpening (c :: cs)) : NoOpening cs :=
  h.of_infix (List.suffix_cons c cs).isInfix

theorem noOpening_cons_iff {c : Char} {cs : List Char} :
    NoOpening (c :: cs) ↔ ¬(c = ']' ∧ cs.head? = some '(') ∧ NoOpening cs := by
  unfold NoOpening
  rw [List.infix_cons_iff, not_or]
  refine and_congr_left fun _ => not_congr ?_
  rcases cs with _ | ⟨d, cs⟩ <;> simp [List.cons_prefix_cons, eq_comm]

/-- A junction makes no `](` unless it is one itself. -/
theorem noOpening_append_iff {a b : List Char} :
    NoOpening (a ++ b) ↔
      NoOpening a ∧ NoOpening b ∧ ¬(a.getLast? = some ']' ∧ b.head? = some '(') := by
  induction a with
  | nil => simp [noOpening_nil]
  | cons c a ih =>
    rw [List.cons_append, noOpening_cons_iff, noOpening_cons_iff, ih]
    rcases a with _ | ⟨d, a⟩
    · simp only [List.nil_append, List.head?_nil, List.getLast?_nil, List.getLast?_singleton,
        Option.some.injEq, reduceCtorEq, and_false, false_and, not_false_eq_true, true_and, and_true,
        noOpening_nil]
      exact and_comm
    · simp only [List.cons_append, List.head?_cons, List.getLast?_cons_cons]
      exact ⟨fun ⟨h, ha, hb, hab⟩ => ⟨⟨h, ha⟩, hb, hab⟩, fun ⟨⟨h, ha⟩, hb, hab⟩ => ⟨h, ha, hb, hab⟩⟩

/-- If a text without a cut meets what follows without making one, then so does its tail. -/
theorem not_opening_of_cons {c : Char} {p tail : List Char} (hp : NoOpening (c :: p))
    (hjoin : ¬((c :: p).getLast? = some ']' ∧ tail.head? = some '(')) :
    ¬(c = ']' ∧ (p ++ tail).head? = some '(') ∧
      ¬(p.getLast? = some ']' ∧ tail.head? = some '(') := by
  rcases p with _ | ⟨d, p⟩
  · exact ⟨by simpa using hjoin, by simp⟩
  · exact ⟨by simpa using (noOpening_cons_iff.1 hp).1, by simpa [List.getLast?_cons_cons] using hjoin⟩

theorem noOpening_cutPieces (cs : List Char) :
    NoOpening (cutPieces cs).1 ∧ ∀ p ∈ (cutPieces cs).2, NoOpening p := by
  fun_induction cutPieces cs with
  | case1 => exact ⟨noOpening_nil, by simp⟩
  | case2 cs ih => exact ⟨noOpening_nil, List.forall_mem_cons.2 ih⟩
  | case3 c cs hne ih =>
    refine ⟨noOpening_cons_iff.2 ⟨?_, ih.1⟩, ih.2⟩
    rintro ⟨rfl, hhead⟩
    -- A cut that starts with an opening parenthesis comes from a text that does.
    rcases cs with _ | ⟨d, cs⟩
    · cases hhead
    · by_cases hd : d = '('
      · exact hne cs rfl (by rw [hd])
      · unfold cutPieces at hhead
        split at hhead
        · rename_i h; cases h
        · cases hhead
        · rename_i h
          cases h
          exact hd (Option.some.inj hhead)

theorem cutPieces_of_noOpening {p : List Char} (hp : NoOpening p) (tail : List Char)
    (hjoin : ¬(p.getLast? = some ']' ∧ tail.head? = some '(')) :
    cutPieces (p ++ tail) = (p ++ (cutPieces tail).1, (cutPieces tail).2) := by
  induction p with
  | nil => rfl
  | cons c p ih =>
    obtain ⟨hhead, hjoin'⟩ := not_opening_of_cons hp hjoin
    rw [List.cons_append, cutPieces, ih hp.tail hjoin']
    · rfl
    · rintro cs rfl hcs
      exact hhead ⟨rfl, by rw [hcs]; rfl⟩

/-- Pieces without a cut are what their text is cut into. -/
theorem cutPieces_joinPieces {first : List Char} {ps : List (List Char)} (hfirst : NoOpening first)
    (hps : ∀ p ∈ ps, NoOpening p) : cutPieces (joinPieces first ps) = (first, ps) := by
  induction ps generalizing first with
  | nil =>
    rw [joinPieces_nil]
    have h := cutPieces_of_noOpening hfirst [] (by simp)
    simpa [cutPieces] using h
  | cons p ps ih =>
    rw [joinPieces_cons, cutPieces_of_noOpening hfirst _ (by simp), cutPieces,
      ih (hps p (List.mem_cons_self ..)) fun q hq => hps q (List.mem_cons_of_mem _ hq)]
    simp

/-! ## A target at the head of a piece -/

/-- What follows the link to a target at the head of a piece. -/
def behindTarget? (target p : List Char) : Option (List Char) := occurrence? target (']' :: '(' :: p)

/-- The piece with a new target in place of the old one, if that is at its head. -/
def replacePiece (target new p : List Char) : List Char :=
  match behindTarget? target p with
  | some rest => new ++ ')' :: rest
  | none => p

variable {target new : List Char}

/-- The ways in which a target is at the head of a piece. -/
theorem behindTarget?_eq_some {p rest : List Char} :
    behindTarget? target p = some rest ↔ ∃ before after, p = before ++ target ++ after ++ ')' :: rest ∧
      (before = [] ∨ before = ['<']) ∧ (after = [] ∨ after = ['>']) := by
  unfold behindTarget?
  rw [occurrence?_eq_some_iff]
  simp only [List.cons.injEq, true_and]

/-- A target at the head of a piece is there whatever follows the piece. -/
theorem behindTarget?_append {p rest : List Char} (h : behindTarget? target p = some rest)
    (more : List Char) : behindTarget? target (p ++ more) = some (rest ++ more) := by
  obtain ⟨before, after, rfl, hb, ha⟩ := behindTarget?_eq_some.1 h
  exact behindTarget?_eq_some.2 ⟨before, after, by simp, hb, ha⟩

/-- What comes behind a piece: nothing, or the next cut. -/
theorem joinPieces_nil_eq (ps : List (List Char)) :
    joinPieces [] ps = [] ∨ ∃ more, joinPieces [] ps = ']' :: '(' :: more := by
  rcases ps with _ | ⟨p, ps⟩
  · exact .inl rfl
  · exact .inr ⟨joinPieces p ps, by rw [joinPieces_cons]; rfl⟩

theorem joinPieces_eq_append (first : List Char) (ps : List (List Char)) :
    joinPieces first ps = first ++ joinPieces [] ps := by
  simp [joinPieces]

/-- A target without `](` does not reach beyond the piece at whose head it is. -/
theorem behindTarget?_joinPieces (ht : NoOpening target) {p : List Char} (ps : List (List Char)) :
    behindTarget? target (joinPieces p ps)
      = (behindTarget? target p).map fun rest => joinPieces rest ps := by
  rw [joinPieces_eq_append p ps]
  rcases hp : behindTarget? target p with _ | rest
  · rw [Option.map_none]
    rcases hq : behindTarget? target (p ++ joinPieces [] ps) with _ | rest
    · rfl
    · exfalso
      obtain ⟨before, after, heq, hb, ha⟩ := behindTarget?_eq_some.1 hq
      have hno : NoOpening (before ++ target ++ after ++ [')']) := by
        rcases hb with rfl | rfl <;> rcases ha with rfl | rfl <;>
          simp [noOpening_append_iff, noOpening_cons_iff, ht, noOpening_nil]
      have heq' : p ++ joinPieces [] ps = before ++ target ++ after ++ [')'] ++ rest := by
        rw [heq]; simp
      rcases List.append_eq_append_iff.1 heq' with ⟨z, hz, hmore⟩ | ⟨z, hz, _⟩
      · -- The link ends behind the piece.
        rcases z with _ | ⟨c, z⟩
        · rw [List.append_nil] at hz
          have hsome : behindTarget? target p = some [] :=
            behindTarget?_eq_some.2 ⟨before, after, by rw [← hz], hb, ha⟩
          rw [hp] at hsome
          cases hsome
        · rcases joinPieces_nil_eq ps with hnil | ⟨more, hcut⟩
          · rw [hnil] at hmore
            cases hmore
          · rw [hcut, List.cons_append, List.cons.injEq] at hmore
            obtain ⟨rfl, hmore⟩ := hmore
            rcases z with _ | ⟨d, z⟩
            · have hlast := congrArg List.getLast? hz
              simp at hlast
            · rw [List.cons_append, List.cons.injEq] at hmore
              obtain ⟨rfl, -⟩ := hmore
              rw [hz, noOpening_append_iff] at hno
              exact absurd (noOpening_cons_iff.1 hno.2.1).1 (by simp)
      · have hsome : behindTarget? target p = some z :=
          behindTarget?_eq_some.2 ⟨before, after, by rw [hz]; simp, hb, ha⟩
        rw [hp] at hsome
        cases hsome
  · rw [behindTarget?_append hp, Option.map_some, ← joinPieces_eq_append]

/-- Before the first cut there is nothing to replace. -/
theorem replaceOccurrences_of_noOpening {replacement p : List Char} (hp : NoOpening p)
    (tail : List Char) (hjoin : ¬(p.getLast? = some ']' ∧ tail.head? = some '(')) :
    replaceOccurrences target replacement (p ++ tail)
      = (p ++ (replaceOccurrences target replacement tail).1,
        (replaceOccurrences target replacement tail).2) := by
  induction p with
  | nil => rfl
  | cons c p ih =>
    obtain ⟨hhead, hjoin'⟩ := not_opening_of_cons hp hjoin
    have hnone : occurrence? target (c :: (p ++ tail)) = none := by
      rcases ho : occurrence? target (c :: (p ++ tail)) with _ | rest
      · rfl
      · obtain ⟨before, after, hcs, -, -⟩ := occurrence?_eq_some_iff.1 ho
        simp only [List.cons.injEq] at hcs
        exact absurd ⟨hcs.1, by rw [hcs.2]; rfl⟩ hhead
    rw [List.cons_append, replaceOccurrences_cons, hnone]
    simp only [ih hp.tail hjoin', List.cons_append]

/-- **Replacing goes piece by piece.** -/
theorem replaceOccurrences_joinPieces (ht : NoOpening target) (new : List Char) {first : List Char}
    {ps : List (List Char)} (hfirst : NoOpening first) (hps : ∀ p ∈ ps, NoOpening p) :
    replaceOccurrences target (']' :: '(' :: new ++ [')']) (joinPieces first ps)
      = (joinPieces first (ps.map (replacePiece target new)),
        ps.any fun p => (behindTarget? target p).isSome) := by
  induction ps generalizing first with
  | nil =>
    rw [joinPieces_nil, ← List.append_nil first, replaceOccurrences_of_noOpening hfirst [] (by simp)]
    simp
  | cons p ps ih =>
    have hp := hps p (List.mem_cons_self ..)
    have hps' := fun q hq => hps q (List.mem_cons_of_mem _ hq)
    rw [joinPieces_cons, replaceOccurrences_of_noOpening hfirst _ (by simp), replaceOccurrences_cons]
    have hbehind := behindTarget?_joinPieces ht (p := p) ps
    unfold behindTarget? at hbehind
    rw [hbehind, List.map_cons, List.any_cons, joinPieces_cons]
    rcases hr : occurrence? target (']' :: '(' :: p) with _ | rest
    · have hpiece : replacePiece target new p = p := by
        unfold replacePiece behindTarget?; rw [hr]
      have htail : NoOpening ('(' :: p) := noOpening_cons_iff.2 ⟨by simp, hp⟩
      have hparen : replaceOccurrences target (']' :: '(' :: new ++ [')']) ('(' :: joinPieces p ps)
          = ('(' :: joinPieces p (ps.map (replacePiece target new)),
            ps.any fun p => (behindTarget? target p).isSome) := by
        rw [cons_joinPieces, ih htail hps']
        rfl
      simp only [Option.map_none, hparen, hpiece, behindTarget?, hr, Option.isSome_none,
        Bool.false_or]
    · have hrest : NoOpening rest := by
        obtain ⟨before, after, heq, -, -⟩ := behindTarget?_eq_some.1 hr
        exact hp.of_infix ⟨before ++ target ++ after ++ [')'], [], by rw [heq]; simp⟩
      have hpiece : replacePiece target new p = new ++ ')' :: rest := by
        unfold replacePiece behindTarget?; rw [hr]
      simp only [Option.map_some, ih hrest hps', hpiece, behindTarget?, hr, Option.isSome_some,
        Bool.true_or]
      simp [joinPieces]

end DocLinks
