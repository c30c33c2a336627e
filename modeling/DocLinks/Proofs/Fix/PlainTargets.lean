import DocLinks.Proofs.Fix.Pieces

/-!
# Plain targets

A target is plain if it cannot be confused with what stands around it: it holds no `](` and no angle
bracket, and its parentheses are paired. Of two plain targets at most one is at the head of a piece
(`eq_of_behindTarget?`), so replacing one of them leaves the other where it is (`Occurs.replace`).
-/

namespace DocLinks

/-! ## Parentheses -/

/-- How many parentheses are open behind a text if `depth` are open before it. Closing one that is
not open is no reading. -/
def depthAfter? (depth : Nat) : List Char → Option Nat
  | [] => some depth
  | '(' :: cs => depthAfter? (depth + 1) cs
  | ')' :: cs =>
    match depth with
    | 0 => none
    | d + 1 => depthAfter? d cs
  | _ :: cs => depthAfter? depth cs

/-- Every parenthesis has its partner. -/
def Paired (cs : List Char) : Prop := depthAfter? 0 cs = some 0

instance (cs : List Char) : Decidable (Paired cs) := inferInstanceAs (Decidable (_ = _))

theorem depthAfter?_append (depth : Nat) (a b : List Char) :
    depthAfter? depth (a ++ b) = (depthAfter? depth a).bind fun d => depthAfter? d b := by
  fun_induction depthAfter? depth a <;> simp_all [depthAfter?]

/-- A closing parenthesis that has no partner before it has none at all. -/
theorem depthAfter?_close (cs : List Char) : depthAfter? 0 (')' :: cs) = none := rfl

theorem Paired.not_close {a cs : List Char} (ha : Paired a) : ¬Paired (a ++ ')' :: cs) := by
  unfold Paired at *
  rw [depthAfter?_append, ha, Option.bind_some, depthAfter?_close]
  exact nofun

/-- **The first closing parenthesis without a partner** ends a paired text, wherever the text goes
on. -/
theorem Paired.eq_of_append_close {a b r s : List Char} (ha : Paired a) (hb : Paired b)
    (h : a ++ ')' :: r = b ++ ')' :: s) : a = b := by
  rcases List.append_eq_append_iff.1 h with ⟨z, hz, hr⟩ | ⟨z, hz, hr⟩
  · rcases z with _ | ⟨c, z⟩
    · rw [hz, List.append_nil]
    · rw [List.cons_append, List.cons.injEq] at hr
      rw [hz, ← hr.1] at hb
      exact absurd hb ha.not_close
  · rcases z with _ | ⟨c, z⟩
    · rw [hz, List.append_nil]
    · rw [List.cons_append, List.cons.injEq] at hr
      rw [hz, ← hr.1] at ha
      exact absurd ha hb.not_close

/-! ## Plain targets -/

/-- A target that cannot be confused with what stands around it. -/
structure PlainTarget (cs : List Char) : Prop where
  noOpening : NoOpening cs
  noAngle : '<' ∉ cs ∧ '>' ∉ cs
  paired : Paired cs

instance (cs : List Char) : Decidable (PlainTarget cs) :=
  decidable_of_iff (NoOpening cs ∧ ('<' ∉ cs ∧ '>' ∉ cs) ∧ Paired cs)
    ⟨fun ⟨h, h', h''⟩ => ⟨h, h', h''⟩, fun ⟨h, h', h''⟩ => ⟨h, h', h''⟩⟩

variable {a b : List Char}

/-- The end of a link behind a plain target ends that target only. -/
theorem PlainTarget.eq_of_append (ha : PlainTarget a) (hb : PlainTarget b) {e e' r s : List Char}
    (he : e = [] ∨ e = ['>']) (he' : e' = [] ∨ e' = ['>'])
    (h : a ++ e ++ ')' :: r = b ++ e' ++ ')' :: s) : a = b := by
  -- Up to the first angle bracket the two texts are the targets, or all of the link.
  have key : ∀ (a b r s : List Char), '>' ∉ a → '>' ∉ b → a ++ '>' :: r = b ++ '>' :: s → a = b := by
    intro a b r s ha hb h
    have htake := congrArg (List.takeWhile (· != '>')) h
    have hall : ∀ c : List Char, '>' ∉ c → ∀ x ∈ c, (x != '>') = true := by
      intro c hc x hx
      simpa using fun h : x = '>' => hc (h ▸ hx)
    rw [List.takeWhile_append_of_pos (hall a ha), List.takeWhile_append_of_pos (hall b hb)] at htake
    simpa using htake
  have mixed : ∀ (a b r s : List Char), '>' ∉ a → Paired a → '>' ∉ b → Paired b →
      a ++ ')' :: r ≠ b ++ '>' :: ')' :: s := by
    intro a b r s ha hpa hb hpb h
    rcases List.append_eq_append_iff.1 h with ⟨z, hz, hr⟩ | ⟨z, hz, hr⟩
    · rcases z with _ | ⟨c, z⟩
      · simp at hr
      · rw [List.cons_append, List.cons.injEq] at hr
        rw [hz, ← hr.1] at hpb
        exact hpa.not_close hpb
    · rcases z with _ | ⟨c, z⟩
      · simp at hr
      · rw [List.cons_append, List.cons.injEq] at hr
        rw [hz, ← hr.1] at ha
        simp at ha
  rcases he with rfl | rfl <;> rcases he' with rfl | rfl <;>
    simp only [List.append_nil, List.append_assoc, List.singleton_append] at h
  · exact ha.paired.eq_of_append_close hb.paired h
  · exact absurd h (mixed a b r s ha.noAngle.2 ha.paired hb.noAngle.2 hb.paired)
  · exact absurd h.symm (mixed b a s r hb.noAngle.2 hb.paired ha.noAngle.2 ha.paired)
  · exact key a b _ _ ha.noAngle.2 hb.noAngle.2 h

/-- **Of two plain targets** at most one is at the head of a piece. -/
theorem eq_of_behindTarget? (ha : PlainTarget a) (hb : PlainTarget b) {p r s : List Char}
    (h : behindTarget? a p = some r) (h' : behindTarget? b p = some s) : a = b := by
  obtain ⟨o, e, rfl, ho, he⟩ := behindTarget?_eq_some.1 h
  obtain ⟨o', e', heq, ho', he'⟩ := behindTarget?_eq_some.1 h'
  have hhead : ∀ {t : List Char}, PlainTarget t → ∀ {e r}, (e = [] ∨ e = ['>']) →
      (t ++ e ++ ')' :: r).head? ≠ some '<' := by
    intro t ht e r he hcontra
    rcases t with _ | ⟨c, t⟩
    · rcases he with rfl | rfl <;> simp at hcontra
    · rw [List.cons_append, List.cons_append, List.head?_cons, Option.some.injEq] at hcontra
      exact ht.noAngle.1 (hcontra ▸ List.mem_cons_self ..)
  rcases ho with rfl | rfl <;> rcases ho' with rfl | rfl <;>
    simp only [List.nil_append, List.cons_append] at heq
  · exact ha.eq_of_append hb he he' heq
  · exact absurd (congrArg List.head? heq) (hhead ha he)
  · exact absurd (congrArg List.head? heq).symm (hhead hb he')
  · exact ha.eq_of_append hb he he' (List.cons.inj heq).2

theorem replacePiece_of_none {new p : List Char} (h : behindTarget? a p = none) :
    replacePiece a new p = p := by
  unfold replacePiece
  rw [h]

theorem replacePiece_of_some {new p rest : List Char} (h : behindTarget? a p = some rest) :
    replacePiece a new p = new ++ ')' :: rest := by
  unfold replacePiece
  rw [h]

theorem behindTarget?_of_ne (ha : PlainTarget a) (hb : PlainTarget b) (hne : b ≠ a) {p rest : List Char}
    (h : behindTarget? a p = some rest) : behindTarget? b p = none := by
  rcases hp : behindTarget? b p with _ | r
  · rfl
  · exact absurd (eq_of_behindTarget? hb ha hp h) hne

/-- A piece that another plain target is at the head of stays. -/
theorem replacePiece_of_ne (ha : PlainTarget a) (hb : PlainTarget b) (hne : b ≠ a)
    {new p rest : List Char} (h : behindTarget? a p = some rest) : replacePiece b new p = p :=
  replacePiece_of_none (behindTarget?_of_ne ha hb hne h)

/-- A target at the head of a piece, without angle brackets. -/
theorem behindTarget?_self (a rest : List Char) : behindTarget? a (a ++ ')' :: rest) = some rest :=
  behindTarget?_eq_some.2 ⟨[], [], by simp, .inl rfl, .inl rfl⟩

/-! ## Occurrences on a line -/

/-- A target is at the head of one of the pieces of a line. -/
def Occurs (target line : List Char) : Prop :=
  ∃ p ∈ (cutPieces line).2, (behindTarget? target p).isSome

/-- A target without `](` is found on a line if and only if it is at the head of a piece. -/
theorem occurs_iff_found (ha : NoOpening a) (replacement line : List Char) :
    Occurs a line ↔ (replaceOccurrences a replacement line).2 = true := by
  have hno := noOpening_cutPieces line
  have h := replaceOccurrences_joinPieces ha [] hno.1 hno.2
  rw [joinPieces_cutPieces] at h
  rw [replaceOccurrences_found_iff, ← replaceOccurrences_found_iff a (']' :: '(' :: [] ++ [')']), h,
    List.any_eq_true]
  rfl

/-- What is at the head of a piece is found on the line that the piece belongs to. -/
theorem occurs_of_mem (ha : NoOpening a) {first p : List Char} {ps : List (List Char)}
    (hp : p ∈ ps) (h : (behindTarget? a p).isSome) : Occurs a (joinPieces first ps) := by
  rw [occurs_iff_found ha [], replaceOccurrences_found_iff]
  obtain ⟨before, after, rfl⟩ := List.append_of_mem hp
  obtain ⟨rest, hrest⟩ := Option.isSome_iff_exists.1 h
  refine ⟨joinPieces first before, ']' :: '(' :: joinPieces p after, by simp [joinPieces], ?_⟩
  have happ := behindTarget?_append hrest (joinPieces [] after)
  rw [← joinPieces_eq_append] at happ
  exact Option.isSome_iff_exists.2 ⟨_, happ⟩

/-- **Replacing one plain target leaves another** where it is, whatever the new target looks
like. -/
theorem Occurs.replace (ha : PlainTarget a) (hb : PlainTarget b) (hne : b ≠ a) {line : List Char}
    (h : Occurs a line) (new : List Char) :
    Occurs a (replaceOccurrences b (']' :: '(' :: new ++ [')']) line).1 := by
  obtain ⟨p, hp, hsome⟩ := h
  obtain ⟨rest, hrest⟩ := Option.isSome_iff_exists.1 hsome
  have hno := noOpening_cutPieces line
  have hrep := replaceOccurrences_joinPieces hb.noOpening new hno.1 hno.2
  rw [joinPieces_cutPieces] at hrep
  rw [hrep]
  refine occurs_of_mem ha.noOpening (List.mem_map.2 ⟨p, hp, ?_⟩) hsome
  exact replacePiece_of_ne ha hb hne hrest

end DocLinks
