import DocLinks.Proofs.Fix.PlainTargets
import DocLinks.Proofs.Markdown.Lines
import DocLinks.Proofs.Text.Cutting
import DocLinks.Markdown.Inline

/-!
# Inline links, piece by piece

A line that is cut at every `](` has an inline link at a cut if a bracket is open before the cut and a
target can be read behind it. Nothing else on the line counts, as long as the pieces are clean: what
is read at the head of a piece ends in the piece, and no target leaves a bracket open
(`targets_scan_joinPieces`).

## Contents
- `leavesOpen`: a text with an opening bracket that is not closed.
- `inlineWith`: `angle` and `standard` are one recogniser with different ways to read a target.
- `CleanTarget`, `CleanPiece`: targets and pieces that nothing around them can be confused with.
- `openTargets`: the targets at the cuts of a line that a bracket is open before.
-/

namespace DocLinks.Markdown

open Text

/-! ## Open brackets -/

/-- Whether a text holds an opening bracket with no closing bracket behind it. -/
def leavesOpen : List Char → Bool
  | [] => false
  | c :: cs => leavesOpen cs || (c == '[' && !cs.contains ']')

theorem leavesOpen_append (a b : List Char) :
    leavesOpen (a ++ b) = (leavesOpen b || (leavesOpen a && !b.contains ']')) := by
  induction a with
  | nil => simp [leavesOpen]
  | cons c a ih =>
    simp only [List.cons_append, leavesOpen, ih, List.contains_append]
    cases leavesOpen a <;> cases leavesOpen b <;> cases b.contains ']' <;> cases a.contains ']' <;>
      simp

/-- Behind a text without open brackets only what follows counts. -/
theorem leavesOpen_append_of_closed {a : List Char} (ha : leavesOpen a = false) (b : List Char) :
    leavesOpen (a ++ b) = leavesOpen b := by
  rw [leavesOpen_append, ha, Bool.false_and, Bool.or_false]

theorem leavesOpen_cons_of_ne {c : Char} (hc : c ≠ '[') (cs : List Char) :
    leavesOpen (c :: cs) = leavesOpen cs := by
  simp [leavesOpen, hc]

/-! ## One recogniser for both spellings -/

/-- `[text](...)` with a target that is read behind the parenthesis; `overhead` is the number of
characters around text and target. -/
def inlineWith (read : List Char → Option (List Char)) (overhead : Nat) (cs : List Char) :
    Option Found :=
  match bracketed? cs with
  | some (text, '(' :: rest) =>
    (read rest).map fun target => ⟨text.length + target.length + overhead, text, target⟩
  | _ => none

/-- The target at the head of `<target>)...`. -/
def angleTarget? : List Char → Option (List Char)
  | '<' :: rest =>
    match rest.dropWhile (· != '>') with
    | '>' :: ')' :: _ =>
      if (rest.takeWhile (· != '>')).isEmpty then none else some (rest.takeWhile (· != '>'))
    | _ => none
  | _ => none

theorem standard_eq : standard = inlineWith standardTarget? 4 := rfl

theorem angle_eq : angle = inlineWith angleTarget? 6 := by
  funext cs
  unfold angle inlineWith
  rcases bracketed? cs with _ | ⟨text, rest⟩
  · rfl
  · simp only
    split
    · rename_i rest heq
      cases heq
      simp only [angleTarget?]
      generalize rest.takeWhile (· != '>') = target
      generalize rest.dropWhile (· != '>') = tail
      grind
    · -- Without an angle bracket behind the parenthesis there is nothing to read.
      rename_i hno
      split
      · rename_i rest heq
        cases heq
        have hnone : angleTarget? rest = none := by
          unfold angleTarget?
          split
          · exact absurd rfl (hno _ _)
          · rfl
        rw [hnone]
        rfl
      · rfl

/-! ## Reading a target -/

/-- What stands before the first of the characters `c` in a text is unique. -/
theorem eq_of_append_cons {c : Char} {a b r s : List Char} (ha : c ∉ a) (hb : c ∉ b)
    (h : a ++ c :: r = b ++ c :: s) : a = b ∧ r = s := by
  rcases List.append_eq_append_iff.1 h with ⟨z, hz, hr⟩ | ⟨z, hz, hr⟩ <;> rcases z with _ | ⟨d, z⟩
  · exact ⟨by rw [hz, List.append_nil], (List.cons.inj hr).2⟩
  · rw [List.cons_append, List.cons.injEq] at hr
    exact absurd (by rw [hz, ← hr.1]; simp) hb
  · exact ⟨by rw [hz, List.append_nil], (List.cons.inj hr).2.symm⟩
  · rw [List.cons_append, List.cons.injEq] at hr
    exact absurd (by rw [hz, ← hr.1]; simp) ha

/-- A character that stands only once behind a text without it ends that text. -/
theorem eq_of_append_cons_once {c : Char} {a b r s : List Char} (hb : c ∉ b) (hs : c ∉ s)
    (h : a ++ c :: r = b ++ c :: s) : a = b := by
  rcases List.append_eq_append_iff.1 h with ⟨z, hz, hr⟩ | ⟨z, hz, hr⟩ <;> rcases z with _ | ⟨d, z⟩
  · rw [hz, List.append_nil]
  · rw [List.cons_append, List.cons.injEq] at hr
    exact absurd (by rw [hz, ← hr.1]; simp) hb
  · rw [hz, List.append_nil]
  · rw [List.cons_append, List.cons.injEq] at hr
    exact absurd (by rw [hr.2]; simp) hs

/-- A text that can be the target of `[text](target)`. -/
def IsStandardTarget (cs : List Char) : Prop :=
  (cs ≠ [] ∧ ∀ c ∈ cs, isTargetChar c = true) ∨
    ∃ first group last, cs = first ++ '(' :: group ++ ')' :: last ∧ first ≠ [] ∧
      (∀ c ∈ first, isTargetChar c = true) ∧ (∀ c ∈ group, isNoParen c = true) ∧
      ∀ c ∈ last, isTargetChar c = true

/-- What is read is at the head of the text. -/
theorem isStandardTarget_of_read {cs target : List Char} (h : standardTarget? cs = some target) :
    IsStandardTarget target ∧ ∃ rest, cs = target ++ ')' :: rest := by
  unfold standardTarget? at h
  simp only at h
  split at h
  · cases h
  · rename_i hne
    have hne' : cs.takeWhile isTargetChar ≠ [] := by simpa using hne
    split at h
    · rename_i rest hrest
      rw [← Option.some.inj h]
      exact ⟨.inl ⟨hne', all_takeWhile _ _⟩, rest, takeWhile_append_dropWhile_cons hrest⟩
    · -- There is a group in parentheses.
      rename_i more hmore
      split at h
      · rename_i more' hmore'
        split at h
        · rename_i rest hrest
          rw [← Option.some.inj h]
          refine ⟨.inr ⟨_, _, _, rfl, hne', all_takeWhile _ _, all_takeWhile _ _,
            all_takeWhile _ _⟩, rest, ?_⟩
          have h₁ := takeWhile_append_dropWhile_cons hmore
          have h₂ := takeWhile_append_dropWhile_cons hmore'
          have h₃ := takeWhile_append_dropWhile_cons hrest
          calc cs = cs.takeWhile isTargetChar ++ '(' :: more := h₁
            _ = cs.takeWhile isTargetChar ++ '(' :: (more.takeWhile isNoParen ++ ')' :: more') := by
              rw [← h₂]
            _ = cs.takeWhile isTargetChar ++ '(' :: (more.takeWhile isNoParen ++
                  ')' :: (more'.takeWhile isTargetChar ++ ')' :: rest)) := by rw [← h₃]
            _ = _ := by simp
        · cases h
      · cases h
    · cases h

/-- A target is read up to the parenthesis behind it. -/
theorem IsStandardTarget.read_append {target : List Char} (h : IsStandardTarget target)
    (rest : List Char) : standardTarget? (target ++ ')' :: rest) = some target := by
  rcases h with ⟨hne, hall⟩ | ⟨first, group, last, rfl, hne, hfirst, hgroup, hlast⟩
  · unfold standardTarget?
    rw [takeWhile_append_cons hall (by decide), dropWhile_append_cons hall (by decide)]
    simp [hne]
  · have hcs : first ++ '(' :: group ++ ')' :: last ++ ')' :: rest
        = first ++ '(' :: (group ++ ')' :: (last ++ ')' :: rest)) := by simp
    rw [hcs]
    unfold standardTarget?
    rw [takeWhile_append_cons hfirst (by decide), dropWhile_append_cons hfirst (by decide)]
    simp only [List.isEmpty_eq_false_iff.2 hne, Bool.false_eq_true, if_false]
    rw [takeWhile_append_cons hgroup (by decide), dropWhile_append_cons hgroup (by decide)]
    simp only
    rw [takeWhile_append_cons hlast (by decide), dropWhile_append_cons hlast (by decide)]
    rfl

theorem standardTarget?_eq_some {cs target : List Char} :
    standardTarget? cs = some target ↔
      IsStandardTarget target ∧ ∃ rest, cs = target ++ ')' :: rest := by
  refine ⟨isStandardTarget_of_read, ?_⟩
  rintro ⟨h, rest, rfl⟩
  exact h.read_append rest

theorem angleTarget?_eq_some {cs target : List Char} :
    angleTarget? cs = some target ↔
      target ≠ [] ∧ '>' ∉ target ∧ ∃ rest, cs = '<' :: target ++ '>' :: ')' :: rest := by
  constructor
  · intro h
    unfold angleTarget? at h
    split at h
    · split at h
      · rename_i rest _ rest' hrest
        split at h
        · cases h
        · rename_i hne
          rw [← Option.some.inj h]
          refine ⟨by simpa using hne, fun hmem => ?_, rest', ?_⟩
          · simpa using all_takeWhile _ _ _ hmem
          · rw [List.cons_append, ← takeWhile_append_dropWhile_cons hrest]
      · cases h
    · cases h
  · rintro ⟨hne, hno, rest, rfl⟩
    have hall : ∀ c ∈ target, (c != '>') = true := fun c hc => by
      simpa using fun h : c = '>' => hno (h ▸ hc)
    unfold angleTarget?
    simp only [List.cons_append]
    rw [takeWhile_append_cons hall (by decide), dropWhile_append_cons hall (by decide)]
    simp [hne]

/-! ## Clean pieces -/

/-- A plain target that leaves no bracket open. -/
structure CleanTarget (cs : List Char) : Prop extends PlainTarget cs where
  closed : leavesOpen cs = false

instance (cs : List Char) : Decidable (CleanTarget cs) :=
  decidable_of_iff (PlainTarget cs ∧ leavesOpen cs = false) ⟨fun ⟨h, h'⟩ => ⟨h, h'⟩, fun ⟨h, h'⟩ => ⟨h, h'⟩⟩

/-- A piece of a line of which something may be read as a target: what is read ends in the piece, and
is clean. -/
structure CleanPiece (p : List Char) : Prop where
  noOpening : NoOpening p
  stops : ∃ c ∈ p, isTargetChar c = false
  closes : p.head? = some '<' → '>' ∈ p
  standard : ∀ target ∈ standardTarget? p, CleanTarget target
  angle : ∀ target ∈ angleTarget? p, CleanTarget target

instance (p : List Char) : Decidable (CleanPiece p) :=
  haveI : Decidable (∃ c ∈ p, isTargetChar c = false) := List.decidableBEx _ p
  decidable_of_iff (NoOpening p ∧ (∃ c ∈ p, isTargetChar c = false) ∧
      (p.head? = some '<' → '>' ∈ p) ∧ (∀ target ∈ standardTarget? p, CleanTarget target) ∧
      ∀ target ∈ angleTarget? p, CleanTarget target)
    ⟨fun ⟨h, h', h'', ht, ht'⟩ => ⟨h, h', h'', ht, ht'⟩,
      fun ⟨h, h', h'', ht, ht'⟩ => ⟨h, h', h'', ht, ht'⟩⟩

/-- A standard target does not reach beyond a clean piece. -/
theorem CleanPiece.standardTarget?_append {p : List Char} (hp : CleanPiece p) (tail : List Char) :
    standardTarget? (p ++ ']' :: '(' :: tail) = standardTarget? p := by
  refine Option.ext fun target => ?_
  rw [standardTarget?_eq_some, standardTarget?_eq_some]
  refine and_congr_right fun hshape => ⟨?_, fun ⟨rest, h⟩ => ⟨rest ++ ']' :: '(' :: tail, by simp [h]⟩⟩
  rintro ⟨rest, h⟩
  rcases List.append_eq_append_iff.1 h with ⟨z, hz, hr⟩ | ⟨z, hz, hr⟩
  · -- The target would hold the cut; its only opening parenthesis would be that of the cut.
    rcases z with _ | ⟨c, _ | ⟨d, z⟩⟩
    · simp at hr
    · simp at hr
    · simp only [List.cons_append, List.cons.injEq] at hr
      obtain ⟨rfl, rfl, -⟩ := hr
      obtain ⟨c, hc, hstop⟩ := hp.stops
      rcases hshape with ⟨-, hall⟩ | ⟨first, group, last, htarget, -, hfirst, hgroup, hlast⟩
      · have := hall '(' (by rw [hz]; simp)
        simp [isTargetChar] at this
      · have hparen : '(' ∉ group ++ ')' :: last := by
          rw [List.mem_append, List.mem_cons]
          rintro (h | h | h)
          · exact absurd (hgroup _ h) (by decide)
          · cases h
          · exact absurd (hlast _ h) (by decide)
        have hcut : (p ++ [']']) ++ '(' :: z = first ++ '(' :: (group ++ ')' :: last) := by
          simpa [hz] using htarget
        have hfst : p ++ [']'] = first :=
          eq_of_append_cons_once (fun h => absurd (hfirst _ h) (by decide)) hparen hcut
        have := hfirst c (by rw [← hfst]; simp [hc])
        rw [hstop] at this
        cases this
  · rcases z with _ | ⟨c, z⟩
    · simp at hr
    · rw [List.cons_append, List.cons.injEq] at hr
      exact ⟨z, by rw [hz, ← hr.1]⟩

/-- A target in angle brackets does not reach beyond a clean piece. -/
theorem CleanPiece.angleTarget?_append {p : List Char} (hp : CleanPiece p) (tail : List Char) :
    angleTarget? (p ++ ']' :: '(' :: tail) = angleTarget? p := by
  refine Option.ext fun target => ?_
  rw [angleTarget?_eq_some, angleTarget?_eq_some]
  refine and_congr_right fun _ => and_congr_right fun hno =>
    ⟨?_, fun ⟨rest, h⟩ => ⟨rest ++ ']' :: '(' :: tail, by simp [h]⟩⟩
  rintro ⟨rest, h⟩
  rcases p with _ | ⟨c, p⟩
  · simp at h
  · simp only [List.cons_append, List.cons.injEq] at h
    obtain ⟨rfl, h⟩ := h
    have hmem : '>' ∈ p := by simpa using hp.closes rfl
    obtain ⟨u, v, rfl, hu⟩ := List.eq_append_cons_of_mem hmem
    rw [List.append_assoc, List.cons_append] at h
    obtain ⟨rfl, hv⟩ := eq_of_append_cons hu hno h
    rcases v with _ | ⟨d, v⟩
    · simp at hv
    · rw [List.cons_append, List.cons.injEq] at hv
      exact ⟨v, by rw [hv.1]; rfl⟩

/-- A way to read the target of an inline link. -/
structure ReadsTarget (read : List Char → Option (List Char)) (overhead : Nat) : Prop where
  /-- What is read is at the head of the text, in angle brackets or not. -/
  head : ∀ {p target}, read p = some target → ∃ before after rest,
    p = before ++ target ++ after ++ ')' :: rest ∧ (before = [] ∨ before = ['<']) ∧
      (after = [] ∨ after = ['>']) ∧ before.length + after.length + 4 = overhead
  local_ : ∀ {p}, CleanPiece p → ∀ tail, read (p ++ ']' :: '(' :: tail) = read p
  clean : ∀ {p target}, CleanPiece p → read p = some target → CleanTarget target

theorem readsTarget_standard : ReadsTarget standardTarget? 4 where
  head h := by
    obtain ⟨_, rest, hp⟩ := standardTarget?_eq_some.1 h
    exact ⟨[], [], rest, by simpa using hp, .inl rfl, .inl rfl, rfl⟩
  local_ hp := hp.standardTarget?_append
  clean hp h := hp.standard _ h

theorem readsTarget_angle : ReadsTarget angleTarget? 6 where
  head h := by
    obtain ⟨_, _, rest, hp⟩ := angleTarget?_eq_some.1 h
    exact ⟨['<'], ['>'], rest, by simpa using hp, .inr rfl, .inr rfl, rfl⟩
  local_ hp := hp.angleTarget?_append
  clean hp h := hp.angle _ h

/-! ## The targets of a line -/

/-- The targets at the cuts of a line that a bracket is open before. -/
def openTargets (read : List Char → Option (List Char)) :
    List Char → List (List Char) → List (List Char)
  | _, [] => []
  | q, p :: ps => (if leavesOpen q then (read p).toList else []) ++ openTargets read p ps

/-- Where a target of a line stands. -/
theorem mem_openTargets_iff {read : List Char → Option (List Char)} {first target : List Char}
    {ps : List (List Char)} :
    target ∈ openTargets read first ps ↔ ∃ (i : Nat) (q p : List Char), (first :: ps)[i]? = some q ∧
      ps[i]? = some p ∧ leavesOpen q = true ∧ read p = some target := by
  induction ps generalizing first with
  | nil => simp [openTargets]
  | cons p ps ih =>
    rw [openTargets, List.mem_append, ih]
    constructor
    · rintro (h | ⟨i, q, p', hq, hp', hopen, hread⟩)
      · split at h
        · rename_i hopen
          exact ⟨0, first, p, rfl, rfl, hopen, Option.mem_toList.1 h⟩
        · cases h
      · exact ⟨i + 1, q, p', hq, hp', hopen, hread⟩
    · rintro ⟨i, q, p', hq, hp', hopen, hread⟩
      rcases i with _ | i
      · cases hq
        cases hp'
        rw [if_pos hopen]
        exact .inl (Option.mem_toList.2 hread)
      · exact .inr ⟨i, q, p', hq, hp', hopen, hread⟩

/-- Only the brackets that the first piece leaves open count. -/
theorem openTargets_congr {read : List Char → Option (List Char)} {q q' : List Char}
    (h : leavesOpen q = leavesOpen q') (ps : List (List Char)) :
    openTargets read q ps = openTargets read q' ps := by
  cases ps <;> simp [openTargets, h]

theorem scan_nil (recognise : List Char → Option Found) (start : Nat) :
    scan recognise start [] = [] := by
  unfold scan
  rfl

theorem scan_of_none {recognise : List Char → Option Found} {c : Char} {cs : List Char}
    (h : recognise (c :: cs) = none) (start : Nat) :
    scan recognise start (c :: cs) = scan recognise (start + 1) cs := by
  rw [scan, h]

theorem scan_of_some {recognise : List Char → Option Found} {c : Char} {cs : List Char} {f : Found}
    (h : recognise (c :: cs) = some f) (start : Nat) :
    scan recognise start (c :: cs) = ⟨start, (c :: cs).take f.length, f⟩ ::
      scan recognise (start + 1 + (f.length - 1)) (cs.drop (f.length - 1)) := by
  rw [scan, h]

section Scan

variable {read : List Char → Option (List Char)} {overhead : Nat}

theorem inlineWith_of_ne {c : Char} (hc : c ≠ '[') (cs : List Char) :
    inlineWith read overhead (c :: cs) = none := by
  unfold inlineWith bracketed?
  split
  · rename_i h
    split at h
    · rename_i heq
      cases heq
      exact absurd rfl hc
    · cases h
  · rfl

/-- A bracket that is closed in its piece opens no link. -/
theorem inlineWith_of_closed {q : List Char} (hq : NoOpening q) (hclosed : ']' ∈ q)
    (tail : List Char) (hjoin : tail.head? ≠ some '(') :
    inlineWith read overhead ('[' :: (q ++ tail)) = none := by
  obtain ⟨u, v, rfl, hu⟩ := List.eq_append_cons_of_mem hclosed
  have hall : ∀ c ∈ u, (c != ']') = true := fun c hc => by
    simpa using fun h : c = ']' => hu (h ▸ hc)
  have hdrop : (u ++ ']' :: v ++ tail).dropWhile (· != ']') = ']' :: (v ++ tail) := by
    rw [List.append_assoc, List.cons_append]
    exact dropWhile_append_cons hall (by decide) _
  have hhead : (v ++ tail).head? ≠ some '(' := by
    rcases v with _ | ⟨d, v⟩
    · exact hjoin
    · have := (noOpening_cons_iff.1 (noOpening_append_iff.1 hq).2.1).1
      simpa using this
  unfold inlineWith bracketed?
  simp only [hdrop]
  generalize v ++ tail = more at hhead
  split
  · rename_i h
    cases h
    exact absurd rfl hhead
  · rfl

/-- A bracket that is open before a cut makes a link of what can be read behind the cut. -/
theorem inlineWith_of_open {q : List Char} (hopen : ']' ∉ q) (tail : List Char) :
    inlineWith read overhead ('[' :: (q ++ ']' :: '(' :: tail))
      = (read tail).map fun target => ⟨q.length + target.length + overhead, q, target⟩ := by
  have hall : ∀ c ∈ q, (c != ']') = true := fun c hc => by
    simpa using fun h : c = ']' => hopen (h ▸ hc)
  unfold inlineWith bracketed?
  simp only [dropWhile_append_cons hall (c := ']') (by decide),
    takeWhile_append_cons hall (c := ']') (by decide)]

/-- A bracket that nothing closes opens no link. -/
theorem inlineWith_of_unclosed {q : List Char} (hopen : ']' ∉ q) :
    inlineWith read overhead ('[' :: q) = none := by
  have hdrop : q.dropWhile (· != ']') = [] := by
    rw [List.dropWhile_eq_nil_iff]
    intro c hc
    simpa using fun h : c = ']' => hopen (h ▸ hc)
  unfold inlineWith bracketed?
  simp only [hdrop]

theorem read_joinPieces (hread : ReadsTarget read overhead) {p : List Char} (hp : CleanPiece p)
    (ps : List (List Char)) : read (joinPieces p ps) = read p := by
  rcases ps with _ | ⟨p', ps⟩
  · rw [joinPieces_nil]
  · rw [joinPieces_cons]
    exact hread.local_ hp _

/-- A bracket that is open before a cut makes a link of what can be read at the head of the piece behind
the cut. -/
theorem inlineWith_joinPieces_of_open (hread : ReadsTarget read overhead) {q p : List Char}
    (hopen : ']' ∉ q) (hp : CleanPiece p) (ps : List (List Char)) :
    inlineWith read overhead ('[' :: joinPieces q (p :: ps))
      = (read p).map fun target => ⟨q.length + target.length + overhead, q, target⟩ := by
  rw [joinPieces_cons, inlineWith_of_open hopen, read_joinPieces hread hp]

/-- Behind the target that was read at the head of a piece, the line goes on in that piece. What is left
of the piece has a bracket open if the piece has. -/
theorem exists_rest_of_read (hread : ReadsTarget read overhead) {p target : List Char} (hp : CleanPiece p)
    (ht : read p = some target) :
    ∃ rest, NoOpening rest ∧ leavesOpen rest = leavesOpen p ∧ ∀ q ps,
      (joinPieces q (p :: ps)).drop (q.length + target.length + overhead - 1) = joinPieces rest ps := by
  obtain ⟨before, after, rest, hpeq, hb, ha, hlen⟩ := hread.head ht
  have hclean := hread.clean hp ht
  refine ⟨rest, ?_, ?_, fun q ps => ?_⟩
  · exact hp.noOpening.of_infix ⟨before ++ target ++ after ++ [')'], [], by rw [hpeq]; simp⟩
  · have hclosed : leavesOpen (before ++ target ++ after ++ [')']) = false := by
      rcases hb with rfl | rfl <;> rcases ha with rfl | rfl <;>
        simp [leavesOpen_append, leavesOpen, hclean.closed]
    rw [hpeq, ← List.singleton_append, ← List.append_assoc, leavesOpen_append_of_closed hclosed]
  · have hsplit : joinPieces q (p :: ps)
        = (q ++ [']', '('] ++ before ++ target ++ after ++ [')']) ++ joinPieces rest ps := by
      rw [joinPieces_cons, joinPieces_eq_append p, hpeq, joinPieces_eq_append rest]
      simp
    rw [hsplit]
    exact List.drop_left' (by simp; omega)

/-- **The inline links of a line** have the targets that can be read behind the cuts of the line that
a bracket is open before. -/
theorem targets_scan_joinPieces (hread : ReadsTarget read overhead) {first : List Char}
    {ps : List (List Char)} (hfirst : NoOpening first) (hps : ∀ p ∈ ps, CleanPiece p) (start : Nat) :
    (scan (inlineWith read overhead) start (joinPieces first ps)).map (·.found.target)
      = openTargets read first ps := by
  -- Each step of the scan leaves a shorter line.
  induction hn : (joinPieces first ps).length using Nat.strongRecOn generalizing first ps start with
  | ind n ih =>
    rcases first with _ | ⟨c, q⟩
    · rcases ps with _ | ⟨p, ps⟩
      · rw [joinPieces_nil, scan_nil]
        rfl
      · have hp := hps p (List.mem_cons_self ..)
        rw [joinPieces_cons, List.nil_append, scan_of_none (inlineWith_of_ne (by decide) _),
          scan_of_none (inlineWith_of_ne (by decide) _),
          ih _ (by simp only [← hn, joinPieces_cons, List.length_cons, List.length_append]; omega) hp.noOpening
            (fun p hp => hps p (List.mem_cons_of_mem _ hp)) _ rfl]
        rfl
    · rw [← cons_joinPieces]
      have hskip : inlineWith read overhead (c :: joinPieces q ps) = none →
          openTargets read (c :: q) ps = openTargets read q ps →
          (scan (inlineWith read overhead) start (c :: joinPieces q ps)).map (·.found.target)
            = openTargets read (c :: q) ps := by
        intro hnone hsame
        rw [scan_of_none hnone, hsame]
        exact ih _ (by rw [← hn, ← cons_joinPieces]; simp) hfirst.tail hps _ rfl
      by_cases hc : c = '['
      · subst hc
        by_cases hclosed : ']' ∈ q
        · refine hskip ?_ (openTargets_congr (by simp [leavesOpen, hclosed]) ps)
          rw [joinPieces_eq_append]
          refine inlineWith_of_closed hfirst.tail hclosed _ ?_
          rcases joinPieces_nil_eq ps with h | ⟨more, h⟩ <;> rw [h] <;> simp
        · rcases ps with _ | ⟨p, ps⟩
          · exact hskip (by rw [joinPieces_nil]; exact inlineWith_of_unclosed hclosed) rfl
          · have hp := hps p (List.mem_cons_self ..)
            have hopen : leavesOpen ('[' :: q) = true := by simp [leavesOpen, hclosed]
            have hrec := inlineWith_joinPieces_of_open hread hclosed hp ps
            rcases ht : read p with _ | target
            · refine hskip (by rw [hrec, ht]; rfl) ?_
              simp [openTargets, ht]
            · -- The scan goes on behind the target, in the same piece.
              obtain ⟨rest, hno, hrest, hdrop⟩ := exists_rest_of_read hread hp ht
              rw [ht, Option.map_some] at hrec
              have hshort : (joinPieces rest ps).length < n := by
                rw [← hn, ← cons_joinPieces, ← hdrop q, List.length_drop, List.length_cons]
                omega
              rw [scan_of_some hrec, hdrop, List.map_cons,
                ih _ hshort hno (fun p hp => hps p (List.mem_cons_of_mem _ hp)) _ rfl,
                openTargets_congr hrest ps, openTargets, if_pos hopen, ht]
              rfl
      · exact hskip (inlineWith_of_ne hc _) (openTargets_congr (leavesOpen_cons_of_ne hc q) ps)

/-! ## The source text of an inline link -/

theorem inlineWith_eq_some {cs : List Char} {f : Found} (h : inlineWith read overhead cs = some f) :
    ∃ rest, cs = '[' :: (f.text ++ ']' :: '(' :: rest) ∧ read rest = some f.target ∧
      f.length = f.text.length + f.target.length + overhead := by
  unfold inlineWith at h
  split at h
  · rename_i text rest hbracketed
    obtain ⟨target, htarget, rfl⟩ := Option.map_eq_some_iff.1 h
    refine ⟨rest, ?_, htarget, rfl⟩
    unfold bracketed? at hbracketed
    split at hbracketed
    · split at hbracketed
      · cases hbracketed
      · rename_i inner _ c after hdrop
        cases hbracketed
        have hc : c = ']' := by
          have := List.head?_dropWhile_not (· != ']') inner
          rw [hdrop] at this
          simpa using this
        subst hc
        exact congrArg ('[' :: ·) (takeWhile_append_dropWhile_cons hdrop)
    · cases hbracketed
  · cases h

/-- **The source text of an inline link**: its text in brackets, and its target in parentheses. -/
theorem raw_of_mem_inline (hread : ReadsTarget read overhead) {start : Nat} {cs : List Char} {m : Match}
    (h : m ∈ scan (inlineWith read overhead) start cs) :
    ∃ before after, m.raw = '[' :: m.found.text ++ ']' :: '(' ::
        (before ++ m.found.target ++ after ++ [')']) ∧
      (before = [] ∨ before = ['<']) ∧ (after = [] ∨ after = ['>']) := by
  obtain ⟨-, c, tail, -, -, hsome, hraw⟩ := mem_scan h
  obtain ⟨rest, hcs, htarget, hlength⟩ := inlineWith_eq_some hsome
  obtain ⟨before, after, rest', hrest, hb, ha, hoverhead⟩ := hread.head htarget
  refine ⟨before, after, ?_, hb, ha⟩
  have hsplit : c :: tail = ('[' :: m.found.text ++ ']' :: '(' ::
      (before ++ m.found.target ++ after ++ [')'])) ++ rest' := by
    rw [hcs, hrest]
    simp
  rw [hraw, hsplit]
  exact List.take_left' (by simp; omega)

end Scan

end DocLinks.Markdown
