import DocLinks.Proofs.Markdown.Inline

/-!
# Attributes on a line whose targets are replaced

The links that a line makes by attributes are found by quotes and angle brackets. A line whose inline
targets are replaced is read the same way, as long as neither the old targets nor the new ones hold
such characters: the same attributes are found, and their values differ at most where a target stands
in them (`exists_mem_targets`).

## Contents
- `Rewritten`: two lines that differ in targets without quotes and angle brackets.
- `SameReading`: two matches that end at corresponding places.
- `exists_mem_targets`, `mem_targets_of_rewritten`: a link by an attribute is found again.
-/

namespace DocLinks.Markdown

open Text

/-! ## Lines that differ in targets -/

/-- A character that matters to reading attributes. -/
def isMark (c : Char) : Bool := isQuote c || c == '<' || c == '>'

/-- A text without such characters. -/
def Unmarked (cs : List Char) : Prop := ∀ c ∈ cs, isMark c = false

instance (cs : List Char) : Decidable (Unmarked cs) := List.decidableBAll (isMark · = false) cs

theorem Unmarked.opening {cs : List Char} (h : Unmarked cs) : Unmarked (']' :: '(' :: cs) :=
  List.forall_mem_cons.2 ⟨by decide, List.forall_mem_cons.2 ⟨by decide, h⟩⟩

/-- The second text is the first one with other targets behind some of its cuts. -/
inductive Rewritten : List Char → List Char → Prop
  | nil : Rewritten [] []
  | cons (c : Char) {cs cs' : List Char} : Rewritten cs cs' → Rewritten (c :: cs) (c :: cs')
  | target {a b cs cs' : List Char} : Unmarked a → Unmarked b → Rewritten cs cs' →
      Rewritten (']' :: '(' :: a ++ ')' :: cs) (']' :: '(' :: b ++ ')' :: cs')

namespace Rewritten

theorem refl (cs : List Char) : Rewritten cs cs := by
  induction cs with
  | nil => exact .nil
  | cons c cs ih => exact .cons c ih

theorem symm {cs cs' : List Char} (h : Rewritten cs cs') : Rewritten cs' cs := by
  induction h with
  | nil => exact .nil
  | cons c _ ih => exact .cons c ih
  | target ha hb _ ih => exact .target hb ha ih

theorem append_left (a : List Char) {cs cs' : List Char} (h : Rewritten cs cs') :
    Rewritten (a ++ cs) (a ++ cs') := by
  induction a with
  | nil => exact h
  | cons c a ih => exact .cons c ih

theorem head? {cs cs' : List Char} (h : Rewritten cs cs') : cs'.head? = cs.head? := by
  cases h <;> rfl

theorem eq_nil {cs : List Char} (h : Rewritten cs []) : cs = [] := by
  cases h
  rfl

/-- A text without a cut is not changed. -/
theorem eq_of_noOpening {cs cs' : List Char} (h : Rewritten cs cs') (hno : NoOpening cs) : cs' = cs := by
  induction h with
  | nil => rfl
  | cons c _ ih => rw [ih hno.tail]
  | target => exact absurd (noOpening_cons_iff.1 hno).1 (by simp)

/-- What precedes the first cut is the same. -/
theorem of_append {a cs L : List Char} (ha : ']' ∉ a) (h : Rewritten (a ++ cs) L) :
    ∃ cs', L = a ++ cs' ∧ Rewritten cs cs' := by
  induction a generalizing L with
  | nil => exact ⟨L, rfl, h⟩
  | cons c a ih =>
    rw [List.mem_cons, not_or] at ha
    generalize hL : c :: a ++ cs = K at h
    cases h with
    | nil => cases hL
    | cons d hrest =>
      cases hL
      obtain ⟨cs', rfl, hcs⟩ := ih ha.2 hrest
      exact ⟨cs', rfl, hcs⟩
    | target =>
      simp only [List.cons_append, List.cons.injEq] at hL
      exact absurd hL.1.symm ha.1

/-- A target and what stands around it hold no character of a kind that no target has. -/
theorem eq_false_of_mem_target {f : Char → Bool} (hf : ∀ c, f c = true → isMark c = true)
    {x : List Char} (hx : Unmarked x) : ∀ c ∈ ']' :: '(' :: x ++ [')'], f c = false := by
  have hmark : ∀ c ∈ ']' :: '(' :: x ++ [')'], isMark c = false := by
    intro c hc
    simp only [List.cons_append, List.mem_cons, List.mem_append, List.not_mem_nil, or_false] at hc
    rcases hc with rfl | rfl | hc | rfl
    · decide
    · decide
    · exact hx c hc
    · decide
  intro c hc
  by_contra hne
  have hfc := hf c (by simpa using hne)
  rw [hmark c hc] at hfc
  cases hfc

/-- Two such lines are cut alike at the first character of a kind that no target has. -/
theorem of_append_cons {f : Char → Bool} (hf : ∀ c, f c = true → isMark c = true) {q : Char}
    (hq : f q = true) {K L : List Char} (h : Rewritten K L) :
    ∀ {v after : List Char}, (∀ c ∈ v, f c = false) → K = v ++ q :: after →
      ∃ v' after', L = v' ++ q :: after' ∧ (∀ c ∈ v', f c = false) ∧ Rewritten v v' ∧
        Rewritten after after' := by
  induction h with
  | nil =>
    intro v after _ heq
    simp at heq
  | cons c h ih =>
    intro v after hv heq
    rcases v with _ | ⟨d, v⟩
    · cases heq
      exact ⟨[], _, rfl, by simp, .nil, h⟩
    · rw [List.cons_append, List.cons.injEq] at heq
      obtain ⟨rfl, heq⟩ := heq
      obtain ⟨v', after', rfl, hv', hvv, hrest⟩ :=
        ih (fun x hx => hv x (List.mem_cons_of_mem _ hx)) heq
      exact ⟨c :: v', after', rfl, List.forall_mem_cons.2 ⟨hv c (List.mem_cons_self ..), hv'⟩,
        .cons c hvv, hrest⟩
  | @target a b cs cs' ha hb h ih =>
    intro v after hv heq
    -- The target holds no such character, so the text is cut behind it.
    have hseg := eq_false_of_mem_target hf hb
    have hsplit : (']' :: '(' :: a ++ [')']) ++ cs = v ++ q :: after := by simpa using heq
    rcases List.append_eq_append_iff.1 hsplit with ⟨z, hz, hcs⟩ | ⟨z, hz, hcs⟩
    · obtain ⟨v', after', rfl, hv', hvv, hrest⟩ :=
        ih (fun x hx => hv x (by rw [hz]; exact List.mem_append_right _ hx)) hcs
      refine ⟨']' :: '(' :: b ++ [')'] ++ v', after', by simp, fun c hc => ?_, ?_, hrest⟩
      · rcases List.mem_append.1 hc with hc | hc
        · exact hseg c hc
        · exact hv' c hc
      · rw [hz]
        simpa using Rewritten.target ha hb hvv
    · rcases z with _ | ⟨d, z⟩
      · rw [List.append_nil] at hz
        rw [List.nil_append] at hcs
        obtain ⟨v', after', rfl, hv', hvv, hrest⟩ := ih (v := []) (by simp) hcs.symm
        have hnil := hvv.symm.eq_nil
        subst hnil
        refine ⟨']' :: '(' :: b ++ [')'], after', by simp, hseg, ?_, hrest⟩
        rw [← hz]
        simpa using Rewritten.target ha hb .nil
      · rw [List.cons_append, List.cons.injEq] at hcs
        have hqseg := eq_false_of_mem_target hf ha q (by rw [hz, hcs.1]; simp)
        rw [hq] at hqseg
        cases hqseg

end Rewritten

/-! ## Attributes -/

/-- A word in upper or lower case at the head of a text. -/
theorem startsAnyCase_iff {word cs : List Char} :
    startsAnyCase word cs = true ↔ ∃ w rest, cs = w ++ rest ∧ w.map Char.toLower = word := by
  unfold startsAnyCase
  rw [beq_iff_eq]
  constructor
  · intro h
    exact ⟨cs.take word.length, cs.drop word.length, (List.take_append_drop ..).symm, h.symm⟩
  · rintro ⟨w, rest, rfl, rfl⟩
    rw [List.length_map, List.take_left]

/-- **An attribute** at the head of a text: its name, a quote, a value, and the next quote. -/
theorem attribute?_eq_some {name cs value after : List Char} :
    attribute? name cs = some (value, after) ↔
      ∃ w q q', cs = w ++ q :: (value ++ q' :: after) ∧ w.map Char.toLower = name ++ ['='] ∧
        isQuote q = true ∧ isQuote q' = true ∧ value ≠ [] ∧ ∀ c ∈ value, isQuote c = false := by
  have hlength : ∀ {w : List Char}, w.map Char.toLower = name ++ ['='] → w.length = name.length + 1 :=
    fun h => by rw [← List.length_map (f := Char.toLower), h]; simp
  constructor
  · intro h
    unfold attribute? at h
    split at h
    · rename_i hstart
      obtain ⟨w, rest, rfl, hw⟩ := startsAnyCase_iff.1 hstart
      rw [← hlength hw, List.drop_left] at h
      split at h
      · rename_i q rest
        simp only at h
        split at h
        · rename_i q' after' hdrop
          split at h
          · rename_i hquote
            obtain ⟨hvalue, hafter⟩ := Prod.mk.inj (Option.some.inj h)
            rw [Bool.and_eq_true] at hquote
            have hsplit := takeWhile_append_dropWhile_cons hdrop
            refine ⟨w, q, q', ?_, hw, hquote.1, ?_, ?_, ?_⟩
            · rw [← hvalue, ← hafter, ← hsplit]
            · have := List.head?_dropWhile_not (!isQuote ·) rest
              rw [hdrop] at this
              simpa using this
            · rw [← hvalue]
              simpa using hquote.2
            · rw [← hvalue]
              intro c hc
              simpa using all_takeWhile _ _ c hc
          · cases h
        · cases h
      · cases h
    · cases h
  · rintro ⟨w, q, q', rfl, hw, hq, hq', hne, hvalue⟩
    have hall : ∀ c ∈ value, (!isQuote c) = true := fun c hc => by rw [hvalue c hc]; rfl
    unfold attribute?
    rw [if_pos (startsAnyCase_iff.2 ⟨w, _, rfl, hw⟩), ← hlength hw, List.drop_left]
    simp only
    rw [takeWhile_append_cons hall (by rw [hq']; rfl), dropWhile_append_cons hall (by rw [hq']; rfl)]
    simp [hq, hne]

theorem isMark_of_isQuote {c : Char} (h : isQuote c = true) : isMark c = true := by
  unfold isMark
  rw [h]
  rfl

/-- What follows a character, and more. -/
theorem drop_append_cons (a : List Char) (c : Char) (rest : List Char) (n : Nat) :
    (a ++ c :: rest).drop (n + (a.length + 1)) = rest.drop n := by
  rw [List.append_cons, Nat.add_comm, ← List.drop_drop, List.drop_left' (by simp)]

/-- What follows an attribute. -/
theorem attribute?_drop {name cs value after : List Char}
    (h : attribute? name cs = some (value, after)) :
    cs.drop (value.length + name.length + 3) = after := by
  obtain ⟨w, q, q', rfl, hw, -⟩ := attribute?_eq_some.1 h
  have hlength : w.length = name.length + 1 := by
    rw [← List.length_map (f := Char.toLower), hw]
    simp
  have hsplit : w ++ q :: (value ++ q' :: after) = (w ++ q :: value ++ [q']) ++ after := by simp
  rw [hsplit]
  exact List.drop_left' (by simp; omega)

/-- A character that is the same in lower case stands in a name as it is. -/
theorem not_mem_of_map_toLower {c : Char} (hc : c.toLower = c) {w name : List Char}
    (hw : w.map Char.toLower = name) (hname : c ∉ name) : c ∉ w := fun h =>
  hname (by rw [← hw, ← hc]; exact List.mem_map_of_mem h)

/-- No attribute begins in a target. -/
theorem attribute?_inert {name : List Char} (hname : ')' ∉ name) {x : List Char} (hx : Unmarked x)
    (cs : List Char) : attribute? name (x ++ ')' :: cs) = none := by
  rcases h : attribute? name (x ++ ')' :: cs) with _ | ⟨value, after⟩
  · rfl
  · exfalso
    obtain ⟨w, q, q', heq, hw, hq, -⟩ := attribute?_eq_some.1 h
    have hparen : ')' ∉ w := not_mem_of_map_toLower (by decide) hw (by simpa using hname)
    rcases List.append_eq_append_iff.1 heq with ⟨z, hz, hcs⟩ | ⟨z, hz, hcs⟩ <;>
      rcases z with _ | ⟨d, z⟩ <;> simp only [List.nil_append, List.cons_append, List.cons.injEq] at hcs
    · rw [← hcs.1] at hq
      exact absurd hq (by decide)
    · exact hparen (by rw [hz, ← hcs.1]; simp)
    · rw [hcs.1] at hq
      exact absurd hq (by decide)
    · have hmark := hx d (by rw [hz]; simp)
      rw [← hcs.1, isMark_of_isQuote hq] at hmark
      cases hmark

/-- **An attribute of a rewritten line** is found again. -/
theorem attribute?_rewritten {name : List Char} (hname : ']' ∉ name) {cs cs' value after : List Char}
    (h : Rewritten cs cs') (hsome : attribute? name cs = some (value, after)) :
    ∃ value' after', attribute? name cs' = some (value', after') ∧ Rewritten value value' ∧
      Rewritten after after' := by
  obtain ⟨w, q, q', rfl, hw, hq, hq', hne, hvalue⟩ := attribute?_eq_some.1 hsome
  have hbracket : ']' ∉ w ++ [q] := by
    rw [List.mem_append, List.mem_singleton]
    rintro (hmem | rfl)
    · exact not_mem_of_map_toLower (by decide) hw (by simpa using hname) hmem
    · exact absurd hq (by decide)
  rw [List.append_cons] at h
  obtain ⟨rest, rfl, hcs⟩ := h.of_append hbracket
  obtain ⟨value', after', rfl, hvalue', hvv, hrest⟩ :=
    hcs.of_append_cons (fun _ => isMark_of_isQuote) hq' hvalue rfl
  refine ⟨value', after', attribute?_eq_some.2 ⟨w, q, q', by simp, hw, hq, hq', ?_, hvalue'⟩, hvv, hrest⟩
  rintro rfl
  exact hne hvv.eq_nil

/-! ## Recognisers of attributes -/

/-- A recogniser that goes by marks: it finds nothing in a target, and on a rewritten line it finds
what it found before. -/
structure ReadsAttribute (recognise : List Char → Option Found) : Prop where
  inert : ∀ {x : List Char}, Unmarked x → ∀ cs, recognise (x ++ ')' :: cs) = none
  again : ∀ {cs cs' : List Char} {f : Found}, Rewritten cs cs' → recognise cs = some f →
    ∃ f', recognise cs' = some f' ∧ Rewritten f.target f'.target ∧
      Rewritten (cs.drop f.length) (cs'.drop f'.length)
  positive : ∀ {cs : List Char} {f : Found}, recognise cs = some f → 0 < f.length

theorem readsAttribute_dataRef : ReadsAttribute dataRef where
  inert hx cs := by
    unfold dataRef
    rw [attribute?_inert (by decide) hx]
    rfl
  again {cs cs'} f h hsome := by
    obtain ⟨⟨value, after⟩, hattr, rfl⟩ := Option.map_eq_some_iff.1 hsome
    obtain ⟨value', after', hattr', hvv, hrest⟩ := attribute?_rewritten (by decide) h hattr
    refine ⟨⟨value'.length + 11, [], value'⟩, by unfold dataRef; rw [hattr']; rfl, hvv, ?_⟩
    have hlength : "data-ref".toList.length = 8 := by decide
    have hdrop := attribute?_drop hattr
    have hdrop' := attribute?_drop hattr'
    rw [hlength] at hdrop hdrop'
    show Rewritten (cs.drop (value.length + 11)) (cs'.drop (value'.length + 11))
    rw [hdrop, hdrop']
    exact hrest
  positive h := by
    obtain ⟨_, _, rfl⟩ := Option.map_eq_some_iff.1 h
    simp

/-! ## Tags -/

theorem lastHref_inert {x : List Char} (hx : Unmarked x) (cs : List Char) :
    lastHref (x ++ ')' :: cs)
      = (lastHref cs).map fun f => { f with length := f.length + (x.length + 1) } := by
  have hnone : attribute? "href".toList (x ++ ')' :: cs) = none :=
    attribute?_inert (by decide) hx cs
  induction x with
  | nil =>
    rw [List.nil_append] at hnone ⊢
    rw [lastHref, if_neg (by decide), hnone]
    rcases lastHref cs with _ | f <;> rfl
  | cons c x ih =>
    have hc : isMark c = false := hx c (List.mem_cons_self ..)
    have hne : ¬c = '>' := by
      rintro rfl
      exact absurd hc (by decide)
    have hx' : Unmarked x := fun d hd => hx d (List.mem_cons_of_mem _ hd)
    rw [List.cons_append] at hnone ⊢
    rw [lastHref, if_neg hne, hnone, ih hx' (attribute?_inert (by decide) hx' cs)]
    rcases lastHref cs with _ | f
    · rfl
    · simp
      omega

/-- The `href` attribute at the head of a text, if it is followed by a `>`. -/
def hrefHere (cs : List Char) : Option Found :=
  match attribute? "href".toList cs with
  | some (value, after) =>
    if after.contains '>' then
      some ⟨value.length + (after.takeWhile (· != '>')).length + 8, [], value⟩
    else none
  | none => none

theorem lastHref_cons (c : Char) (cs : List Char) :
    lastHref (c :: cs) = if c = '>' then none else
      ((lastHref cs).map fun f => { f with length := f.length + 1 }).or (hrefHere (c :: cs)) := by
  rw [lastHref]
  split
  · rfl
  · rcases lastHref cs with _ | f <;> rfl

/-- What is found goes up to the next `>`. -/
theorem hrefHere_eq_some {cs : List Char} {f : Found} :
    hrefHere cs = some f ↔ ∃ value before rest,
      attribute? "href".toList cs = some (value, before ++ '>' :: rest) ∧ '>' ∉ before ∧
        f = ⟨value.length + before.length + 8, [], value⟩ := by
  have hstop : ∀ {u : List Char}, '>' ∉ u → ∀ c ∈ u, (c != '>') = true := fun hu c hc => by
    simpa using fun h : c = '>' => hu (h ▸ hc)
  unfold hrefHere
  constructor
  · intro h
    split at h
    · rename_i value after hattr
      split at h
      · rename_i hcontains
        obtain ⟨u, rest, rfl, hu⟩ := List.eq_append_cons_of_mem (List.contains_iff_mem.1 hcontains)
        rw [takeWhile_append_cons (hstop hu) (by decide)] at h
        exact ⟨value, u, rest, hattr, hu, (Option.some.inj h).symm⟩
      · cases h
    · cases h
  · rintro ⟨value, u, rest, hattr, hu, rfl⟩
    rw [hattr]
    simp [takeWhile_append_cons (hstop hu) (c := '>') (by decide)]

/-- What follows it. -/
theorem drop_of_href {cs value before rest : List Char}
    (h : attribute? "href".toList cs = some (value, before ++ '>' :: rest)) :
    cs.drop (value.length + before.length + 8) = rest := by
  have hlength : "href".toList.length = 4 := by decide
  have hdrop := attribute?_drop h
  rw [hlength] at hdrop
  rw [show value.length + before.length + 8 = (value.length + 4 + 3) + (0 + (before.length + 1)) by omega,
    ← List.drop_drop, hdrop, drop_append_cons, List.drop_zero]

theorem hrefHere_again {cs cs' : List Char} {f : Found} (h : Rewritten cs cs')
    (hsome : hrefHere cs = some f) :
    ∃ f', hrefHere cs' = some f' ∧ Rewritten f.target f'.target ∧
      Rewritten (cs.drop f.length) (cs'.drop f'.length) := by
  obtain ⟨value, u, rest, hattr, hu, rfl⟩ := hrefHere_eq_some.1 hsome
  obtain ⟨value', after', hattr', hvv, hafter⟩ := attribute?_rewritten (by decide) h hattr
  obtain ⟨u', rest', rfl, hu', -, hrest⟩ := hafter.of_append_cons (f := (· == '>'))
    (fun c hc => by simp [isMark, (beq_iff_eq.1 hc)]) (q := '>') (by decide)
    (v := u) (fun c hc => by simpa using fun h : c = '>' => hu (h ▸ hc)) rfl
  refine ⟨_, hrefHere_eq_some.2 ⟨value', u', rest', hattr', ?_, rfl⟩, hvv, ?_⟩
  · intro hmem
    simpa using hu' _ hmem
  · simp only
    rw [drop_of_href hattr, drop_of_href hattr']
    exact hrest

/-- The last `href` of a tag is found again in another text, and what follows it there is a rewriting of
what followed it. -/
def FindsHrefAgain (cs cs' : List Char) : Prop :=
  ∀ f, lastHref cs = some f → ∃ f', lastHref cs' = some f' ∧ Rewritten f.target f'.target ∧
    Rewritten (cs.drop f.length) (cs'.drop f'.length)

theorem FindsHrefAgain.cons (c : Char) {cs cs' : List Char} (h : Rewritten cs cs')
    (ih : FindsHrefAgain cs cs') (ih' : FindsHrefAgain cs' cs) : FindsHrefAgain (c :: cs) (c :: cs') := by
  intro f hf
  rw [lastHref_cons] at hf ⊢
  by_cases hc : c = '>'
  · rw [if_pos hc] at hf
    cases hf
  · rw [if_neg hc] at hf ⊢
    rcases hl : lastHref cs with _ | g
    · -- The second text has no later `href` either, so the one at its head counts.
      have hl' : lastHref cs' = none := by
        rcases hl' : lastHref cs' with _ | g'
        · rfl
        · obtain ⟨g, hg, -⟩ := ih' g' hl'
          rw [hl] at hg
          cases hg
      rw [hl] at hf
      rw [hl']
      exact hrefHere_again (.cons c h) hf
    · rw [hl] at hf
      obtain ⟨g', hg', htarget, hdrop⟩ := ih g hl
      rw [← Option.some.inj hf, hg']
      exact ⟨_, rfl, htarget, hdrop⟩

theorem FindsHrefAgain.target {a b cs cs' : List Char} (ha : Unmarked a) (hb : Unmarked b)
    (ih : FindsHrefAgain cs cs') :
    FindsHrefAgain (']' :: '(' :: a ++ ')' :: cs) (']' :: '(' :: b ++ ')' :: cs') := by
  intro f hf
  rw [lastHref_inert ha.opening] at hf
  obtain ⟨g, hg, rfl⟩ := Option.map_eq_some_iff.1 hf
  obtain ⟨g', hg', htarget, hdrop⟩ := ih g hg
  rw [lastHref_inert hb.opening, hg', Option.map_some]
  refine ⟨_, rfl, htarget, ?_⟩
  simp only
  rw [drop_append_cons, drop_append_cons]
  exact hdrop

/-- **The last `href` of a tag** on a rewritten line, and back. -/
theorem lastHref_again {cs cs' : List Char} (h : Rewritten cs cs') :
    FindsHrefAgain cs cs' ∧ FindsHrefAgain cs' cs := by
  induction h with
  | nil => exact ⟨nofun, nofun⟩
  | cons c h ih => exact ⟨ih.1.cons c h ih.2, ih.2.cons c h.symm ih.1⟩
  | target ha hb _ ih => exact ⟨ih.1.target ha hb, ih.2.target hb ha⟩

/-- **An anchor tag** at the head of a text. -/
theorem htmlAnchor_eq_some {cs : List Char} {f : Found} :
    htmlAnchor cs = some f ↔ ∃ w blanks rest g, cs = w ++ (blanks ++ rest) ∧
      w.map Char.toLower = ['<', 'a'] ∧ blanks ≠ [] ∧ (∀ c ∈ blanks, isBlank c = true) ∧
      (∀ c ∈ rest.head?, isBlank c = false) ∧ lastHref rest = some g ∧
      f = { g with length := g.length + blanks.length + 2 } := by
  have hlength : ∀ {w : List Char}, w.map Char.toLower = ['<', 'a'] → w.length = 2 :=
    fun h => by rw [← List.length_map (f := Char.toLower), h]; rfl
  have hword : "<a".toList = ['<', 'a'] := by decide
  constructor
  · intro h
    unfold htmlAnchor at h
    rw [hword] at h
    split at h
    · rename_i hstart
      obtain ⟨w, rest, rfl, hw⟩ := startsAnyCase_iff.1 hstart
      rw [← hlength hw, List.drop_left] at h
      simp only at h
      split at h
      · cases h
      · rename_i hne
        obtain ⟨g, hg, rfl⟩ := Option.map_eq_some_iff.1 h
        refine ⟨w, rest.takeWhile isBlank, rest.dropWhile isBlank, g, ?_, hw, by simpa using hne,
          all_takeWhile _ _, fun c hc => ?_, hg, by rw [hlength hw]⟩
        · rw [List.takeWhile_append_dropWhile]
        · have := List.head?_dropWhile_not isBlank rest
          rw [Option.mem_def.1 hc] at this
          exact this
    · cases h
  · rintro ⟨w, blanks, rest, g, rfl, hw, hne, hblanks, hhead, hg, rfl⟩
    have htake : (blanks ++ rest).takeWhile isBlank = blanks ∧
        (blanks ++ rest).dropWhile isBlank = rest := by
      rw [List.takeWhile_append_of_pos hblanks, List.dropWhile_append_of_pos hblanks]
      rcases rest with _ | ⟨c, rest⟩
      · simp
      · have hc : ¬isBlank c = true := by simp [hhead c rfl]
        rw [List.takeWhile_cons_of_neg hc, List.dropWhile_cons_of_neg hc, List.append_nil]
        exact ⟨rfl, rfl⟩
    unfold htmlAnchor
    rw [hword, if_pos (startsAnyCase_iff.2 ⟨w, _, rfl, hw⟩), ← hlength hw, List.drop_left]
    simp only [htake.1, htake.2, hg, hlength hw]
    simp [hne]

/-- Only letters become other characters in lower case. -/
theorem eq_angle_of_toLower {d : Char} (h : d.toLower = '<') : d = '<' := by
  unfold Char.toLower at h
  split at h
  · rename_i hupper
    have hval := congrArg (fun c : Char => c.val.toNat) h
    simp only [UInt32.toNat_add] at hval
    have hlow : 65 ≤ d.val.toNat := hupper.1
    have hhigh : d.val.toNat ≤ 90 := hupper.2
    have hshift : ('a'.val - 'A'.val).toNat = 32 := by decide
    have hangle : ('<').val.toNat = 60 := by decide
    omega
  · exact h

theorem readsAttribute_htmlAnchor : ReadsAttribute htmlAnchor where
  inert {x} hx cs := by
    rcases h : htmlAnchor (x ++ ')' :: cs) with _ | f
    · rfl
    · obtain ⟨w, blanks, rest, g, heq, hw, -⟩ := htmlAnchor_eq_some.1 h
      rcases w with _ | ⟨d, w⟩
      · cases hw
      · -- A tag starts with an angle bracket, and a target has none.
        have hd : d = '<' := eq_angle_of_toLower (List.cons.inj hw).1
        rcases x with _ | ⟨c, x⟩
        · simp [hd] at heq
        · have hc := hx c (List.mem_cons_self ..)
          rw [List.cons_append, List.cons_append, List.cons.injEq] at heq
          rw [heq.1, hd] at hc
          exact absurd hc (by decide)
  again {cs cs'} f h hsome := by
    obtain ⟨w, blanks, rest, g, rfl, hw, hne, hblanks, hhead, hg, rfl⟩ := htmlAnchor_eq_some.1 hsome
    have hbracket : ']' ∉ w ++ blanks := by
      rw [List.mem_append]
      rintro (hmem | hmem)
      · exact not_mem_of_map_toLower (by decide) hw (by decide) hmem
      · exact absurd (hblanks _ hmem) (by decide)
    rw [← List.append_assoc] at h
    obtain ⟨rest', rfl, hrest⟩ := h.of_append hbracket
    obtain ⟨g', hg', htarget, hdrop⟩ := (lastHref_again hrest).1 g hg
    refine ⟨_, htmlAnchor_eq_some.2 ⟨w, blanks, rest', g', by simp, hw, hne, hblanks,
      by rw [hrest.head?]; exact hhead, hg', rfl⟩, htarget, ?_⟩
    have hlength : w.length = 2 := by rw [← List.length_map (f := Char.toLower), hw]; rfl
    have hskip : ∀ (r : List Char) (n : Nat),
        (w ++ blanks ++ r).drop (n + blanks.length + 2) = r.drop n := by
      intro r n
      rw [show n + blanks.length + 2 = (w ++ blanks).length + n by simp; omega, ← List.drop_drop,
        List.drop_left]
    simp only
    rw [← List.append_assoc, hskip, hskip]
    exact hdrop
  positive h := by
    obtain ⟨_, _, _, _, _, _, _, _, _, _, rfl⟩ := htmlAnchor_eq_some.1 h
    simp

/-! ## Scanning -/

section Scan

variable {recognise : List Char → Option Found}

theorem scan_inert (hr : ReadsAttribute recognise) {x : List Char} (hx : Unmarked x) (cs : List Char)
    (start : Nat) : ∃ start', scan recognise start (x ++ ')' :: cs) = scan recognise start' cs := by
  induction x generalizing start with
  | nil => exact ⟨_, scan_of_none (hr.inert hx cs) start⟩
  | cons c x ih =>
    have hnone := hr.inert hx cs
    rw [List.cons_append] at hnone ⊢
    rw [scan_of_none hnone]
    exact ih (fun d hd => hx d (List.mem_cons_of_mem _ hd)) _

/-- **The attributes of a rewritten line** are those of the line. -/
theorem exists_mem_targets (hr : ReadsAttribute recognise) {L L' : List Char} (h : Rewritten L L')
    (start start' : Nat) {m : Match} (hm : m ∈ scan recognise start L) :
    ∃ m' ∈ scan recognise start' L', Rewritten m.found.target m'.found.target := by
  -- Each step of the scan leaves a shorter line.
  induction hn : L.length using Nat.strongRecOn generalizing L L' start start' with
  | ind n ih =>
    cases h with
    | nil =>
      rw [scan_nil] at hm
      cases hm
    | @cons c cs cs' h =>
      rcases hf : recognise (c :: cs) with _ | f
      · have hf' : recognise (c :: cs') = none := by
          rcases hf' : recognise (c :: cs') with _ | f'
          · rfl
          · obtain ⟨f, hf'', -⟩ := hr.again (Rewritten.cons c h).symm hf'
            rw [hf] at hf''
            cases hf''
        rw [scan_of_none hf] at hm
        rw [scan_of_none hf']
        exact ih _ (by rw [← hn]; simp) h _ _ hm rfl
      · obtain ⟨f', hf', htarget, hdrop⟩ := hr.again (Rewritten.cons c h) hf
        have hpos := hr.positive hf
        have hpos' := hr.positive hf'
        rw [scan_of_some hf] at hm
        rw [scan_of_some hf']
        rcases List.mem_cons.1 hm with rfl | hm
        · exact ⟨_, List.mem_cons_self .., htarget⟩
        · have hpred : ∀ (cs : List Char) {k : Nat}, 0 < k → (c :: cs).drop k = cs.drop (k - 1) := by
            intro cs k hk
            obtain ⟨k, rfl⟩ : ∃ j, k = j + 1 := ⟨k - 1, by omega⟩
            rfl
          rw [hpred cs hpos, hpred cs' hpos'] at hdrop
          obtain ⟨m', hm', hrel⟩ :=
            ih _ (by simp only [← hn, List.length_cons, List.length_drop]; omega) hdrop _ _ hm rfl
          exact ⟨m', List.mem_cons_of_mem _ hm', hrel⟩
    | @target a b cs cs' ha hb h =>
      obtain ⟨s, hs⟩ := scan_inert hr ha.opening cs start
      obtain ⟨s', hs'⟩ := scan_inert hr hb.opening cs' start'
      rw [hs] at hm
      rw [hs']
      exact ih _ (by simp only [← hn, List.length_append, List.length_cons]; omega) h _ _ hm rfl

/-- **A link by an attribute** without a cut in its value is found again. -/
theorem mem_targets_of_rewritten (hr : ReadsAttribute recognise) {L L' : List Char}
    (h : Rewritten L L') {m : Match} (hm : m ∈ scan recognise 0 L) (hno : NoOpening m.found.target) :
    ∃ m' ∈ scan recognise 0 L', m'.found.target = m.found.target := by
  obtain ⟨m', hm', hrel⟩ := exists_mem_targets hr h 0 0 hm
  exact ⟨m', hm', hrel.eq_of_noOpening hno⟩

end Scan

end DocLinks.Markdown
