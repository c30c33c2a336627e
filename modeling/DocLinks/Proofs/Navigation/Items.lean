import DocLinks.Navigation
import DocLinks.Proofs.Text.Cutting

/-!
# Items of a navigation list

Which lines of a navigation file are items, and what an item says, told by how the line is written
(`IsItemLine`) and not by how it is read. The reader accepts exactly these lines
(`parseItem?_eq_some`), so the items of a text are those of its lines, from the first line to the last
(`mem_parseItems_iff`, `pairwise_line_parseItems`).
-/

namespace DocLinks.Navigation

open Text

/-- A line that is an item: blanks, a bullet, more blanks, a title in square brackets, and right
behind it a target in round ones. What follows does not matter. -/
def IsItemLine (line indent title target : List Char) : Prop :=
  ∃ bullet gap rest,
    line = indent ++ bullet :: (gap ++ '[' :: (title ++ ']' :: '(' :: (target ++ ')' :: rest))) ∧
    (∀ c ∈ indent, isBlank c = true) ∧ (bullet = '*' ∨ bullet = '-') ∧
    gap ≠ [] ∧ (∀ c ∈ gap, isBlank c = true) ∧
    title ≠ [] ∧ ']' ∉ title ∧ target ≠ [] ∧ ')' ∉ target

/-- What the line with a number says: the title and the target without the blanks around them, the
target cleaned, and one level of depth for every two blanks in front. -/
def Says (number : Nat) (line : List Char) (i : NavItem) : Prop :=
  ∃ indent title target, IsItemLine line indent title target ∧
    i.title = .ofList (trim title) ∧ i.path = .ofList (Target.clean (trim target)) ∧
    i.line = number ∧ i.depth = indent.length / 2

/-! ## Reading a line -/

theorem enclosed?_eq_some {close : Char} {cs inside rest : List Char} :
    enclosed? close cs = some (inside, rest) ↔
      cs = inside ++ close :: rest ∧ inside ≠ [] ∧ close ∉ inside := by
  unfold enclosed?
  constructor
  · intro h
    rcases hd : cs.dropWhile (· != close) with _ | ⟨c, rest'⟩
    · simp [hd] at h
    · have hc : c = close := by simpa using head_of_dropWhile_eq_cons hd
      subst hc
      simp only [hd] at h
      split at h
      · cases h
      · rename_i hne
        cases h
        refine ⟨takeWhile_append_dropWhile_cons hd, by simpa using hne, fun hmem => ?_⟩
        simpa using all_takeWhile _ _ _ hmem
  · rintro ⟨rfl, hne, hmem⟩
    have hall : ∀ c ∈ inside, (c != close) = true := fun c hc => by
      simpa using fun h : c = close => hmem (h ▸ hc)
    rw [takeWhile_append_cons hall (by simp), dropWhile_append_cons hall (by simp)]
    simp [hne]

/-- What a bullet is taken for is written there. -/
theorem exists_of_bullet?_eq_some {cs title target : List Char}
    (h : bullet? cs = some (title, target)) : ∃ bullet gap rest,
      cs = bullet :: (gap ++ '[' :: (title ++ ']' :: '(' :: (target ++ ')' :: rest))) ∧
      (bullet = '*' ∨ bullet = '-') ∧ gap ≠ [] ∧ (∀ c ∈ gap, isBlank c = true) ∧
      title ≠ [] ∧ ']' ∉ title ∧ target ≠ [] ∧ ')' ∉ target := by
  rcases cs with _ | ⟨bullet, rest⟩
  · cases h
  · simp only [bullet?] at h
    split at h
    · rename_i hbullet
      split at h
      · rename_i opened hopened
        have hgap := takeWhile_append_dropWhile_cons hopened
        rcases htitle : enclosed? ']' opened with _ | ⟨title', behind⟩
        · simp [htitle] at h
        · simp only [htitle] at h
          split at h
          · rename_i title'' behind' heq
            cases heq
            obtain ⟨⟨target', rest'⟩, htarget, heq⟩ := Option.map_eq_some_iff.1 h
            cases heq
            obtain ⟨rfl, htitle_ne, htitle_mem⟩ := enclosed?_eq_some.1 htitle
            obtain ⟨rfl, htarget_ne, htarget_mem⟩ := enclosed?_eq_some.1 htarget
            refine ⟨bullet, rest.takeWhile isBlank, rest', congrArg _ hgap, hbullet.1, ?_,
              all_takeWhile _ _, htitle_ne, htitle_mem, htarget_ne, htarget_mem⟩
            -- There is a blank behind the bullet, so the gap is not empty.
            intro hnil
            have hblank := hbullet.2
            rw [hgap, hnil, List.nil_append, List.head?_cons, Option.any_some] at hblank
            exact absurd hblank (by decide)
          · cases h
      · cases h
    · cases h

theorem bullet?_eq_some {cs title target : List Char} :
    bullet? cs = some (title, target) ↔ ∃ bullet gap rest,
      cs = bullet :: (gap ++ '[' :: (title ++ ']' :: '(' :: (target ++ ')' :: rest))) ∧
      (bullet = '*' ∨ bullet = '-') ∧ gap ≠ [] ∧ (∀ c ∈ gap, isBlank c = true) ∧
      title ≠ [] ∧ ']' ∉ title ∧ target ≠ [] ∧ ')' ∉ target := by
  refine ⟨exists_of_bullet?_eq_some, ?_⟩
  rintro ⟨bullet, gap, rest, rfl, hbullet, hgap_ne, hgap, htitle_ne, htitle_mem, htarget_ne,
    htarget_mem⟩
  have hhead : (gap ++ '[' :: (title ++ ']' :: '(' :: (target ++ ')' :: rest))).head?.any isBlank
      = true := by
    rcases gap with _ | ⟨c, gap⟩
    · exact absurd rfl hgap_ne
    · exact hgap c (List.mem_cons_self ..)
  have htitle : enclosed? ']' (title ++ ']' :: '(' :: (target ++ ')' :: rest))
      = some (title, '(' :: (target ++ ')' :: rest)) :=
    enclosed?_eq_some.2 ⟨rfl, htitle_ne, htitle_mem⟩
  have htarget : enclosed? ')' (target ++ ')' :: rest) = some (target, rest) :=
    enclosed?_eq_some.2 ⟨rfl, htarget_ne, htarget_mem⟩
  simp only [bullet?, hbullet, hhead, and_self, if_true,
    dropWhile_append_cons hgap (show isBlank '[' = false by decide), htitle, htarget,
    Option.map_some]

/-- **The items of lines** are what the lines say. -/
theorem parseItem?_eq_some {number : Nat} {line : List Char} {i : NavItem} :
    parseItem? (number, line) = some i ↔ Says number line i := by
  unfold parseItem? Says IsItemLine
  constructor
  · intro h
    obtain ⟨⟨title, target⟩, hbullet, rfl⟩ := Option.map_eq_some_iff.1 h
    obtain ⟨bullet, gap, rest, hline, hrest⟩ := bullet?_eq_some.1 hbullet
    have hcut := takeWhile_append_dropWhile_cons hline
    exact ⟨line.takeWhile isBlank, title, target,
      ⟨bullet, gap, rest, hcut, all_takeWhile _ _, hrest⟩, rfl, rfl, rfl, rfl⟩
  · rintro ⟨indent, title, target, ⟨bullet, gap, rest, rfl, hindent, hbullet, hrest⟩, htitle, hpath,
      hnumber, hdepth⟩
    have hvisible : isBlank bullet = false := by
      rcases hbullet with rfl | rfl <;> decide
    simp only
    rw [takeWhile_append_cons hindent hvisible, dropWhile_append_cons hindent hvisible,
      bullet?_eq_some.2 ⟨bullet, gap, rest, rfl, hbullet, hrest⟩]
    cases i
    simp_all [indentUnit]

/-! ## Reading all lines -/

/-- **The items of a text** are what its lines say. -/
theorem mem_parseItems_iff {content : String} {i : NavItem} :
    i ∈ parseItems content ↔
      ∃ k line, (linesOf content)[k]? = some line ∧ Says (k + 1) line i := by
  unfold parseItems
  rw [List.mem_filterMap]
  constructor
  · rintro ⟨⟨number, line⟩, hmem, hsome⟩
    obtain ⟨k, hk⟩ := List.mem_iff_getElem?.1 hmem
    rw [getElem?_numberFrom] at hk
    obtain ⟨line', hline, heq⟩ := Option.map_eq_some_iff.1 hk
    cases heq
    refine ⟨k, line, hline, ?_⟩
    rw [Nat.add_comm]
    exact parseItem?_eq_some.1 hsome
  · rintro ⟨k, line, hline, hsays⟩
    refine ⟨(1 + k, line), List.mem_iff_getElem?.2 ⟨k, ?_⟩, ?_⟩
    · rw [getElem?_numberFrom, hline]
      rfl
    · rw [Nat.add_comm]
      exact parseItem?_eq_some.2 hsays

/-- The items of a text are in the order of their lines, and no line has two. -/
theorem pairwise_line_parseItems (content : String) :
    (parseItems content).Pairwise fun i j => i.line < j.line := by
  refine List.Pairwise.filterMap parseItem? ?_ (pairwise_numberFrom 1 (linesOf content))
  rintro ⟨m, line⟩ ⟨n, line'⟩ hlt i hi j hj
  obtain ⟨_, _, _, _, _, _, hm, _⟩ := parseItem?_eq_some.1 hi
  obtain ⟨_, _, _, _, _, _, hn, _⟩ := parseItem?_eq_some.1 hj
  rw [hm, hn]
  exact hlt

end DocLinks.Navigation
