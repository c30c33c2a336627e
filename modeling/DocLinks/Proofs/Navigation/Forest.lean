import DocLinks.Proofs.Navigation.Items

/-!
# The navigation forest

How the entries of a navigation file hang together. An item belongs to the nearest item above it that
is less deep, and is a root if there is none. The list of items is cut behind the deeper ones that
follow its first item, so every fact about the forest is shown for an item at the head of the list,
for the items below it, and for the items beside it.

## Contents
- `NavEntry.Within`: an entry stands somewhere in a forest.
- `NearestShallower`, `NoneShallower`: the item that an item belongs to, told by the list alone.
- `mem_forest_iff`, `exists_child_iff`: the roots and the children of a forest.
- `pairwise_depth_forest`: siblings are never deeper than the one before.
- `NavStructure.IsForestOf`, `ofText_isForestOf`: the entries of a text.
-/

namespace DocLinks

open Text

/-- An entry is one of the entries, or stands below one of them. -/
inductive NavEntry.Within (e : NavEntry) : List NavEntry → Prop
  | root {es : List NavEntry} (h : e ∈ es) : Within e es
  | inner {es : List NavEntry} {f : NavEntry} (hf : f ∈ es) (h : Within e f.children) : Within e es

namespace Navigation

/-- `p` is the nearest item before `i` that is less deep: all in between are as deep as `i` or
deeper. -/
def NearestShallower (is : List NavItem) (p i : NavItem) : Prop :=
  ∃ front back after, is = front ++ p :: (back ++ i :: after) ∧ p.depth < i.depth ∧
    ∀ j ∈ back, i.depth ≤ j.depth

/-- No item before `i` is less deep. -/
def NoneShallower (is : List NavItem) (i : NavItem) : Prop :=
  ∃ front after, is = front ++ i :: after ∧ ∀ j ∈ front, i.depth ≤ j.depth

/-! ## The list cut behind its first item and what is deeper -/

/-- The items that follow an item directly and are deeper. -/
def below (i : NavItem) (rest : List NavItem) : List NavItem := rest.takeWhile (i.depth < ·.depth)

/-- The items that follow those. -/
def beside (i : NavItem) (rest : List NavItem) : List NavItem := rest.dropWhile (i.depth < ·.depth)

variable {i j : NavItem} {rest : List NavItem}

theorem forest_cons (i : NavItem) (rest : List NavItem) :
    forest (i :: rest) = .node i (forest (below i rest)) :: forest (beside i rest) := by
  rw [forest]
  rfl

theorem below_append_beside (i : NavItem) (rest : List NavItem) : below i rest ++ beside i rest = rest :=
  List.takeWhile_append_dropWhile

theorem lt_of_mem_below (h : j ∈ below i rest) : i.depth < j.depth := by
  simpa using all_takeWhile _ _ _ h

theorem le_of_beside_eq_cons {after : List NavItem} (h : beside i rest = j :: after) :
    j.depth ≤ i.depth := by
  simpa using head_of_dropWhile_eq_cons h

/-- What is deeper than an item stays below it, up to the next item. -/
theorem below_append {back after : List NavItem} (h : ∀ k ∈ back, i.depth < k.depth) :
    below i (back ++ after) = back ++ below i after :=
  List.takeWhile_append_of_pos fun k hk => decide_eq_true (h k hk)

/-- An item that is not deeper, and all that follow it, are beside. -/
theorem beside_append_cons (front after : List NavItem) (h : j.depth ≤ i.depth) :
    ∃ front', beside i (front ++ j :: after) = front' ++ j :: after ∧ front' <:+ front := by
  induction front with
  | nil =>
    refine ⟨[], ?_, List.suffix_refl _⟩
    exact List.dropWhile_cons_of_neg (by simpa using h)
  | cons k front ih =>
    by_cases hk : i.depth < k.depth
    · obtain ⟨front', heq, hsuffix⟩ := ih
      refine ⟨front', ?_, hsuffix.trans (List.suffix_cons _ _)⟩
      rw [← heq]
      exact List.dropWhile_cons_of_pos (by simpa using hk)
    · exact ⟨k :: front, List.dropWhile_cons_of_neg (by simpa using hk), List.suffix_refl _⟩

/-- **Induction along a forest**: the items below the first one, and those beside it. -/
theorem forest_induction {motive : List NavItem → Prop} (nil : motive [])
    (cons : ∀ i rest, motive (below i rest) → motive (beside i rest) → motive (i :: rest)) :
    ∀ is, motive is :=
  forest.induct motive nil fun i rest hbelow hbeside => cons i rest hbelow hbeside

/-! ## Walking through a forest -/

/-- **A forest lists its items** in their order. -/
theorem itemsOf_forest (is : List NavItem) : NavEntry.itemsOf (forest is) = is := by
  induction is using forest_induction with
  | nil =>
    rw [forest]
    rfl
  | cons i rest hbelow hbeside =>
    rw [forest_cons, NavEntry.itemsOf, NavEntry.items, hbelow, hbeside, List.cons_append,
      below_append_beside]

/-! ## Roots -/

theorem noneShallower_of_mem_forest {is : List NavItem} {e : NavEntry} (h : e ∈ forest is) :
    NoneShallower is e.item := by
  induction is using forest_induction with
  | nil =>
    rw [forest] at h
    cases h
  | cons i rest _ hbeside =>
    rw [forest_cons] at h
    rcases List.mem_cons.1 h with rfl | h
    · exact ⟨[], rest, rfl, fun j hj => absurd hj List.not_mem_nil⟩
    · obtain ⟨front, after, heq, hfront⟩ := hbeside h
      -- The first item beside is not deeper than the one at the head, so neither is this one.
      have hle : e.item.depth ≤ i.depth := by
        rcases front with _ | ⟨k, front⟩
        · exact le_of_beside_eq_cons heq
        · exact (hfront k (List.mem_cons_self ..)).trans (le_of_beside_eq_cons heq)
      refine ⟨i :: (below i rest ++ front), after, ?_, fun k hk => ?_⟩
      · rw [List.cons_append, List.append_assoc, ← heq, below_append_beside]
      · rcases List.mem_cons.1 hk with rfl | hk
        · exact hle
        · rcases List.mem_append.1 hk with hk | hk
          · exact hle.trans (lt_of_mem_below hk).le
          · exact hfront k hk

theorem exists_mem_forest_of_noneShallower {is : List NavItem} {i : NavItem} (h : NoneShallower is i) :
    ∃ e ∈ forest is, e.item = i := by
  induction is using forest_induction with
  | nil =>
    obtain ⟨front, after, heq, -⟩ := h
    simp at heq
  | cons k rest _ hbeside =>
    rw [forest_cons]
    obtain ⟨front, after, heq, hfront⟩ := h
    rcases front with _ | ⟨k', front⟩
    · obtain ⟨rfl, rfl⟩ := List.cons.inj heq
      exact ⟨_, List.mem_cons_self .., rfl⟩
    · rw [List.cons_append] at heq
      obtain ⟨rfl, rfl⟩ := List.cons.inj heq
      obtain ⟨front', heq, hsuffix⟩ := beside_append_cons front after
        (hfront k (List.mem_cons_self ..))
      obtain ⟨e, he, hitem⟩ := hbeside ⟨front', after, heq, fun j hj =>
        hfront j (List.mem_cons_of_mem _ (hsuffix.subset hj))⟩
      exact ⟨e, List.mem_cons_of_mem _ he, hitem⟩

/-- **The roots of a forest** are the items without a less deep one before them. -/
theorem mem_forest_iff {is : List NavItem} {i : NavItem} :
    (∃ e ∈ forest is, e.item = i) ↔ NoneShallower is i := by
  constructor
  · rintro ⟨e, he, rfl⟩
    exact noneShallower_of_mem_forest he
  · exact exists_mem_forest_of_noneShallower

/-! ## Children -/

theorem NearestShallower.append {is : List NavItem} {p i : NavItem} (h : NearestShallower is p i)
    (before after : List NavItem) : NearestShallower (before ++ (is ++ after)) p i := by
  obtain ⟨front, back, after', rfl, hlt, hback⟩ := h
  exact ⟨before ++ front, back, after' ++ after, by simp, hlt, hback⟩

theorem nearestShallower_of_child {is : List NavItem} {e c : NavEntry} (h : e.Within (forest is))
    (hc : c ∈ e.children) : NearestShallower is e.item c.item := by
  induction is using forest_induction with
  | nil =>
    rw [forest] at h
    cases h with
    | root h => cases h
    | inner hf _ => cases hf
  | cons i rest hbelow hbeside =>
    rw [forest_cons] at h
    have hrest := below_append_beside i rest
    -- The entry is the first one, or below it, or beside it.
    have hsplit : e = .node i (forest (below i rest)) ∨ e.Within (forest (below i rest)) ∨
        e.Within (forest (beside i rest)) := by
      cases h with
      | root h => exact (List.mem_cons.1 h).imp_right fun h => .inr (.root h)
      | inner hf h =>
        rcases List.mem_cons.1 hf with rfl | hf
        · exact .inr (.inl h)
        · exact .inr (.inr (.inner hf h))
    rcases hsplit with rfl | h | h
    · obtain ⟨front, after, heq, hfront⟩ := noneShallower_of_mem_forest hc
      have hmem : c.item ∈ below i rest := by
        rw [heq]
        exact List.mem_append_right _ (List.mem_cons_self ..)
      have hcut : rest = front ++ c.item :: (after ++ beside i rest) := by
        rw [← List.cons_append, ← List.append_assoc, ← heq, hrest]
      exact ⟨[], front, after ++ beside i rest, congrArg (i :: ·) hcut, lt_of_mem_below hmem, hfront⟩
    · have hnear := (hbelow h).append [i] (beside i rest)
      rwa [hrest] at hnear
    · have hnear := (hbeside h).append (i :: below i rest) []
      rwa [List.append_nil, List.cons_append, hrest] at hnear

/-- With all in between as deep as the last of them, the items up to it are below the first one. -/
theorem below_nearest {p : NavItem} {front back after : List NavItem}
    (hfront : ∀ j ∈ front ++ [p], i.depth < j.depth) (hlt : p.depth < j.depth)
    (hback : ∀ k ∈ back, j.depth ≤ k.depth) :
    below i (front ++ p :: (back ++ j :: after)) = front ++ p :: (back ++ j :: below i after) := by
  have hp : i.depth < p.depth := hfront p (by simp)
  have hall : ∀ k ∈ front ++ p :: (back ++ [j]), i.depth < k.depth := by
    intro k hk
    simp only [List.mem_append, List.mem_cons, List.not_mem_nil, or_false] at hk
    rcases hk with hk | rfl | hk | rfl
    · exact hfront k (List.mem_append_left _ hk)
    · exact hp
    · exact hp.trans (hlt.trans_le (hback k hk))
    · exact hp.trans hlt
  have hassoc : front ++ p :: (back ++ j :: after) = (front ++ p :: (back ++ [j])) ++ after := by
    simp
  rw [hassoc, below_append hall]
  simp

/-- If not all items up to one are deeper, then it is beside the first one, with all that follow. -/
theorem exists_beside_eq_append {p : NavItem} {front : List NavItem}
    (h : ¬∀ j ∈ front ++ [p], i.depth < j.depth) (after : List NavItem) :
    ∃ front', beside i (front ++ p :: after) = front' ++ p :: after := by
  obtain ⟨j, hdeep⟩ := not_forall.1 h
  obtain ⟨hj, hle⟩ := Classical.not_imp.1 hdeep
  rw [not_lt] at hle
  rcases List.mem_append.1 hj with hj | hj
  · obtain ⟨a, b, rfl⟩ := List.append_of_mem hj
    obtain ⟨a', heq, -⟩ := beside_append_cons a (b ++ p :: after) hle
    refine ⟨a' ++ j :: b, ?_⟩
    simpa using heq
  · obtain rfl := List.mem_singleton.1 hj
    obtain ⟨a', heq, -⟩ := beside_append_cons front after hle
    exact ⟨a', heq⟩

theorem exists_child_of_nearestShallower {is : List NavItem} {p i : NavItem}
    (h : NearestShallower is p i) :
    ∃ e : NavEntry, e.Within (forest is) ∧ e.item = p ∧ ∃ c ∈ e.children, c.item = i := by
  induction is using forest_induction with
  | nil =>
    obtain ⟨front, back, after, heq, -⟩ := h
    simp at heq
  | cons k rest hbelow hbeside =>
    rw [forest_cons]
    obtain ⟨front, back, after, heq, hlt, hback⟩ := h
    rcases front with _ | ⟨k', front⟩
    · -- The item is a root among those below the first one.
      obtain ⟨rfl, rfl⟩ := List.cons.inj heq
      have hcut : below k (back ++ i :: after) = back ++ i :: below k after := by
        rw [below_append fun j hj => hlt.trans_le (hback j hj), below,
          List.takeWhile_cons_of_pos (by simpa using hlt)]
        rfl
      obtain ⟨c, hc, hitem⟩ := exists_mem_forest_of_noneShallower ⟨back, below k after, hcut, hback⟩
      exact ⟨_, .root (List.mem_cons_self ..), rfl, c, hc, hitem⟩
    · rw [List.cons_append] at heq
      obtain ⟨rfl, rfl⟩ := List.cons.inj heq
      by_cases hdeep : ∀ j ∈ front ++ [p], k.depth < j.depth
      · -- Both are below the first one, with all that is in between.
        obtain ⟨e, he, hitem, hchild⟩ :=
          hbelow ⟨front, back, below k after, below_nearest hdeep hlt hback, hlt, hback⟩
        exact ⟨e, .inner (List.mem_cons_self ..) he, hitem, hchild⟩
      · -- Some item up to the nearest one is beside the first one, and so are both.
        obtain ⟨front', hcut⟩ := exists_beside_eq_append hdeep (back ++ i :: after)
        obtain ⟨e, he, hitem, hchild⟩ := hbeside ⟨front', back, after, hcut, hlt, hback⟩
        refine ⟨e, ?_, hitem, hchild⟩
        cases he with
        | root he => exact .root (List.mem_cons_of_mem _ he)
        | inner hf he => exact .inner (List.mem_cons_of_mem _ hf) he

/-- **The children of a forest**: an item belongs to the nearest one before it that is less deep. -/
theorem exists_child_iff {is : List NavItem} {p i : NavItem} :
    (∃ e : NavEntry, e.Within (forest is) ∧ e.item = p ∧ ∃ c ∈ e.children, c.item = i) ↔
      NearestShallower is p i := by
  constructor
  · rintro ⟨e, he, rfl, c, hc, rfl⟩
    exact nearestShallower_of_child he hc
  · exact exists_child_of_nearestShallower

/-! ## Siblings -/

/-- The roots of a forest never go deeper from one to the next. -/
theorem pairwise_depth_forest (is : List NavItem) :
    (forest is).Pairwise fun e f => f.item.depth ≤ e.item.depth := by
  induction is using forest_induction with
  | nil =>
    rw [forest]
    exact .nil
  | cons i rest _ hbeside =>
    rw [forest_cons]
    refine .cons (fun e he => ?_) hbeside
    obtain ⟨front, after, heq, hfront⟩ := noneShallower_of_mem_forest he
    rcases front with _ | ⟨k, front⟩
    · exact le_of_beside_eq_cons heq
    · exact (hfront k (List.mem_cons_self ..)).trans (le_of_beside_eq_cons heq)

/-- **Siblings** are again the roots of a forest. -/
theorem exists_forest_eq_children {is : List NavItem} {e : NavEntry} (h : e.Within (forest is)) :
    ∃ js, e.children = forest js := by
  induction is using forest_induction with
  | nil =>
    rw [forest] at h
    cases h with
    | root h => cases h
    | inner hf _ => cases hf
  | cons i rest hbelow hbeside =>
    rw [forest_cons] at h
    cases h with
    | root h =>
      rcases List.mem_cons.1 h with rfl | h
      · exact ⟨below i rest, rfl⟩
      · exact hbeside (.root h)
    | inner hf h =>
      rcases List.mem_cons.1 hf with rfl | hf
      · exact hbelow h
      · exact hbeside (.inner hf h)

end Navigation

/-! ## The navigation of a text -/

open Navigation

/-- What the entries of a navigation file have to do with its lines. -/
structure NavStructure.IsForestOf (s : NavStructure) (content : String) : Prop where
  /-- There is an entry for what each line says, and no other entry. -/
  items : ∀ i, i ∈ s.flatten ↔ ∃ k line, (linesOf content)[k]? = some line ∧ Says (k + 1) line i
  /-- The entries are in the order of their lines, one for each line. -/
  increasing : s.flatten.Pairwise fun i j => i.line < j.line
  paths : s.allPaths = s.flatten.map (·.path)
  /-- An item hangs below the nearest one before it that is less deep. -/
  children : ∀ p i, (∃ e : NavEntry, e.Within s.entries ∧ e.item = p ∧ ∃ c ∈ e.children, c.item = i) ↔
    NearestShallower s.flatten p i
  /-- An item is a root if no item before it is less deep. -/
  roots : ∀ i, (∃ e ∈ s.entries, e.item = i) ↔ NoneShallower s.flatten i
  /-- The depth never goes up from one sibling to the next, at the roots and below every entry. -/
  siblings : s.entries.Pairwise (fun e f => f.item.depth ≤ e.item.depth) ∧
    ∀ e : NavEntry, e.Within s.entries →
      e.children.Pairwise fun c d => d.item.depth ≤ c.item.depth

/-- **The navigation of a text** is the forest of its items. -/
theorem NavStructure.ofText_isForestOf (content : String) : (ofText content).IsForestOf content := by
  have hflatten : (ofText content).flatten = parseItems content := itemsOf_forest _
  refine ⟨fun i => ?_, ?_, ?_, fun p i => ?_, fun i => ?_, pairwise_depth_forest _, fun e he => ?_⟩
  · rw [hflatten]
    exact mem_parseItems_iff
  · rw [hflatten]
    exact pairwise_line_parseItems content
  · rw [hflatten]
    rfl
  · rw [hflatten]
    exact exists_child_iff
  · rw [hflatten]
    exact mem_forest_iff
  · obtain ⟨js, hjs⟩ := exists_forest_eq_children he
    rw [hjs]
    exact pairwise_depth_forest js

end DocLinks
