import DocLinks.Assoc
import Mathlib.Algebra.GroupWithZero.Nat
import Mathlib.Data.List.Induction

/-!
# Maps of pairs

What a look-up finds in a map that was made from a list of pairs: in `ofList` the last pair of a key
(`get?_ofList`), in `group` the values of all its pairs in order (`get?_group`), so that grouping items by a
key is filtering them (`getD_get?_group`), and no pair is lost (`sum_length_group`). Pairs under other
keys make the same map under the other keys (`ofList_map`).
-/

namespace DocLinks

theorem nodup_eraseDups {α : Type} [DecidableEq α] (as : List α) : as.eraseDups.Nodup := by
  rcases as with _ | ⟨a, as⟩
  · exact List.nodup_nil
  · rw [List.eraseDups_cons, List.nodup_cons]
    refine ⟨?_, nodup_eraseDups _⟩
    rw [List.mem_eraseDups, List.mem_filter]
    rintro ⟨_, h⟩
    simp at h
termination_by as.length
decreasing_by
  have := List.length_filter_le (fun b => !b == a) as
  simp only [List.length_cons]
  omega

theorem eraseDups_sublist {α : Type} [DecidableEq α] (as : List α) : as.eraseDups.Sublist as := by
  rcases as with _ | ⟨a, as⟩
  · exact .slnil
  · rw [List.eraseDups_cons]
    exact ((eraseDups_sublist _).trans List.filter_sublist).cons_cons a
termination_by as.length
decreasing_by
  have := List.length_filter_le (fun b => !b == a) as
  simp only [List.length_cons]
  omega

namespace Assoc

variable {α β : Type} [DecidableEq α]

/-! ## The last pair -/

/-- **A map of pairs** has for each key the last pair of that key. -/
theorem get?_ofList (pairs : List (α × β)) (key : α) :
    get? (ofList pairs) key = (pairs.reverse.find? (·.1 = key)).map Prod.snd := by
  induction pairs using List.reverseRecOn with
  | nil => rfl
  | append_singleton pairs p ih =>
    unfold ofList at ih ⊢
    rw [List.foldl_append, List.foldl_cons, List.foldl_nil, get?_put, List.reverse_append,
      List.reverse_singleton, List.singleton_append]
    by_cases h : p.1 = key <;> simp [h, ih]

/-- What a look-up finds is an entry. -/
theorem mem_of_get? {m : Assoc α β} {key : α} {value : β} (h : get? m key = some value) :
    (key, value) ∈ m := by
  induction m with
  | nil => cases h
  | cons e rest ih =>
    unfold get? at h
    split at h
    · rename_i hkey
      rw [← hkey, ← Option.some.inj h]
      exact List.mem_cons_self ..
    · exact List.mem_cons_of_mem _ (ih h)

/-- A map of pairs holds nothing but what was in a pair. -/
theorem mem_of_get?_ofList (pairs : List (α × β)) {k : α} {v : β}
    (h : (ofList pairs).get? k = some v) : (k, v) ∈ pairs := by
  rw [get?_ofList] at h
  obtain ⟨p, hp, rfl⟩ := Option.map_eq_some_iff.1 h
  have hk : p.1 = k := by simpa using List.find?_some hp
  exact hk ▸ List.mem_reverse.1 (List.mem_of_find?_eq_some hp)

/-- A key of one of the pairs is found. -/
theorem isSome_get?_ofList {pairs : List (α × β)} {p : α × β} (h : p ∈ pairs) :
    ((ofList pairs).get? p.1).isSome := by
  rw [get?_ofList, Option.isSome_map, List.find?_isSome]
  exact ⟨p, List.mem_reverse.2 h, by simp⟩

/-- Pairs in between that do not have the key do not change what is found. -/
theorem get?_ofList_append {before between after : List (α × β)} {key : α}
    (h : ∀ p ∈ between, p.1 ≠ key) :
    (ofList (before ++ between ++ after)).get? key = (ofList (before ++ after)).get? key := by
  have hnone : between.reverse.find? (·.1 = key) = none := by
    rw [List.find?_eq_none]
    exact fun p hp => by simpa using h p (List.mem_reverse.1 hp)
  simp only [get?_ofList, List.reverse_append, List.find?_append, hnone, Option.none_or]

/-- Setting a key twice. -/
theorem put_put (m : Assoc α β) (key : α) (value value' : β) :
    put (put m key value) key value' = put m key value' := by
  unfold put
  induction m with
  | nil => simp [update]
  | cons e rest ih =>
    obtain ⟨k, v⟩ := e
    by_cases hk : k = key
    · simp [update, hk]
    · simp [update, hk, ih]

/-! ## Groups -/

/-- Setting a key in a map that is written as a function of its keys. -/
theorem update_map (keys : List α) (g : α → β) (key : α) (f : Option β → β) (hnd : keys.Nodup) :
    update (keys.map fun k => (k, g k)) key f
      = if key ∈ keys then keys.map fun k => (k, if k = key then f (some (g k)) else g k)
        else keys.map (fun k => (k, g k)) ++ [(key, f none)] := by
  induction keys with
  | nil => rfl
  | cons k ks ih =>
    obtain ⟨hk, hnd⟩ := List.nodup_cons.1 hnd
    by_cases he : k = key
    · subst he
      have hrest : ∀ x ∈ ks, (x, g x) = (x, if x = k then f (some (g x)) else g x) := by
        intro x hx
        rw [if_neg fun h : x = k => hk (h ▸ hx)]
      simp only [List.map_cons, update, if_true, List.mem_cons, true_or, List.cons.injEq, true_and]
      exact List.map_congr_left hrest
    · have hne : ¬key = k := fun h => he h.symm
      simp only [List.map_cons, update, if_neg he, ih hnd, List.mem_cons, hne, false_or]
      split <;> simp

/-- **The groups of pairs**: each key once, in the order of their first pairs, with its values in
order. -/
theorem group_eq (pairs : List (α × β)) :
    group pairs = (pairs.map Prod.fst).eraseDups.map fun k =>
      (k, (pairs.filter (·.1 = k)).map Prod.snd) := by
  induction pairs using List.reverseRecOn with
  | nil => rfl
  | append_singleton pairs p ih =>
    unfold group at ih ⊢
    rw [List.foldl_append, ih]
    simp only [List.foldl_cons, List.foldl_nil]
    rw [update_map _ _ _ _ (nodup_eraseDups _), List.map_append, List.eraseDups_append]
    by_cases hp : p.1 ∈ pairs.map Prod.fst
    · rw [if_pos (List.mem_eraseDups.2 hp)]
      have hnew : [p.1].removeAll (pairs.map Prod.fst) = [] := by
        simpa [List.removeAll] using hp
      simp only [List.map_cons, List.map_nil, hnew, List.eraseDups_nil, List.append_nil]
      refine List.map_congr_left fun k _ => ?_
      by_cases hk : k = p.1
      · subst hk; simp
      · simp [hk, Ne.symm hk]
    · rw [if_neg (mt List.mem_eraseDups.1 hp)]
      have hnew : [p.1].removeAll (pairs.map Prod.fst) = [p.1] := by
        simpa [List.removeAll] using hp
      have hnone : pairs.filter (·.1 = p.1) = [] := by
        rw [List.filter_eq_nil_iff]
        intro q hq hqp
        exact hp (List.mem_map.2 ⟨q, hq, by simpa using hqp⟩)
      simp only [List.map_cons, List.map_nil, hnew, List.map_append]
      refine congrArg₂ _ (List.map_congr_left fun k hk => ?_) (by simp [hnone, List.eraseDups_cons])
      have hne : ¬p.1 = k := fun h => hp (h ▸ List.mem_eraseDups.1 hk)
      simp [hne]

/-- A look-up in a map that is written as a function of its keys. -/
theorem get?_map_self (keys : List α) (g : α → β) (key : α) :
    get? (keys.map fun k => (k, g k)) key = if key ∈ keys then some (g key) else none := by
  induction keys with
  | nil => rfl
  | cons k ks ih =>
    rw [List.map_cons]
    unfold get?
    by_cases hk : k = key
    · simp [hk]
    · simp [hk, Ne.symm hk, ih]

/-- **The group of a key** has the values of its pairs, in order. -/
theorem get?_group (pairs : List (α × β)) (key : α) :
    get? (group pairs) key = if key ∈ pairs.map Prod.fst
      then some ((pairs.filter (·.1 = key)).map Prod.snd) else none := by
  rw [group_eq, get?_map_self]
  simp only [List.mem_eraseDups]

/-- **The items of a kind**: grouped by a key and looked up, they are the items with that key, in order. -/
theorem getD_get?_group (key : β → α) (items : List β) (k : α) :
    ((group (items.map fun b => (key b, b))).get? k).getD [] = items.filter (key · = k) := by
  have hvalues : ((items.map fun b => (key b, b)).filter (·.1 = k)).map Prod.snd
      = items.filter (key · = k) := by
    rw [List.filter_map, List.map_map]
    exact List.map_id _
  rw [get?_group]
  split
  · exact hvalues
  · rename_i hnone
    -- No item has the key.
    rw [eq_comm, Option.getD_none, List.filter_eq_nil_iff]
    intro b hb hkey
    apply hnone
    rw [List.map_map]
    exact List.mem_map.2 ⟨b, hb, by simpa using hkey⟩

/-- One more value in a map of lists. -/
theorem sum_length_update (m : Assoc α (List β)) (key : α) (value : β) :
    ((update m key fun old => old.getD [] ++ [value]).map (·.2.length)).sum
      = (m.map (·.2.length)).sum + 1 := by
  induction m with
  | nil => rfl
  | cons e rest ih =>
    obtain ⟨k, values⟩ := e
    unfold update
    split
    · simp only [List.map_cons, List.sum_cons, Option.getD_some, List.length_append,
        List.length_singleton]
      omega
    · simp only [List.map_cons, List.sum_cons, ih]
      omega

/-- **Every pair is in one group**, as often as it is there. -/
theorem sum_length_group (pairs : List (α × β)) :
    ((group pairs).map (·.2.length)).sum = pairs.length := by
  induction pairs using List.reverseRecOn with
  | nil => rfl
  | append_singleton pairs p ih =>
    unfold group at ih ⊢
    rw [List.foldl_append, List.foldl_cons, List.foldl_nil, sum_length_update, ih,
      List.length_append, List.length_singleton]

/-! ## Other keys -/

section Map

variable {γ δ : Type} [DecidableEq γ] {f : α → γ} (g : β → δ)

theorem put_map (hf : Function.Injective f) (m : Assoc α β) (key : α) (value : β) :
    put (m.map fun p => (f p.1, g p.2)) (f key) (g value)
      = (put m key value).map fun p => (f p.1, g p.2) := by
  unfold put
  induction m with
  | nil => rfl
  | cons e rest ih =>
    obtain ⟨k, v⟩ := e
    by_cases hk : k = key
    · simp [update, hk]
    · simp [update, hk, hf.ne hk, ih]

/-- **A map under other names.** If no two keys get one name, the pairs under the new names make the
same map under the new names. -/
theorem ofList_map (hf : Function.Injective f) (pairs : List (α × β)) :
    ofList (pairs.map fun p => (f p.1, g p.2)) = (ofList pairs).map fun p => (f p.1, g p.2) := by
  induction pairs using List.reverseRecOn with
  | nil => rfl
  | append_singleton pairs p ih =>
    unfold ofList at ih ⊢
    rw [List.map_append, List.foldl_append, ih, List.foldl_append]
    exact put_map g hf _ p.1 p.2

end Map

end Assoc

end DocLinks
