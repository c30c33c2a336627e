import DocLinks.Proofs.Text.Cutting
import DocLinks.DocPath

/-!
# Walks

The names of a walk are some of the names of the path, in their order. A path that does not lead above
its start can be walked from anywhere: what precedes the start stays (`foldl_climb_append`), so the
names from the root of the project to a path (`stepsOf`) are all that the path means.

## Contents
- `Climbs`: everything that one name can do to a walk.
- `collapsedNames_sublist`: what walks are made of.
- `IsStep`, `StaysInside`: names that lead down, and paths that do not lead above their start.
- `up_not_mem_collapsedNames`, `head?_collapsedNames`: the steps back that stay written.
- `foldl_climb_append`, `foldl_climb_join`: walks that go on from a place.
- `ofNames_append`: names that are joined in two parts.
- `up_prefix_collapse`: a collapsed path that leads above its start says so at once.
-/

namespace DocLinks.DocPath

open Text

/-! ## Walks -/

/-- A name that leads down. -/
def IsStep (n : List Char) : Prop := n ≠ [] ∧ n ≠ here ∧ n ≠ up

/-- What one name does to a walk, which is listed from its end. -/
inductive Climbs : Bool → List (List Char) → List Char → List (List Char) → Prop
  /-- An empty name and a dot stay in place. -/
  | stay {rooted walked name} : name = [] ∨ name = here → Climbs rooted walked name walked
  | down {rooted walked name} : IsStep name → Climbs rooted walked name (name :: walked)
  /-- A step up takes back the last step down. -/
  | back {rooted last rest} : last ≠ up → Climbs rooted (last :: rest) up rest
  /-- A step above the start stays written, and so do those that follow it at once. -/
  | above : Climbs false [] up [up]
  | further {rooted rest} : Climbs rooted (up :: rest) up (up :: up :: rest)
  /-- Nothing is above the root. -/
  | root : Climbs true [] up []

theorem climbs (rooted : Bool) (walked : List (List Char)) (name : List Char) :
    Climbs rooted walked name (climb rooted walked name) := by
  unfold climb
  split
  · rename_i hstay
    exact .stay hstay
  · rename_i hmoves
    split
    · rename_i hup
      subst hup
      rcases walked with _ | ⟨last, rest⟩
      · rcases rooted with _ | _
        · exact .above
        · exact .root
      · simp only
        split
        · rename_i hlast
          rw [hlast]
          exact .further
        · rename_i hlast
          exact .back hlast
    · rename_i hup
      exact .down ⟨(not_or.1 hmoves).1, (not_or.1 hmoves).2, hup⟩

section Climbs

variable {rooted : Bool} {walked after : List (List Char)} {name : List Char}

theorem Climbs.climb_eq (h : Climbs rooted walked name after) : climb rooted walked name = after := by
  cases h with
  | stay hstay => exact if_pos hstay
  | down hstep =>
    unfold climb
    rw [if_neg (not_or.2 ⟨hstep.1, hstep.2.1⟩), if_neg hstep.2.2]
  | back hlast =>
    unfold climb
    rw [if_neg (by decide), if_pos rfl]
    exact if_neg hlast
  | above => rfl
  | further => rfl
  | root => rfl

/-- A step adds its name, or takes names away. -/
theorem Climbs.sublist (h : Climbs rooted walked name after) :
    after.reverse.Sublist (walked.reverse ++ [name]) := by
  cases h with
  | stay _ => exact List.sublist_append_left ..
  | down _ => exact List.reverse_cons ▸ .refl _
  | back _ =>
    rw [List.reverse_cons, List.append_assoc]
    exact List.sublist_append_left ..
  | above => exact .refl _
  | further => exact List.reverse_cons ▸ .refl _
  | root => exact List.nil_sublist _

/-- A step of an unrooted walk that is not written down takes back the last one that leads down. -/
theorem Climbs.back_of_ne (h : Climbs false walked name after) (hmoves : ¬(name = [] ∨ name = here))
    (hne : after ≠ name :: walked) : name = up ∧ ∃ last, walked = last :: after ∧ last ≠ up := by
  cases h with
  | stay hstay => exact absurd hstay hmoves
  | back hlast => exact ⟨rfl, _, rfl, hlast⟩
  | down _ | above | further => exact absurd rfl hne

theorem Climbs.ne_of_mem (h : Climbs rooted walked name after) {n : List Char}
    (hwalked : ∀ m ∈ walked, m ≠ [] ∧ m ≠ here) (hn : n ∈ after) : n ≠ [] ∧ n ≠ here := by
  have hup : up ≠ [] ∧ up ≠ here := by decide
  cases h with
  | stay _ => exact hwalked n hn
  | down hstep =>
    rcases List.mem_cons.1 hn with rfl | hn
    · exact ⟨hstep.1, hstep.2.1⟩
    · exact hwalked n hn
  | back _ => exact hwalked n (List.mem_cons_of_mem _ hn)
  | above => exact List.mem_singleton.1 hn ▸ hup
  | further =>
    rcases List.mem_cons.1 hn with rfl | hn
    · exact hup
    · exact hwalked n hn
  | root => cases hn

/-- A step back that could not be taken stays written. -/
theorem Climbs.up_mem (h : Climbs rooted walked name after) (hup : up ∈ walked) : up ∈ after := by
  cases h with
  | stay _ | root => exact hup
  | down _ => exact List.mem_cons_of_mem _ hup
  | back hlast => exact (List.mem_cons.1 hup).resolve_left (Ne.symm hlast)
  | above | further => exact List.mem_cons_self ..

/-- A step back that is taken takes a name away, if there is one. -/
theorem Climbs.eq_tail (h : Climbs rooted walked up after) (hup : up ∉ after) :
    after = walked.tail := by
  cases h with
  | stay hstay => exact absurd hstay (by decide)
  | down hstep => exact absurd rfl hstep.2.2
  | above | further => exact absurd (List.mem_cons_self ..) hup
  | back _ | root => rfl

theorem Climbs.up_not_mem (h : Climbs true walked name after) (hup : up ∉ walked) : up ∉ after := by
  cases h with
  | stay _ | root => exact hup
  | down hstep => exact fun hmem => (List.mem_cons.1 hmem).elim (Ne.symm hstep.2.2) hup
  | back _ => exact fun hmem => hup (List.mem_cons_of_mem _ hmem)
  | further => exact absurd (List.mem_cons_self ..) hup

theorem Climbs.getLast?_eq (h : Climbs rooted walked name after)
    (hlast : up ∈ walked → walked.getLast? = some up) : up ∈ after → after.getLast? = some up := by
  -- A name on top of others leaves the end of the walk alone.
  have htop : ∀ {n : List Char} {ns : List (List Char)}, up ∈ ns → (n :: ns).getLast? = ns.getLast? := by
    intro n ns hmem
    obtain ⟨m, ms, rfl⟩ := List.exists_cons_of_ne_nil (List.ne_nil_of_mem hmem)
    exact List.getLast?_cons_cons
  cases h with
  | stay _ | root => exact hlast
  | down hstep =>
    intro hmem
    have hbelow := (List.mem_cons.1 hmem).resolve_left (Ne.symm hstep.2.2)
    rw [htop hbelow, hlast hbelow]
  | back _ => exact fun hmem => htop hmem ▸ hlast (List.mem_cons_of_mem _ hmem)
  | above => exact fun _ => rfl
  | further => exact fun _ => hlast (List.mem_cons_self ..)

/-- A step that stays below the start is the same wherever the start is. -/
theorem Climbs.append (h : Climbs false walked name after) (hup : up ∉ after) (base : List (List Char)) :
    Climbs rooted (walked ++ base) name (after ++ base) := by
  cases h with
  | stay hstay => exact .stay hstay
  | down hstep => exact .down hstep
  | back hlast => exact .back hlast
  | above | further => exact absurd (List.mem_cons_self ..) hup

end Climbs

theorem climb_of_stay {n : List Char} (h : n = [] ∨ n = here) (rooted : Bool)
    (walked : List (List Char)) : climb rooted walked n = walked :=
  (Climbs.stay h).climb_eq

theorem climb_of_isStep {n : List Char} (h : IsStep n) (rooted : Bool) (walked : List (List Char)) :
    climb rooted walked n = n :: walked :=
  (Climbs.down h).climb_eq

theorem foldl_climb_sublist (rooted : Bool) (ns : List (List Char)) :
    ∀ walked, (ns.foldl (climb rooted) walked).reverse.Sublist (walked.reverse ++ ns) := by
  induction ns with
  | nil => simp
  | cons n ns ih =>
    intro walked
    have hstep := (climbs rooted walked n).sublist.append_right ns
    rw [List.append_assoc, List.singleton_append] at hstep
    exact (ih _).trans hstep

/-- **The names after a walk** are some of those of the path, in their order. -/
theorem collapsedNames_sublist (rooted : Bool) (ns : List (List Char)) :
    (collapsedNames rooted ns).Sublist ns :=
  foldl_climb_sublist rooted ns []

theorem foldl_climb_of_isStep {ns : List (List Char)} (h : ∀ n ∈ ns, IsStep n) (rooted : Bool) :
    ∀ walked, ns.foldl (climb rooted) walked = ns.reverse ++ walked := by
  induction ns with
  | nil => simp
  | cons n ns ih =>
    intro walked
    rw [List.foldl_cons, climb_of_isStep (h n (List.mem_cons_self ..)),
      ih fun m hm => h m (List.mem_cons_of_mem _ hm), List.reverse_cons, List.append_assoc,
      List.singleton_append]

/-- Names that have been walked down to are taken back one by one. -/
theorem foldl_climb_replicate_up (rooted : Bool) (k : Nat) :
    ∀ {walked : List (List Char)}, (∀ n ∈ walked, n ≠ up) → k ≤ walked.length →
      (List.replicate k up).foldl (climb rooted) walked = walked.drop k := by
  induction k with
  | zero => simp
  | succ k ih =>
    intro walked hwalked hk
    rcases walked with _ | ⟨last, rest⟩
    · simp at hk
    · have hstep : climb rooted (last :: rest) up = rest :=
        (Climbs.back (hwalked last (List.mem_cons_self ..))).climb_eq
      rw [List.replicate_succ, List.foldl_cons, hstep,
        ih (fun n hn => hwalked n (List.mem_cons_of_mem _ hn)) (by simpa using hk), List.drop_succ_cons]

/-- No name after a walk stays in place. -/
theorem ne_of_mem_collapsedNames {rooted : Bool} {ns : List (List Char)} {n : List Char}
    (h : n ∈ collapsedNames rooted ns) : n ≠ [] ∧ n ≠ here := by
  have hwalk : ∀ m ∈ ns.foldl (climb rooted) [], m ≠ [] ∧ m ≠ here :=
    List.foldlRecOn (motive := fun walked => ∀ m ∈ walked, m ≠ [] ∧ m ≠ here) ns (climb rooted)
      (fun _ h => absurd h List.not_mem_nil) fun walked h n _ _ => (climbs rooted walked n).ne_of_mem h
  exact hwalk n (List.mem_reverse.1 h)

/-! ## Paths that stay inside -/

theorem up_mem_foldl_climb {rooted : Bool} (ns : List (List Char)) {walked : List (List Char)}
    (h : up ∈ walked) : up ∈ ns.foldl (climb rooted) walked :=
  List.foldlRecOn (motive := fun walked => up ∈ walked) ns (climb rooted) h
    fun walked h name _ => (climbs rooted walked name).up_mem h

/-- More steps up than there are names do not stay inside. -/
theorem up_mem_foldl_climb_replicate {walked : List (List Char)} {k : Nat}
    (hwalked : ∀ n ∈ walked, n ≠ up) (hk : walked.length < k) :
    up ∈ (List.replicate k up).foldl (climb false) walked := by
  obtain ⟨more, rfl⟩ : ∃ more, k = walked.length + (1 + more) := ⟨k - walked.length - 1, by omega⟩
  rw [← List.replicate_append_replicate, List.foldl_append,
    foldl_climb_replicate_up false _ hwalked (Nat.le_refl _), List.drop_length,
    ← List.replicate_append_replicate, List.foldl_append]
  exact up_mem_foldl_climb _ (by decide)

/-- Steps back that are all taken take names away. -/
theorem foldl_climb_replicate_up_of_not_mem {rooted : Bool} (k : Nat) :
    ∀ {walked}, up ∉ (List.replicate k up).foldl (climb rooted) walked →
      (List.replicate k up).foldl (climb rooted) walked = walked.drop k := by
  induction k with
  | zero => simp
  | succ k ih =>
    intro walked h
    rw [List.replicate_succ, List.foldl_cons] at h ⊢
    have hstep : up ∉ climb rooted walked up := fun hmem => h (up_mem_foldl_climb _ hmem)
    rw [ih h, (climbs rooted walked up).eq_tail hstep, List.drop_tail]

/-- A rooted walk takes every step back. -/
theorem up_not_mem_collapsedNames (ns : List (List Char)) : up ∉ collapsedNames true ns := by
  have hwalk : up ∉ ns.foldl (climb true) [] :=
    List.foldlRecOn (motive := fun walked => up ∉ walked) ns (climb true) List.not_mem_nil
      fun walked h name _ => (climbs true walked name).up_not_mem h
  exact fun h => hwalk (List.mem_reverse.1 h)

/-- The steps back that stay written come before all other names. -/
theorem head?_collapsedNames {rooted : Bool} {ns : List (List Char)}
    (h : up ∈ collapsedNames rooted ns) : (collapsedNames rooted ns).head? = some up := by
  have hwalk : up ∈ ns.foldl (climb rooted) [] → (ns.foldl (climb rooted) []).getLast? = some up :=
    List.foldlRecOn (motive := fun walked => up ∈ walked → walked.getLast? = some up) ns (climb rooted)
      (fun h => absurd h List.not_mem_nil) fun walked h name _ => (climbs rooted walked name).getLast?_eq h
  unfold collapsedNames at h ⊢
  rw [List.head?_reverse]
  exact hwalk (List.mem_reverse.1 h)

/-- **What precedes the start of a walk** stays, if the walk does not lead above its start. -/
theorem foldl_climb_append {ns : List (List Char)} (rooted : Bool) (base : List (List Char)) :
    ∀ {walked}, up ∉ ns.foldl (climb false) walked →
      ns.foldl (climb rooted) (walked ++ base) = ns.foldl (climb false) walked ++ base := by
  induction ns with
  | nil => exact fun _ => rfl
  | cons n ns ih =>
    intro walked h
    have hup : up ∉ climb false walked n := fun hmem => h (up_mem_foldl_climb ns hmem)
    have hstep : climb rooted (walked ++ base) n = climb false walked n ++ base :=
      ((climbs false walked n).append hup base).climb_eq
    rw [List.foldl_cons, hstep, ih h, List.foldl_cons]

/-- The names from the root of the project to a path. -/
def stepsOf (p : List Char) : List (List Char) := collapsedNames false (names p)

/-- A path from the root of the project that does not lead out of it. -/
def StaysInside (p : List Char) : Prop := p.head? ≠ some '/' ∧ up ∉ stepsOf p

instance (p : List Char) : Decidable (StaysInside p) := inferInstanceAs (Decidable (_ ∧ _))

theorem StaysInside.isStep {p n : List Char} (h : StaysInside p) (hn : n ∈ stepsOf p) : IsStep n :=
  ⟨(ne_of_mem_collapsedNames hn).1, (ne_of_mem_collapsedNames hn).2, fun hup => h.2 (hup ▸ hn)⟩

theorem slash_not_mem_of_mem_collapsedNames {rooted : Bool} {p n : List Char}
    (hn : n ∈ collapsedNames rooted (names p)) : '/' ∉ n :=
  not_mem_of_mem_splitOn ((collapsedNames_sublist _ _).mem hn)

theorem slash_not_mem_of_mem_stepsOf {p n : List Char} (hn : n ∈ stepsOf p) : '/' ∉ n :=
  slash_not_mem_of_mem_collapsedNames hn

/-- Such a path goes on from the current directory. -/
theorem StaysInside.absoluteNames {p : List Char} (h : StaysInside p) (cwd : List (List Char)) :
    absoluteNames cwd p = collapsedNames true cwd ++ stepsOf p := by
  unfold DocPath.absoluteNames
  split
  · exact absurd rfl h.1
  · have hup : up ∉ (names p).foldl (climb false) [] := fun hmem => h.2 (List.mem_reverse.2 hmem)
    unfold collapsedNames
    rw [List.foldl_append, ← List.nil_append (cwd.foldl (climb true) []),
      foldl_climb_append true _ hup, List.reverse_append, List.nil_append]
    rfl

/-! ## Joined paths -/

theorem names_append_slash (a b : List Char) : names (a ++ '/' :: b) = names a ++ names b :=
  List.splitOn_append_cons_self ..

/-- Names with slashes between them are cut again. -/
theorem names_ofNames {ns : List (List Char)} (h : ∀ n ∈ ns, '/' ∉ n) (hne : ns ≠ []) :
    names (ofNames ns) = ns :=
  List.splitOn_intercalate '/' h hne

theorem ofNames_cons (n : List Char) {ns : List (List Char)} (hns : ns ≠ []) :
    ofNames (n :: ns) = n ++ '/' :: ofNames ns := by
  rw [ofNames, List.intercalate_cons_of_ne_nil hns, List.append_assoc, List.singleton_append, ofNames]

/-- Two lists of names are joined with a slash between them. -/
theorem ofNames_append {ns ms : List (List Char)} (hns : ns ≠ []) (hms : ms ≠ []) :
    ofNames (ns ++ ms) = ofNames ns ++ '/' :: ofNames ms := by
  induction ns with
  | nil => exact absurd rfl hns
  | cons n ns ih =>
    rcases ns with _ | ⟨m, ns⟩
    · rw [List.singleton_append, ofNames_cons n hms]
      simp [ofNames]
    · rw [List.cons_append, ofNames_cons n (by simp), ih (by simp), ofNames_cons n (by simp),
        List.append_assoc, List.cons_append]

theorem prefix_ofNames_cons (n : List Char) (ns : List (List Char)) : n <+: ofNames (n :: ns) := by
  rcases ns with _ | ⟨m, ns⟩
  · simp [ofNames]
  · rw [ofNames_cons n (List.cons_ne_nil m ns)]
    exact List.prefix_append ..

/-- A walk along a joined path goes along the directory first. -/
theorem foldl_climb_join {dir p : List Char} (hp : p.head? ≠ some '/') (rooted : Bool)
    (walked : List (List Char)) :
    (names (join dir p)).foldl (climb rooted) walked
      = (names p).foldl (climb rooted) ((names dir).foldl (climb rooted) walked) := by
  have hempty : ∀ walked, (names []).foldl (climb rooted) walked = walked := fun walked => by
    rw [names, List.splitOn_nil, List.foldl_cons, climb_of_stay (.inl rfl), List.foldl_nil]
  unfold join
  split
  · exact absurd rfl hp
  · split
    · rename_i hend
      rcases hend with hend | hend
      · rw [List.isEmpty_iff.1 hend, hempty, List.nil_append]
      · obtain ⟨front, rfl⟩ := List.isSuffixOf_iff_suffix.1 hend
        rw [List.append_assoc, List.singleton_append, names_append_slash, names_append_slash,
          List.foldl_append, List.foldl_append, hempty]
    · rw [names_append_slash, List.foldl_append]

theorem head_join {dir p : List Char} (hdir : dir.head? ≠ some '/') (hp : p.head? ≠ some '/') :
    (join dir p).head? ≠ some '/' := by
  unfold join
  split
  · exact absurd rfl hp
  · split <;> rcases dir with _ | ⟨c, dir⟩ <;> first | exact hp | exact hdir | simp_all

/-! ## Leading slashes -/

theorem isEmpty_leadingSlashes_iff {p : List Char} :
    (leadingSlashes p).isEmpty = true ↔ p.head? ≠ some '/' := by
  unfold leadingSlashes
  rcases p with _ | ⟨c, p⟩
  · simp
  · split <;> simp_all

theorem exists_leadingSlashes (p : List Char) : ∃ k, leadingSlashes p = List.replicate k '/' := by
  unfold leadingSlashes
  split
  · exact ⟨1, rfl⟩
  · exact ⟨2, rfl⟩
  · exact ⟨1, rfl⟩
  · exact ⟨0, rfl⟩

/-- A joined path is rooted if its directory is. -/
theorem isEmpty_leadingSlashes_join (dir : List Char) {p : List Char} (hp : p.head? ≠ some '/') :
    (leadingSlashes (join dir p)).isEmpty = (leadingSlashes dir).isEmpty := by
  rw [Bool.eq_iff_iff, isEmpty_leadingSlashes_iff, isEmpty_leadingSlashes_iff]
  unfold join
  split
  · exact absurd rfl hp
  · rcases dir with _ | ⟨c, dir⟩
    · simpa using hp
    · split <;> simp

/-- A collapsed path with a step up begins with one. -/
theorem up_prefix_collapse {p : List Char}
    (h : up ∈ collapsedNames (!(leadingSlashes p).isEmpty) (names p)) : up <+: collapse p := by
  have hlead : leadingSlashes p = [] := by
    rcases hlead : (leadingSlashes p).isEmpty with _ | _
    · rw [hlead] at h
      exact absurd h (up_not_mem_collapsedNames (names p))
    · exact List.isEmpty_iff.1 hlead
  rw [hlead] at h
  obtain ⟨rest, hrest⟩ := List.head?_eq_some_iff.1 (head?_collapsedNames h)
  have hstart := prefix_ofNames_cons up rest
  unfold collapse
  simp only [hlead, List.nil_append, hrest]
  split
  · rename_i hempty
    rw [List.isEmpty_iff.1 hempty] at hstart
    exact absurd (List.prefix_nil.1 hstart) (by decide)
  · exact hstart

end DocLinks.DocPath
