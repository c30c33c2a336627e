import DocLinks.Project.Resolve
import DocLinks.Proofs.DocPath.Walks

/-!
# Ways between paths

The target that leads from one document to another is written in the characters of the second path
and of the current directory, with dots and slashes between them (`mem_relativeTarget`). Where both
paths stay inside the project, the way leads from the first to the second, whatever the current
directory, and resolving the target follows the way (`plainResolution_relativeTarget`).

## Contents
- `foldl_climb_wayBetween`: a way leads to its target.
- `mem_relativeTarget`: the characters of a way.
- `wayText`, `normalize_wayText`: a way as it is written and read again.
- `plainResolution_relativeTarget`: the target that is written for a path resolves to the path.
-/

namespace DocLinks

namespace DocPath

open Text

/-! ## Ways lead to their targets -/

theorem sharedLength_append (front a b : List (List Char)) :
    sharedLength (front ++ a) (front ++ b) = front.length + sharedLength a b := by
  induction front with
  | nil => simp
  | cons n front ih =>
    simp only [List.cons_append, sharedLength, if_true, ih, List.length_cons]
    omega

/-- What two places share does not count. -/
theorem wayBetween_append (front a b : List (List Char)) :
    wayBetween (front ++ a) (front ++ b) = wayBetween a b := by
  unfold wayBetween
  simp only [sharedLength_append, List.length_append, Nat.add_sub_add_left, List.drop_length_add_append]

theorem sharedLength_le (a b : List (List Char)) :
    sharedLength a b ≤ a.length ∧ a.take (sharedLength a b) = b.take (sharedLength a b) := by
  induction a generalizing b with
  | nil => simp [sharedLength]
  | cons n a ih =>
    rcases b with _ | ⟨m, b⟩
    · simp [sharedLength]
    · unfold sharedLength
      split
      · rename_i h
        obtain ⟨hle, htake⟩ := ih b
        exact ⟨Nat.succ_le_succ hle, by rw [List.take_succ_cons, List.take_succ_cons, h, htake]⟩
      · simp

/-- **A way leads to its target.** -/
theorem foldl_climb_wayBetween {a b : List (List Char)} (ha : ∀ n ∈ a, IsStep n)
    (hb : ∀ n ∈ b, IsStep n) (rooted : Bool) :
    (wayBetween a b).foldl (climb rooted) a.reverse = b.reverse := by
  obtain ⟨hle, htake⟩ := sharedLength_le a b
  unfold wayBetween
  generalize sharedLength a b = n at hle htake
  have hdown : ∀ m ∈ b.drop n, IsStep m := fun m hm => hb m (List.mem_of_mem_drop hm)
  rw [List.foldl_append, foldl_climb_replicate_up rooted _ (fun m hm => (ha m (List.mem_reverse.1 hm)).2.2)
    (by simp), foldl_climb_of_isStep hdown, ← List.reverse_take, htake, ← List.reverse_append,
    List.take_append_drop]

theorem mem_absoluteNames {cwd : List (List Char)} {p n : List Char}
    (h : n ∈ absoluteNames cwd p) : n ∈ cwd ∨ n ∈ names p := by
  unfold absoluteNames at h
  split at h
  · exact .inr ((collapsedNames_sublist _ _).mem h)
  · exact List.mem_append.1 ((collapsedNames_sublist _ _).mem h)

theorem mem_wayBetween {start target : List (List Char)} {n : List Char}
    (h : n ∈ wayBetween start target) : n = up ∨ n ∈ target := by
  unfold wayBetween at h
  rcases List.mem_append.1 h with h | h
  · exact .inl (List.eq_of_mem_replicate h)
  · exact .inr (List.mem_of_mem_drop h)

/-! ## Characters -/

/-- A joined path is written in the characters of its names, and slashes. -/
theorem mem_ofNames {ns : List (List Char)} {c : Char} (h : c ∈ ofNames ns) :
    c = '/' ∨ ∃ n ∈ ns, c ∈ n :=
  (mem_intercalate h).imp_left List.mem_singleton.1

/-- The names of a path are written in its characters. -/
theorem mem_of_mem_names {p n : List Char} {c : Char} (hn : n ∈ names p) (hc : c ∈ n) : c ∈ p :=
  mem_of_mem_splitOn hn hc

/-! ## Written ways -/

/-- A path without empty names has no slash at its ends. -/
theorem no_slash_at_ends {p : List Char} (h : [] ∉ names p) : p.head? ≠ some '/' ∧ ¬['/'] <:+ p := by
  constructor
  · intro hhead
    obtain ⟨rest, rfl⟩ : ∃ rest, p = '/' :: rest := List.head?_eq_some_iff.1 hhead
    rw [← List.nil_append ('/' :: rest), names_append_slash] at h
    exact h (by simp [names])
  · rintro ⟨front, rfl⟩
    rw [names_append_slash] at h
    exact h (by simp [names])

theorem dropEndWhile_of_not_suffix {c : Char} {p : List Char} (h : ¬[c] <:+ p) :
    dropEndWhile (· == c) p = p := by
  unfold dropEndWhile
  rcases hp : p.reverse with _ | ⟨d, ds⟩
  · rw [List.reverse_eq_nil_iff.1 hp]
    rfl
  · have hd : d ≠ c := by
      rintro rfl
      exact h ⟨ds.reverse, by rw [← List.reverse_cons, ← hp, List.reverse_reverse]⟩
    rw [List.dropWhile_cons_of_neg (by simpa using hd), ← hp, List.reverse_reverse]

theorem replaceChar_of_not_mem {old new : Char} {cs : List Char} (h : old ∉ cs) :
    replaceChar old new cs = cs := by
  unfold replaceChar
  refine (List.map_congr_left fun c hc => ?_).trans (List.map_id cs)
  rw [if_neg (fun heq : c = old => h (heq ▸ hc))]
  rfl

/-- A way as it is written: its names, or a dot. -/
def wayText (w : List (List Char)) : List Char := if w.isEmpty then here else ofNames w

section Way

variable {w : List (List Char)} (hw : ∀ n ∈ w, n ≠ [] ∧ n ≠ here ∧ '/' ∉ n)

include hw

theorem names_wayText : names (wayText w) = if w.isEmpty then [here] else w := by
  unfold wayText
  split
  · decide
  · rename_i hne
    exact names_ofNames (fun n hn => (hw n hn).2.2) (by simpa using hne)

theorem nil_not_mem_names_wayText : [] ∉ names (wayText w) := by
  rw [names_wayText hw]
  split
  · decide
  · exact fun h => (hw _ h).1 rfl

/-- A walk along a written way. -/
theorem foldl_climb_wayText (rooted : Bool) (walked : List (List Char)) :
    (names (wayText w)).foldl (climb rooted) walked = w.foldl (climb rooted) walked := by
  rw [names_wayText hw]
  split
  · rename_i hempty
    rw [List.isEmpty_iff.1 hempty]
    exact climb_of_stay (.inr rfl) rooted walked
  · rfl

/-- A written way with a step that stays in place before it, or without one, is normalized to the
way. -/
theorem normalize_wayText {p : List Char} (hp : p = wayText w ∨ p = '.' :: '/' :: wayText w)
    (hslash : '\\' ∉ p) : normalize p = wayText w := by
  obtain ⟨hhead, hend⟩ := no_slash_at_ends (nil_not_mem_names_wayText hw)
  have hne : wayText w ≠ [] := by
    intro hnil
    have h := nil_not_mem_names_wayText hw
    rw [hnil] at h
    exact h (by simp [names])
  have hend' : ¬['/'] <:+ p := by
    rcases hp with rfl | rfl
    · exact hend
    · rintro ⟨front, hfront⟩
      rcases front with _ | ⟨c, _ | ⟨d, front⟩⟩
      · cases hfront
      · simp only [List.cons_append, List.nil_append, List.cons.injEq] at hfront
        exact hne hfront.2.2.symm
      · simp only [List.cons_append, List.cons.injEq] at hfront
        exact hend ⟨front, hfront.2.2⟩
  unfold normalize
  rw [replaceChar_of_not_mem hslash, dropEndWhile_of_not_suffix hend']
  rcases hp with rfl | rfl
  · split
    · -- The way would begin with a name that stays in place.
      rename_i rest hrest
      have hnames := names_wayText hw
      rw [hrest, ← List.singleton_append, names_append_slash] at hnames
      split at hnames
      · rename_i hempty
        rw [wayText, if_pos hempty] at hrest
        cases hrest
      · exact absurd rfl (hw here (hnames ▸ List.mem_append_left _ (by decide))).2.1
    · rfl
  · rfl

end Way

/-- A document at the root is in no directory. -/
theorem directory_of_no_slash {source : List Char} (h : '/' ∉ source) : directory source = [] := by
  have hup : upToSlash source = [] := by
    unfold upToSlash dropEndWhile
    rw [List.dropWhile_eq_nil_iff.2 fun c hc => ?_, List.reverse_nil]
    simpa using fun heq : c = '/' => h (heq ▸ List.mem_reverse.1 hc)
  unfold directory
  rw [hup]
  rfl

/-- A path is the same from there. -/
theorem join_directory_of_no_slash {source : List Char} (h : '/' ∉ source) (p : List Char) :
    join (directory source) p = p := by
  rw [directory_of_no_slash h]
  unfold join
  split <;> rfl

/-- A path without a leading slash is collapsed to the names of the walk along it. -/
theorem collapse_of_relative {p : List Char} (hp : p.head? ≠ some '/') :
    collapse p = wayText (stepsOf p) := by
  have hlead : leadingSlashes p = [] := List.isEmpty_iff.1 (isEmpty_leadingSlashes_iff.2 hp)
  unfold collapse wayText
  simp only [hlead, List.isEmpty_nil, Bool.not_true, List.nil_append]
  rw [← stepsOf]
  rcases hsteps : stepsOf p with _ | ⟨n, ns⟩
  · rfl
  · obtain ⟨c, hc⟩ := List.exists_mem_of_ne_nil n
      (ne_of_mem_collapsedNames (hsteps ▸ List.mem_cons_self .. : n ∈ stepsOf p)).1
    have htext : ofNames (n :: ns) ≠ [] :=
      List.ne_nil_of_mem (mem_intercalate_of_mem (List.mem_cons_self ..) hc)
    rw [if_neg (by simpa using htext)]
    rfl

end DocPath

open DocPath

/-! ## Targets -/

/-- **The characters of a way**: dots, slashes, and characters of the path it leads to and of the
current directory. -/
theorem mem_relativeTarget {cwd : List (List Char)} {source path : List Char} {c : Char}
    (h : c ∈ relativeTarget cwd source path) :
    c = '.' ∨ c = '/' ∨ c ∈ path ∨ ∃ n ∈ cwd, c ∈ n := by
  have hup : c ∈ DocPath.up → c = '.' := by simp [DocPath.up]
  have hway : c ∈ DocPath.relative cwd path (DocPath.directory source) →
      c = '.' ∨ c = '/' ∨ c ∈ path ∨ ∃ n ∈ cwd, c ∈ n := by
    intro h
    unfold DocPath.relative at h
    simp only at h
    split at h
    · exact .inl (List.mem_singleton.1 h)
    · rcases DocPath.mem_ofNames h with h | ⟨n, hn, hc⟩
      · exact .inr (.inl h)
      · rcases DocPath.mem_wayBetween hn with rfl | hn
        · exact .inl (hup hc)
        · rcases DocPath.mem_absoluteNames hn with hn | hn
          · exact .inr (.inr (.inr ⟨n, hn, hc⟩))
          · exact .inr (.inr (.inl (DocPath.mem_of_mem_names hn hc)))
  unfold relativeTarget at h
  simp only at h
  split at h
  · exact hway h
  · rcases List.mem_cons.1 h with h | h
    · exact .inl h
    · exact (List.mem_cons.1 h).elim (fun h => .inr (.inl h)) hway

theorem toList_of_relativeLink? {cwd : List String} {source path relative : String}
    (h : relativeLink? cwd source path = some relative) :
    relative.toList = relativeTarget (cwd.map String.toList) source.toList path.toList := by
  unfold relativeLink? at h
  split at h
  · cases h
  · rw [← Option.some.inj h, String.toList_ofList]

/-! ## Following a written way -/

theorem plainResolution_of_rooted {source p : List Char} (hslash : '\\' ∉ p)
    (hrooted : p.head? = some '/') :
    plainResolution source p = collapseOrEmpty (unrooted (normalize p)) := by
  obtain ⟨rest, rfl⟩ := List.head?_eq_some_iff.1 hrooted
  unfold plainResolution
  simp only [replaceChar_of_not_mem hslash]

theorem plainResolution_of_relative {source p : List Char} (hslash : '\\' ∉ p)
    (hrelative : p.head? ≠ some '/') :
    plainResolution source p = collapseOrEmpty (join (directory source) (normalize p)) := by
  unfold plainResolution
  simp only [replaceChar_of_not_mem hslash]
  split
  · exact absurd rfl hrelative
  · rfl

/-- A relative path is resolved to the names of the walk along it. -/
theorem collapseOrEmpty_of_relative {p : List Char} (hp : p.head? ≠ some '/') :
    collapseOrEmpty p = ofNames (stepsOf p) := by
  unfold collapseOrEmpty
  split
  · rename_i hempty
    rw [List.isEmpty_iff.1 hempty]
    decide
  · simp only [collapse_of_relative hp]
    unfold wayText
    rcases hsteps : stepsOf p with _ | ⟨n, ns⟩
    · rfl
    · have hhere : ofNames (n :: ns) ≠ here := by
        intro heq
        have hnames := names_ofNames (fun n => slash_not_mem_of_mem_stepsOf) (hsteps ▸ nofun : stepsOf p ≠ [])
        rw [hsteps, heq] at hnames
        have hmem : here ∈ stepsOf p := hsteps ▸ hnames ▸ (by decide : here ∈ names here)
        exact (ne_of_mem_collapsedNames hmem).2 rfl
      exact if_neg hhere

theorem ne_of_mem_way {path : List Char} (hpath : StaysInside path) (source : List Char) {n : List Char}
    (hn : n ∈ wayBetween (stepsOf (directory source)) (stepsOf path)) :
    n ≠ [] ∧ n ≠ here ∧ '/' ∉ n := by
  rcases mem_wayBetween hn with rfl | hn
  · decide
  · exact ⟨(hpath.isStep hn).1, (hpath.isStep hn).2.1, slash_not_mem_of_mem_stepsOf hn⟩

section Inside

variable {source path : List Char} (hdir : StaysInside (directory source)) (hpath : StaysInside path)

include hdir hpath

/-- The way between two places of a project does not depend on the current directory. -/
theorem relative_eq_wayText (cwd : List (List Char)) :
    relative cwd path (directory source)
      = wayText (wayBetween (stepsOf (directory source)) (stepsOf path)) := by
  unfold relative wayText
  rw [hdir.absoluteNames, hpath.absoluteNames, wayBetween_append]

/-- A target that is written for a path starts with a dot. -/
theorem relativeTarget_eq_cons (cwd : List (List Char)) :
    ∃ rest, relativeTarget cwd source path = '.' :: rest := by
  obtain ⟨hhead, -⟩ := no_slash_at_ends
    (nil_not_mem_names_wayText fun _ => ne_of_mem_way hpath source)
  rw [← relative_eq_wayText hdir hpath cwd] at hhead
  unfold relativeTarget
  simp only
  split
  · rename_i h
    rcases h with h | h
    · obtain ⟨rest, hrest⟩ := List.isPrefixOf_iff_prefix.1 h
      exact ⟨rest, hrest.symm⟩
    · obtain ⟨rest, hrest⟩ := List.isPrefixOf_iff_prefix.1 h
      rw [← hrest] at hhead
      exact absurd rfl hhead
  · exact ⟨_, rfl⟩

/-- From the directory of the source the way leads to the path. -/
theorem stepsOf_join_wayText :
    stepsOf (join (directory source)
      (wayText (wayBetween (stepsOf (directory source)) (stepsOf path)))) = stepsOf path := by
  have hw := fun n => ne_of_mem_way hpath source (n := n)
  obtain ⟨hhead, -⟩ := no_slash_at_ends (nil_not_mem_names_wayText hw)
  have hstart : (names (directory source)).foldl (climb false) [] = (stepsOf (directory source)).reverse :=
    (List.reverse_reverse _).symm
  rw [stepsOf, collapsedNames, foldl_climb_join hhead, foldl_climb_wayText hw, hstart,
    foldl_climb_wayBetween (fun n => hdir.isStep) (fun n => hpath.isStep), List.reverse_reverse]

/-- **The target that is written for a path** resolves to the path. -/
theorem plainResolution_relativeTarget {cwd : List (List Char)}
    (hslash : '\\' ∉ relativeTarget cwd source path) :
    plainResolution source (relativeTarget cwd source path) = ofNames (stepsOf path) := by
  have hw := fun n => ne_of_mem_way hpath source (n := n)
  obtain ⟨hhead, -⟩ := no_slash_at_ends (nil_not_mem_names_wayText hw)
  have hjoined := stepsOf_join_wayText hdir hpath
  obtain ⟨rest, hrest⟩ := relativeTarget_eq_cons hdir hpath cwd
  have hcases : relativeTarget cwd source path
        = wayText (wayBetween (stepsOf (directory source)) (stepsOf path)) ∨
      relativeTarget cwd source path
        = '.' :: '/' :: wayText (wayBetween (stepsOf (directory source)) (stepsOf path)) := by
    rw [← relative_eq_wayText hdir hpath cwd]
    unfold relativeTarget
    simp only
    split
    · exact .inl rfl
    · exact .inr rfl
  have hnormal := normalize_wayText hw hcases hslash
  have hrelative : (relativeTarget cwd source path).head? ≠ some '/' := by
    rw [hrest]
    nofun
  rw [plainResolution_of_relative hslash hrelative, hnormal,
    collapseOrEmpty_of_relative (head_join hdir.1 hhead), hjoined]

end Inside

end DocLinks
