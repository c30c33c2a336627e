import DocLinks.Proofs.Project.Detours
import DocLinks.Proofs.Project.PlainPaths
import DocLinks.Proofs.Text.Trimming

/-!
# Following a target

A target is followed name by name: from the root of the project if it starts with a slash, and from the
directory of its document otherwise (`destinationOf`). Resolving it cuts, joins and collapses text
instead. Both come to the same path, whatever slashes and steps that stay in place the target is padded
with, as long as it does not seem to start in the current directory and then go on like a rooted path
(`plainResolution_eq_iff`): without the step in front, which normalizing drops, such a target starts over
at the root (`resolveLink_startsOver`).

## Contents
- `stepFrom`, `destinationOf`: following a target from place to place.
- `StartsOver`: the targets that are not followed.
- `Padded`: slashes and steps that stay in place, added to a target.
- `candidates`: the files that are looked for at the end of the way.
- `resolveLink_follows`: what resolving a target comes to.
-/

namespace DocLinks

open Text FileTree DocPath

/-! ## The walk along a target -/

/-- One step from a place of the project, given by its names: a step up leaves the last name, and is kept
where no name is left. -/
def stepFrom (place : List (List Char)) (name : List Char) : List (List Char) :=
  if name = [] ∨ name = here then place
  else if name = up ∧ place.getLast?.any (· != up) then place.dropLast
  else place ++ [name]

/-- Where a target leads from a document. -/
def destinationOf (source target : List Char) : List (List Char) :=
  (names target).foldl stepFrom (if target.head? = some '/' then [] else (names source).dropLast)

theorem stepFrom_of_stay {n : List Char} (h : n = [] ∨ n = here) (place : List (List Char)) :
    stepFrom place n = place := if_pos h

/-- A step of an unrooted walk, which is listed from its end. -/
theorem reverse_climb (walked : List (List Char)) (name : List Char) :
    (climb false walked name).reverse = stepFrom walked.reverse name := by
  have hstep := climbs false walked name
  generalize climb false walked name = after at hstep ⊢
  have hmoves : ¬(up = [] ∨ up = here) := by decide
  unfold stepFrom
  cases hstep with
  | stay hstay => rw [if_pos hstay]
  | down h =>
    rw [if_neg (not_or.2 ⟨h.1, h.2.1⟩), if_neg fun hup => h.2.2 hup.1, List.reverse_cons]
  | back hlast =>
    rw [if_neg hmoves, if_pos (by simpa using hlast), List.reverse_cons, List.dropLast_concat]
  | above => rfl
  | further => rw [if_neg hmoves, if_neg (by simp), List.reverse_cons]

theorem reverse_foldl_climb (ns : List (List Char)) :
    ∀ walked, (ns.foldl (climb false) walked).reverse = ns.foldl stepFrom walked.reverse := by
  induction ns with
  | nil => exact fun _ => rfl
  | cons n ns ih =>
    intro walked
    rw [List.foldl_cons, List.foldl_cons, ih, reverse_climb]

theorem stepsOf_eq_foldl_stepFrom (p : List Char) : stepsOf p = (names p).foldl stepFrom [] :=
  reverse_foldl_climb (names p) []

/-- No name of a walk holds a slash or is empty, so no walk is written like a rooted path. -/
theorem head?_ofNames_ne {ns : List (List Char)} (h : ∀ n ∈ ns, n ≠ [] ∧ '/' ∉ n) :
    (ofNames ns).head? ≠ some '/' := by
  rcases ns with _ | ⟨n, ns⟩
  · nofun
  · have hnames : names (ofNames (n :: ns)) = n :: ns :=
      names_ofNames (fun m hm => (h m hm).2) (List.cons_ne_nil n ns)
    refine (DocPath.no_slash_at_ends (p := ofNames (n :: ns)) ?_).1
    rw [hnames]
    intro hnil
    exact (h [] hnil).1 rfl

/-! ## Targets that start over -/

/-- A target that seems to start in the current directory and goes on like a rooted path. -/
def StartsOver (target : List Char) : Prop :=
  ".//".toList <+: target ∧ ∃ c ∈ target.drop 3, c ≠ '/'

instance (target : List Char) : Decidable (StartsOver target) :=
  haveI : Decidable (∃ c ∈ target.drop 3, c ≠ '/') := List.decidableBEx _ (target.drop 3)
  inferInstanceAs (Decidable (_ ∧ _))

/-- Normalizing makes a path rooted exactly if it starts over. -/
theorem head?_normalize_iff {p : List Char} (hslash : '\\' ∉ p) (hrelative : p.head? ≠ some '/') :
    (normalize p).head? = some '/' ↔ StartsOver p := by
  constructor
  · intro hhead
    obtain ⟨rest, rfl⟩ := prefix_of_normalize_head hslash hrelative hhead
    refine ⟨List.prefix_append _ _, ?_⟩
    by_contra hnone
    -- Nothing but slashes would follow, and these are dropped with those of the start.
    have hall : ∀ c ∈ rest, (c == '/') = true := by
      intro c hc
      rw [beq_iff_eq]
      by_contra hne
      exact hnone ⟨c, hc, hne⟩
    have hdot : dropEndWhile (· == '/') (".//".toList ++ rest) = here :=
      (dropEndWhile_append_of_all hall).trans (by decide)
    unfold DocPath.normalize at hhead
    rw [replaceChar_of_not_mem hslash, hdot] at hhead
    cases hhead
  · rintro ⟨⟨rest, rfl⟩, c, hc, hne⟩
    obtain ⟨front, back, rfl⟩ := List.append_of_mem (show c ∈ rest from hc)
    unfold DocPath.normalize
    rw [replaceChar_of_not_mem hslash, ← List.append_assoc,
      dropEndWhile_append_cons (by simpa using hne)]
    rfl

/-! ## Resolving is following -/

/-- A rooted path is collapsed to a rooted one. -/
theorem head?_collapseOrEmpty (tail : List Char) :
    (collapseOrEmpty ('/' :: tail)).head? = some '/' := by
  obtain ⟨lead, hlead⟩ : ∃ lead, leadingSlashes ('/' :: tail) = '/' :: lead := by
    obtain ⟨k, hk⟩ := exists_leadingSlashes ('/' :: tail)
    rcases k with _ | k
    · have hempty := isEmpty_leadingSlashes_iff.1 (List.isEmpty_iff.2 hk)
      exact absurd rfl hempty
    · exact ⟨_, hk⟩
  obtain ⟨rest, hrest⟩ : ∃ rest, collapse ('/' :: tail) = '/' :: rest := by
    unfold collapse
    simp only [hlead, List.cons_append]
    exact ⟨_, rfl⟩
  unfold collapseOrEmpty
  simp only [hrest]
  rw [if_neg (by simp), if_neg (by simp [here])]
  rfl

section Source

variable {source : List Char} (hsource : LeadsDown source)

include hsource

/-- A relative target leads where the target that is joined to the directory of its document leads. -/
theorem destinationOf_of_relative {target : List Char} (hrelative : target.head? ≠ some '/') :
    destinationOf source target = stepsOf (join (directory source) target) := by
  have hstart : ((names (directory source)).foldl (climb false) []).reverse = (names source).dropLast :=
    hsource.stepsOf_directory
  unfold destinationOf stepsOf collapsedNames
  rw [if_neg hrelative, foldl_climb_join hrelative, reverse_foldl_climb, hstart]

omit hsource in
/-- A rooted target leads down from the root. -/
theorem destinationOf_of_rooted {target : List Char} (hrooted : target.head? = some '/') :
    destinationOf source target = stepsOf target := by
  unfold destinationOf
  rw [if_pos hrooted, stepsOf_eq_foldl_stepFrom]

/-- A place is not written like a rooted path. -/
theorem head?_ofNames_destinationOf (target : List Char) :
    (ofNames (destinationOf source target)).head? ≠ some '/' := by
  obtain ⟨p, hp⟩ : ∃ p, destinationOf source target = stepsOf p := by
    by_cases hrooted : target.head? = some '/'
    · exact ⟨_, destinationOf_of_rooted hrooted⟩
    · exact ⟨_, destinationOf_of_relative hsource hrooted⟩
  rw [hp]
  exact head?_ofNames_ne fun n hn =>
    ⟨(ne_of_mem_collapsedNames hn).1, slash_not_mem_of_mem_stepsOf hn⟩

variable {target : List Char} (hslash : '\\' ∉ target)

include hslash

/-- **A target that does not start over** is resolved to where it leads. -/
theorem plainResolution_of_not_startsOver (h : ¬StartsOver target) :
    plainResolution source target = ofNames (destinationOf source target) := by
  have hnormal := namesOf_normalize hslash
  by_cases hrooted : target.head? = some '/'
  · have hsteps : stepsOf (unrooted (normalize target)) = stepsOf target :=
      stepsOf_congr ((namesOf_unrooted _).trans hnormal)
    rw [plainResolution_of_rooted hslash hrooted, collapseOrEmpty_of_relative (unrooted_head_ne _),
      hsteps, destinationOf_of_rooted hrooted]
  · have hhead : (normalize target).head? ≠ some '/' :=
      fun hhead => h ((head?_normalize_iff hslash hrooted).1 hhead)
    have hsteps : stepsOf (join (directory source) (normalize target))
        = stepsOf (join (directory source) target) := by
      unfold stepsOf collapsedNames
      rw [foldl_climb_join hhead, foldl_climb_join hrooted, foldl_climb_congr hnormal]
    rw [plainResolution_of_relative hslash hrooted, collapseOrEmpty_of_relative
      (head_join hsource.staysInside_directory.1 hhead), hsteps,
      destinationOf_of_relative hsource hrooted]

omit hsource in
/-- A target that starts over is resolved to a rooted path. -/
theorem head?_plainResolution_of_startsOver (h : StartsOver target) :
    (plainResolution source target).head? = some '/' := by
  have hrelative : target.head? ≠ some '/' := by
    obtain ⟨rest, rfl⟩ := h.1
    nofun
  obtain ⟨tail, htail⟩ := List.head?_eq_some_iff.1 ((head?_normalize_iff hslash hrelative).2 h)
  rw [plainResolution_of_relative hslash hrelative, htail]
  exact head?_collapseOrEmpty tail

/-- **Resolving a target is following it**, exactly if the target does not start over. -/
theorem plainResolution_eq_iff :
    plainResolution source target = ofNames (destinationOf source target) ↔ ¬StartsOver target := by
  constructor
  · intro heq hover
    have hhead : (plainResolution source target).head? = some '/' :=
      head?_plainResolution_of_startsOver hslash hover
    rw [heq] at hhead
    exact head?_ofNames_destinationOf hsource target hhead
  · intro h
    exact plainResolution_of_not_startsOver hsource hslash h

end Source

/-! ## Padded targets -/

theorem names_cons_slash (b : List Char) : names ('/' :: b) = [] :: names b := names_append_slash [] b

theorem names_dot_slash (b : List Char) : names ('.' :: '/' :: b) = here :: names b :=
  names_append_slash here b

/-- A target with slashes and steps that stay in place added to it: behind a slash that it has, at its
end, or in front of a relative one. -/
inductive Padded (p : List Char) : List Char → Prop
  | same : Padded p p
  | slash {a b : List Char} : Padded p (a ++ '/' :: b) → Padded p (a ++ '/' :: '/' :: b)
  | step {a b : List Char} : Padded p (a ++ '/' :: b) → Padded p (a ++ '/' :: '.' :: '/' :: b)
  | front {q : List Char} : q ≠ [] → q.head? ≠ some '/' → Padded p q → Padded p ('.' :: '/' :: q)
  | back {q : List Char} : q ≠ [] → Padded p q → Padded p (q ++ ['/'])

namespace Padded

variable {p q : List Char} (h : Padded p q)

include h

/-- What is added is walked in place. -/
theorem foldl_stepFrom (place : List (List Char)) :
    (names q).foldl stepFrom place = (names p).foldl stepFrom place := by
  induction h generalizing place with
  | same => rfl
  | slash _ ih =>
    rw [← ih, names_append_slash, names_append_slash, names_cons_slash, List.foldl_append,
      List.foldl_append, List.foldl_cons, stepFrom_of_stay (.inl rfl)]
  | step _ ih =>
    rw [← ih, names_append_slash, names_append_slash, names_dot_slash, List.foldl_append,
      List.foldl_append, List.foldl_cons, stepFrom_of_stay (.inr rfl)]
  | front _ _ _ ih => rw [← ih, names_dot_slash, List.foldl_cons, stepFrom_of_stay (.inr rfl)]
  | back _ _ ih =>
    rw [← ih, names_append_slash, List.foldl_append]
    exact stepFrom_of_stay (.inl rfl) _

/-- Padding does not make a target rooted, and a rooted one stays so. -/
theorem head?_eq_slash_iff : q.head? = some '/' ↔ p.head? = some '/' := by
  induction h with
  | same => exact Iff.rfl
  | @slash a b _ ih =>
    rw [← ih]
    rcases a with _ | ⟨c, a⟩ <;> rfl
  | @step a b _ ih =>
    rw [← ih]
    rcases a with _ | ⟨c, a⟩ <;> rfl
  | front _ hrelative _ ih =>
    rw [← ih]
    exact iff_of_false nofun hrelative
  | back hne _ ih =>
    rw [← ih, List.head?_append_of_ne_nil _ hne]

theorem destinationOf_eq (source : List Char) : destinationOf source q = destinationOf source p := by
  unfold destinationOf
  simp only [h.head?_eq_slash_iff]
  exact h.foldl_stepFrom _

/-- A padded target is written in the characters of the target, slashes and dots. -/
theorem mem {c : Char} (hc : c ∈ q) : c ∈ p ∨ c = '/' ∨ c = '.' := by
  induction h with
  | same => exact .inl hc
  | slash _ ih | step _ ih | front _ _ _ ih | back _ _ ih =>
    simp only [List.mem_append, List.mem_cons] at hc ih
    tauto

theorem ne_nil (hp : p ≠ []) : q ≠ [] := by
  rcases h with _ | _ | _ | _ | _
  · exact hp
  all_goals simp

end Padded

/-! ## Where the way ends -/

/-- The files that a path may mean: itself and, if it has no extension, the page of that name and the
introduction of that directory. -/
def candidates (plain : List Char) : List (List Char) :=
  if extension plain ≠ [] then [plain]
  else if plain = [] then [plain, join plain readme]
  else [plain, plain ++ pageExtension, join plain readme]

theorem getD_find?_cons {α : Type} (f : α → Bool) (a default : α) (as : List α) :
    ((a :: as).find? f).getD default = if f a = true then a else (as.find? f).getD default := by
  by_cases h : f a = true
  · rw [List.find?_cons_of_pos h, if_pos h]
    rfl
  · rw [List.find?_cons_of_neg h, if_neg h]

/-- **The first candidate that is a file** is taken, and the path itself if none is. -/
theorem withFallback_eq (t : FileTree) (root : FilePath) (plain : List Char) :
    withFallback t root plain
      = ((candidates plain).find? fun p => t.hasFile root (.ofList p)).getD plain := by
  unfold withFallback candidates
  by_cases hext : extension plain = []
  · by_cases hempty : plain = []
    · subst hempty
      simp [hext, getD_find?_cons, -List.find?_singleton]
    · simp [hext, hempty, getD_find?_cons, -List.find?_singleton]
  · rw [if_pos (.inl (by simpa using hext)), if_pos hext, getD_find?_cons]
    exact (ite_self plain).symm

theorem mem_candidates (plain : List Char) : plain ∈ candidates plain := by
  unfold candidates
  split
  · exact List.mem_cons_self ..
  · split <;> exact List.mem_cons_self ..

/-- A path means a file exactly if one of its candidates is a file. -/
theorem hasFile_withFallback_iff {t : FileTree} {root : FilePath} {plain : List Char} :
    t.hasFile root (.ofList (withFallback t root plain)) = true ↔
      ∃ p ∈ candidates plain, t.hasFile root (.ofList p) = true := by
  rw [withFallback_eq]
  rcases hfound : (candidates plain).find? fun p => t.hasFile root (.ofList p) with _ | p
  · have hnone := List.find?_eq_none.1 hfound
    constructor
    · intro hplain
      exact absurd hplain (hnone plain (mem_candidates plain))
    · rintro ⟨p, hp, hfile⟩
      exact absurd hfile (hnone p hp)
  · have hfile : t.hasFile root (.ofList p) = true :=
      List.find?_some (p := fun p => t.hasFile root (.ofList p)) hfound
    exact iff_of_true hfile ⟨p, List.mem_of_find?_eq_some hfound, hfile⟩

/-- A target as it is read: backslashes count as slashes. -/
def slashed (target : String) : List Char := replaceChar '\\' '/' target.toList

theorem backslash_not_mem_slashed (target : String) : '\\' ∉ slashed target := by
  unfold slashed replaceChar
  simp only [List.mem_map, not_exists, not_and]
  intro c _
  split
  · decide
  · assumption

theorem plainResolution_slashed (source : List Char) (target : String) :
    plainResolution source target.toList = plainResolution source (slashed target) := by
  have hsame : replaceChar '\\' '/' (slashed target) = slashed target :=
    replaceChar_of_not_mem (backslash_not_mem_slashed target)
  unfold plainResolution
  rw [hsame]
  rfl

theorem hash_mem_slashed_iff {target : String} : '#' ∈ slashed target ↔ '#' ∈ target.toList := by
  unfold slashed replaceChar
  simp only [List.mem_map]
  constructor
  · rintro ⟨c, hc, heq⟩
    split at heq
    · cases heq
    · exact heq ▸ hc
  · intro h
    exact ⟨'#', h, rfl⟩

/-! ## Resolving -/

/-- **What resolving a target of a document comes to.** -/
structure Followed (t : FileTree) (root : FilePath) (source target : String) : Prop where
  /-- The target spells where it leads, exactly if it does not start over. -/
  walk : plainResolution source.toList target.toList
      = ofNames (destinationOf source.toList (slashed target)) ↔ ¬StartsOver (slashed target)
  /-- Padding a target does not change what it means, as long as it does not start over. -/
  padding : ∀ padded, Padded (slashed target) (slashed padded) → ¬StartsOver (slashed target) →
    ¬StartsOver (slashed padded) →
    (resolveLink t root source padded).resolved = (resolveLink t root source target).resolved
  /-- The target means the first candidate that is a file, or else what it spells. -/
  found : (resolveLink t root source target).resolved
    = .ofList (((candidates (plainResolution source.toList target.toList)).find?
        fun p => t.hasFile root (.ofList p)).getD (plainResolution source.toList target.toList))
  /-- It is said whether that is a file. -/
  isFile : (resolveLink t root source target).isFile
    = t.hasFile root (resolveLink t root source target).resolved

theorem resolved_eq (t : FileTree) (root : FilePath) (source : String) {target : String}
    (hne : target.toList ≠ []) (hhash : '#' ∉ target.toList) :
    (resolveLink t root source target).resolved
      = .ofList (withFallback t root (plainResolution source.toList target.toList)) := by
  rw [resolved_resolveLink, Target.path_eq_self_iff.2 hhash, if_neg (by simpa using hne)]

/-- **A target is followed** from its document, unless it starts over. -/
theorem resolveLink_follows {t : FileTree} {root : FilePath} {source target : String}
    (hsource : LeadsDown source.toList) (hne : target ≠ "") (hhash : '#' ∉ target.toList) :
    Followed t root source target := by
  have hwalk : ∀ s, plainResolution source.toList s.toList
      = ofNames (destinationOf source.toList (slashed s)) ↔ ¬StartsOver (slashed s) := by
    intro s
    rw [plainResolution_slashed]
    exact plainResolution_eq_iff hsource (backslash_not_mem_slashed s)
  have hne' : target.toList ≠ [] := fun h => hne (String.toList_inj.1 h)
  have hresolved := resolved_eq t root source hne' hhash
  refine ⟨hwalk target, ?_, ?_, isFile_resolveLink t root source target⟩
  case refine_1 =>
    intro padded hpadded htarget hover
    -- A padded target is no empty text and holds no number sign either.
    have hne'' : padded.toList ≠ [] := by
      intro hempty
      refine hpadded.ne_nil ?_ ?_
      · simpa [slashed, replaceChar] using hne'
      · simp [slashed, replaceChar, hempty]
    have hhash' : '#' ∉ padded.toList := by
      rw [← hash_mem_slashed_iff]
      intro hmem
      rcases hpadded.mem hmem with h | h | h
      · exact hhash (hash_mem_slashed_iff.1 h)
      · cases h
      · cases h
    rw [hresolved, resolved_eq t root source hne'' hhash', (hwalk target).2 htarget,
      (hwalk padded).2 hover, hpadded.destinationOf_eq]
  case refine_2 => rw [hresolved, withFallback_eq]

theorem resolveLink_follows_pageInFolder :
    LeadsDown "docs/a/x.md".toList ∧ "..\\.//..b/./y" ≠ "" ∧
      '#' ∉ "..\\.//..b/./y".toList ∧
      ¬StartsOver (slashed "..\\.//..b/./y") ∧
      Followed partedTree (.ofString "/p") "docs/a/x.md" "..\\.//..b/./y" ∧
      (resolveLink partedTree (.ofString "/p") "docs/a/x.md" "..\\.//..b/./y").resolved
        = "docs/..b/y.md" := by
  refine ⟨by decide, by decide, by decide, by decide, ?_, by decide +kernel⟩
  exact resolveLink_follows (by decide) (by decide) (by decide)

/-- A target that starts over is looked for at the root, while without the slash that it is padded with it
leads to the page beside its document. -/
theorem resolveLink_startsOver :
    LeadsDown "docs/..b/x.md".toList ∧ Padded "./y.md".toList (slashed ".//y.md") ∧
      StartsOver (slashed ".//y.md") ∧
      ofNames (destinationOf "docs/..b/x.md".toList (slashed ".//y.md")) = "docs/..b/y.md".toList ∧
      plainResolution "docs/..b/x.md".toList ".//y.md".toList = "/y.md".toList ∧
      (resolveLink partedTree (.ofString "/p") "docs/..b/x.md" "./y.md").isFile = true ∧
      (resolveLink partedTree (.ofString "/p") "docs/..b/x.md" ".//y.md").isFile = false := by
  have hpadded : Padded "./y.md".toList (slashed ".//y.md") :=
    Padded.slash (a := ['.']) (b := "y.md".toList) Padded.same
  exact ⟨by decide, hpadded, by decide, by decide, by decide +kernel, by decide +kernel,
    by decide +kernel⟩

end DocLinks
