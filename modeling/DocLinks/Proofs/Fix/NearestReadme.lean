import DocLinks.Fix.Suggestion
import DocLinks.Proofs.FileTree.Changes
import DocLinks.Proofs.Project.Detours
import DocLinks.Proofs.Project.PlainPaths

/-!
# The nearest introduction

A link that looks like a directory is answered with a `README.md`: that of the folder of the document, of
its parent or of its grandparent, whichever comes first, is a file and is not what the link already says.
The link to it is foretold by its steps up alone, and it is the one that will be written
(`readmeSuggestion_isNearest`). One thing goes wrong: a path that starts with two dots is taken for one
that leads out of the project, so an introduction is passed over if the first folder on the way to it has
such a name (`readmeSuggestion_passes_over`).

## Contents
- `enclosingFolders`, `readmeAbove?`: the introductions above a document.
- `readmeLink`, `SaysAlready`: the links to them, and those that are no news.
- `neighborReadme_eq`: what the strategy looks up.
- `CanBeOffered`, `readmeSuggestion_eq_some_iff`: what it answers.
- `relativeLink?_readme`: the link that is written for the answer.
- `NearestReadme`, `readmeSuggestion_isNearest`.
-/

namespace DocLinks

open Text FileTree DocPath

/-! ## The introductions above a document -/

/-- The folders that a document lies in, from the root of the project down. -/
def enclosingFolders (source : String) : List (List Char) := (names source.toList).dropLast

theorem exists_names_eq (source : String) :
    ∃ name, names source.toList = enclosingFolders source ++ [name] :=
  ⟨_, (List.dropLast_concat_getLast (List.splitOn_ne_nil '/' source.toList)).symm⟩

/-- The `README.md` that is so many folders above a document, unless that leads out of the project. -/
def readmeAbove? (source : String) (k : Nat) : Option String :=
  let folders := enclosingFolders source
  if k ≤ folders.length then some (.ofList (ofNames (folders.take (folders.length - k) ++ [readme])))
  else none

/-- The link from a document to the `README.md` that is so many folders above it. -/
def readmeLink : Nat → String
  | 0 => "./README.md"
  | 1 => "../README.md"
  | k + 2 => "../" ++ readmeLink (k + 1)

/-- A target that leads to the `README.md` so many folders above, in one of two spellings. -/
def SaysAlready (target : String) (k : Nat) : Prop :=
  readmeLink k = target ∨ readmeLink k = target ++ "README.md"

instance (target : String) (k : Nat) : Decidable (SaysAlready target k) :=
  inferInstanceAs (Decidable (_ ∨ _))

section Above

variable {source path : String} {k : Nat}

theorem readmeAbove?_eq_some_iff :
    readmeAbove? source k = some path ↔ ∃ above below, enclosingFolders source = above ++ below ∧
      below.length = k ∧ path.toList = ofNames (above ++ [readme]) := by
  unfold readmeAbove?
  simp only
  constructor
  · intro h
    split at h
    · rename_i hk
      refine ⟨_, _, (List.take_append_drop ((enclosingFolders source).length - k) _).symm, ?_, ?_⟩
      · rw [List.length_drop]
        omega
      · rw [← Option.some.inj h, String.toList_ofList]
    · cases h
  · rintro ⟨above, below, hfolders, rfl, hpath⟩
    rw [hfolders, List.length_append, if_pos (Nat.le_add_left ..), Nat.add_sub_cancel,
      List.take_left, ← hpath, String.ofList_toList]

theorem readmeAbove?_eq_none_iff :
    readmeAbove? source k = none ↔ (enclosingFolders source).length < k := by
  unfold readmeAbove?
  simp only
  split
  · rename_i hk
    exact iff_of_false nofun (Nat.not_lt.2 hk)
  · rename_i hk
    exact iff_of_true rfl (Nat.lt_of_not_le hk)

theorem isStep_of_mem_enclosingFolders (hsource : LeadsDown source.toList) {n : List Char}
    (hn : n ∈ enclosingFolders source) : IsStep n :=
  hsource n (List.dropLast_subset _ hn)

theorem isStep_readme : IsStep readme := by
  unfold IsStep
  decide

/-- The names of an introduction above a document are those of its folders, and its own. -/
theorem names_readmeAbove {above below : List (List Char)}
    (hfolders : enclosingFolders source = above ++ below) :
    names (ofNames (above ++ [readme])) = above ++ [readme] := by
  refine names_ofNames (fun n hn => ?_) (by simp)
  rcases List.mem_append.1 hn with hn | hn
  · have hmem : n ∈ enclosingFolders source := hfolders ▸ List.mem_append_left _ hn
    exact not_mem_of_mem_splitOn (List.dropLast_subset _ hmem)
  · rw [List.mem_singleton.1 hn]
    decide

theorem leadsDown_readmeAbove (hsource : LeadsDown source.toList)
    (h : readmeAbove? source k = some path) : LeadsDown path.toList := by
  obtain ⟨above, below, hfolders, -, hpath⟩ := readmeAbove?_eq_some_iff.1 h
  intro n hn
  rw [hpath, names_readmeAbove hfolders] at hn
  rcases List.mem_append.1 hn with hn | hn
  · exact isStep_of_mem_enclosingFolders hsource (hfolders ▸ List.mem_append_left _ hn)
  · rw [List.mem_singleton.1 hn]
    exact isStep_readme

end Above

/-! ## What the strategy looks up -/

/-- A neighbor directory is so many steps up, two at most. -/
theorem neighbor_of_getElem? {neighbor : String × String} {k : Nat}
    (h : neighborDirectories[k]? = some neighbor) :
    k ≤ 2 ∧ neighbor.1 ++ "README.md" = readmeLink k ∧ neighbor.1.toList.head? ≠ some '/' ∧
      ∀ (rooted : Bool) (walked : List (List Char)),
        (names neighbor.1.toList).foldl (climb rooted) walked
          = (List.replicate k up).foldl (climb rooted) walked := by
  unfold neighborDirectories at h
  match k, h with
  | 0, rfl => exact ⟨by decide, by decide, by decide, fun _ _ => rfl⟩
  | 1, rfl =>
    refine ⟨by decide, by decide, by decide, fun rooted walked => ?_⟩
    rw [show names "../".toList = [up] ++ [[]] by decide, List.foldl_append]
    exact climb_of_stay (.inl rfl) rooted _
  | 2, rfl =>
    refine ⟨by decide, by decide, by decide, fun rooted walked => ?_⟩
    rw [show names "../../".toList = [up, up] ++ [[]] by decide, List.foldl_append]
    exact climb_of_stay (.inl rfl) rooted _

section LookedUp

variable {source : String} {k : Nat} {neighbor : String × String}

/-- The walk to an introduction: along the folders of the document, up again, and one step down. -/
theorem stepsOf_neighborReadme (hsource : LeadsDown source.toList)
    (hneighbor : neighborDirectories[k]? = some neighbor) :
    (join (join (directory source.toList) neighbor.1.toList) readme).head? ≠ some '/' ∧
    stepsOf (join (join (directory source.toList) neighbor.1.toList) readme)
      = ((List.replicate k up).foldl (climb false) (enclosingFolders source).reverse).reverse
        ++ [readme] := by
  obtain ⟨-, -, hhead, hclimb⟩ := neighbor_of_getElem? hneighbor
  have hreadme : readme.head? ≠ some '/' := by decide
  refine ⟨head_join (head_join hsource.staysInside_directory.1 hhead) hreadme, ?_⟩
  have hdir : (names (directory source.toList)).foldl (climb false) []
      = (enclosingFolders source).reverse := by
    rw [enclosingFolders, ← hsource.stepsOf_directory, stepsOf, collapsedNames, List.reverse_reverse]
  rw [stepsOf, collapsedNames, foldl_climb_join hreadme, foldl_climb_join hhead, hdir, hclimb,
    show names readme = [readme] by decide, List.foldl_cons, List.foldl_nil, climb_of_isStep isStep_readme,
    List.reverse_cons]

/-- **What the strategy looks up** is the introduction so many folders above, or a path that leads out of
the project. -/
theorem neighborReadme_eq (hsource : LeadsDown source.toList)
    (hneighbor : neighborDirectories[k]? = some neighbor) :
    (∀ path, readmeAbove? source k = some path → neighborReadme source neighbor.1 = path.toList) ∧
      (readmeAbove? source k = none → up <+: neighborReadme source neighbor.1) := by
  obtain ⟨hhead, hsteps⟩ := stepsOf_neighborReadme hsource hneighbor
  have hdown : ∀ n ∈ (enclosingFolders source).reverse, n ≠ up := fun n hn =>
    (isStep_of_mem_enclosingFolders hsource (List.mem_reverse.1 hn)).2.2
  unfold neighborReadme
  constructor
  · intro path h
    obtain ⟨above, below, hfolders, rfl, hpath⟩ := readmeAbove?_eq_some_iff.1 h
    rw [collapse_of_relative hhead, hsteps,
      foldl_climb_replicate_up false _ hdown (by simp [hfolders]), hfolders, List.reverse_append,
      List.drop_left' (List.length_reverse ..), List.reverse_reverse, hpath]
    exact if_neg (by simp)
  · intro h
    have hup := up_mem_foldl_climb_replicate hdown
      (by rw [List.length_reverse]; exact readmeAbove?_eq_none_iff.1 h)
    refine up_prefix_collapse ?_
    rw [List.isEmpty_iff.1 (isEmpty_leadingSlashes_iff.2 hhead)]
    change up ∈ stepsOf _
    rw [hsteps]
    exact List.mem_append_left _ (List.mem_reverse.2 hup)

end LookedUp

/-! ## What the strategy answers -/

/-- What the strategy answers at a neighbor directory. -/
def readmeOffer (s : Surroundings) (b : BrokenLink) (neighbor : String × String) : Option FixSuggestion :=
  let candidate := neighborReadme b.sourceFile neighbor.1
  if "..".toList.isPrefixOf candidate ∨ !s.tree.hasFile s.root (.ofList candidate) then none
  else if neighbor.1 ++ "README.md" = b.link.targetPath ∨
      neighbor.1 ++ "README.md" = b.link.targetPath ++ "README.md" then none
  else
    some
      { confidence := .low
        suggestedPath := .ofList candidate
        reason := "README.md found in " ++ neighbor.2 }

theorem readmeSuggestion_eq (s : Surroundings) (b : BrokenLink) :
    readmeSuggestion s b = if looksLikeDirectory b.link.targetPath.toList then
      neighborDirectories.findSome? (readmeOffer s b) else none := rfl

section Answers

variable {s : Surroundings} {b : BrokenLink} {suggestion : FixSuggestion} {neighbor : String × String}

theorem readmeOffer_eq_some_iff :
    readmeOffer s b neighbor = some suggestion ↔
      ¬up <+: neighborReadme b.sourceFile neighbor.1 ∧
      s.tree.hasFile s.root (.ofList (neighborReadme b.sourceFile neighbor.1)) = true ∧
      ¬(neighbor.1 ++ "README.md" = b.link.targetPath ∨
        neighbor.1 ++ "README.md" = b.link.targetPath ++ "README.md") ∧
      suggestion = ⟨.low, .ofList (neighborReadme b.sourceFile neighbor.1),
        "README.md found in " ++ neighbor.2, none⟩ := by
  have hguard : ("..".toList.isPrefixOf (neighborReadme b.sourceFile neighbor.1) = true ∨
      (!s.tree.hasFile s.root (.ofList (neighborReadme b.sourceFile neighbor.1))) = true) ↔
      ¬(¬up <+: neighborReadme b.sourceFile neighbor.1 ∧
        s.tree.hasFile s.root (.ofList (neighborReadme b.sourceFile neighbor.1)) = true) := by
    rw [List.isPrefixOf_iff_prefix, Bool.not_eq_true', not_and_or, not_not, Bool.not_eq_true]
    rfl
  unfold readmeOffer
  simp only [hguard]
  split
  · rename_i hno
    exact iff_of_false nofun fun h => hno ⟨h.1, h.2.1⟩
  · rename_i hfile
    obtain ⟨hvisible, hfile⟩ := not_not.1 hfile
    split
    · rename_i hold
      exact iff_of_false nofun fun h => h.2.2.1 hold
    · rename_i hnew
      exact ⟨fun h => ⟨hvisible, hfile, hnew, (Option.some.inj h).symm⟩, fun h => congrArg some h.2.2.2.symm⟩

/-- What is suggested for a directory is offered at some neighbor directory. -/
theorem exists_readmeOffer (h : readmeSuggestion s b = some suggestion) :
    ∃ neighbor ∈ neighborDirectories, readmeOffer s b neighbor = some suggestion := by
  rw [readmeSuggestion_eq] at h
  split at h
  · exact List.exists_of_findSome?_eq_some h
  · cases h

end Answers

/-- An introduction above a document that can be offered for a link: it is a file, the link to it is news,
and its path does not start with two dots. -/
structure CanBeOffered (s : Surroundings) (b : BrokenLink) (k : Nat) (path : String) : Prop where
  above : readmeAbove? b.sourceFile k = some path
  visible : ¬up <+: path.toList
  isFile : s.tree.hasFile s.root path = true
  new : ¬SaysAlready b.link.targetPath k

section Offered

variable {s : Surroundings} {b : BrokenLink} {suggestion : FixSuggestion}

theorem readmeOffer_iff_canBeOffered (hsource : LeadsDown b.sourceFile.toList) {neighbor : String × String}
    {k : Nat} (hneighbor : neighborDirectories[k]? = some neighbor) :
    readmeOffer s b neighbor = some suggestion ↔ CanBeOffered s b k suggestion.suggestedPath ∧
      suggestion = ⟨.low, suggestion.suggestedPath, "README.md found in " ++ neighbor.2, none⟩ := by
  obtain ⟨hpath, houtside⟩ := neighborReadme_eq hsource hneighbor
  obtain ⟨-, hlink, -, -⟩ := neighbor_of_getElem? hneighbor
  rw [readmeOffer_eq_some_iff, hlink]
  rcases habove : readmeAbove? b.sourceFile k with _ | path
  · -- Out of the project nothing is offered.
    refine iff_of_false (fun h => h.1 (houtside habove)) fun ⟨hoffered, _⟩ => ?_
    have hsome := hoffered.above
    rw [habove] at hsome
    cases hsome
  · rw [hpath path habove, String.ofList_toList]
    constructor
    · rintro ⟨hvisible, hfile, hnew, rfl⟩
      exact ⟨⟨habove, hvisible, hfile, hnew⟩, rfl⟩
    · rintro ⟨hoffered, heq⟩
      obtain rfl : path = suggestion.suggestedPath := Option.some.inj (habove.symm.trans hoffered.above)
      exact ⟨hoffered.visible, hoffered.isFile, hoffered.new, heq⟩

theorem readmeOffer_eq_none_iff (hsource : LeadsDown b.sourceFile.toList) {neighbor : String × String}
    {k : Nat} (hneighbor : neighborDirectories[k]? = some neighbor) :
    readmeOffer s b neighbor = none ↔ ∀ path, ¬CanBeOffered s b k path := by
  rw [Option.eq_none_iff_forall_ne_some]
  constructor
  · exact fun h path hoffered => h ⟨.low, path, "README.md found in " ++ neighbor.2, none⟩
      ((readmeOffer_iff_canBeOffered hsource hneighbor).2 ⟨hoffered, rfl⟩)
  · exact fun h suggestion hsome => h _ ((readmeOffer_iff_canBeOffered hsource hneighbor).1 hsome).1

/-- **What the strategy answers** to a link that looks like a directory: the first of three introductions
that can be offered. -/
theorem readmeSuggestion_eq_some_iff (hsource : LeadsDown b.sourceFile.toList) :
    readmeSuggestion s b = some suggestion ↔ looksLikeDirectory b.link.targetPath.toList = true ∧
      ∃ k neighbor, neighborDirectories[k]? = some neighbor ∧ CanBeOffered s b k suggestion.suggestedPath ∧
        (∀ j < k, ∀ nearer, ¬CanBeOffered s b j nearer) ∧
        suggestion = ⟨.low, suggestion.suggestedPath, "README.md found in " ++ neighbor.2, none⟩ := by
  rw [readmeSuggestion_eq]
  by_cases hlooks : looksLikeDirectory b.link.targetPath.toList = true
  · rw [if_pos hlooks, List.findSome?_eq_some_iff]
    constructor
    · -- The hit is so many folders above as there are directories that were tried before it.
      rintro ⟨before, neighbor, after, hsplit, hoffer, hbefore⟩
      have hneighbor : neighborDirectories[before.length]? = some neighbor := by simp [hsplit]
      obtain ⟨hoffered, heq⟩ := (readmeOffer_iff_canBeOffered hsource hneighbor).1 hoffer
      refine ⟨hlooks, before.length, neighbor, hneighbor, hoffered, fun j hj => ?_, heq⟩
      have hj' : neighborDirectories[j]? = some before[j] := by
        rw [hsplit, List.getElem?_append_left hj, List.getElem?_eq_getElem hj]
      exact (readmeOffer_eq_none_iff hsource hj').1 (hbefore _ (List.getElem_mem hj))
    · rintro ⟨-, k, neighbor, hneighbor, hoffered, hfirst, heq⟩
      obtain ⟨hk, hget⟩ := List.getElem?_eq_some_iff.1 hneighbor
      refine ⟨neighborDirectories.take k, neighbor, neighborDirectories.drop (k + 1), ?_,
        (readmeOffer_iff_canBeOffered hsource hneighbor).2 ⟨hoffered, heq⟩, fun other hother => ?_⟩
      · rw [← hget, List.getElem_cons_drop, List.take_append_drop]
      · obtain ⟨j, hj, rfl⟩ := List.mem_take_iff_getElem.1 hother
        obtain ⟨hjk, hlt⟩ := Nat.lt_min.1 hj
        exact (readmeOffer_eq_none_iff hsource (List.getElem?_eq_getElem hlt)).2 (hfirst j hjk)
  · rw [if_neg hlooks]
    exact iff_of_false nofun fun h => hlooks h.1

end Offered

/-! ## The link that is written -/

/-- The way to an introduction goes up, and one step down unless it is come through on the way. -/
theorem wayBetween_readme (below : List (List Char)) :
    wayBetween below [readme] = if below.head? = some readme then List.replicate (below.length - 1) up
      else List.replicate below.length up ++ [readme] := by
  unfold wayBetween
  rcases below with _ | ⟨n, below⟩
  · rfl
  · by_cases hn : n = readme
    · simp [sharedLength, hn]
    · simp [sharedLength, hn]

theorem toList_readmeLink_succ (k : Nat) :
    (readmeLink (k + 1)).toList = ofNames (List.replicate (k + 1) up ++ [readme]) := by
  induction k with
  | zero => decide
  | succ k ih =>
    rw [readmeLink, String.toList_append, ih, List.replicate_succ (n := k + 1), List.cons_append,
      ofNames_cons up (by simp)]
    rfl

example : readmeLink 2 = "../../README.md" := by decide

theorem mem_readmeLink (k : Nat) : 'R' ∈ (readmeLink k).toList := by
  fun_induction readmeLink k with
  | case1 => decide
  | case2 => decide
  | case3 k ih =>
    rw [String.toList_append]
    exact List.mem_append_right _ ih

/-- Steps up are written without letters. -/
theorem not_mem_wayText_up (k : Nat) : 'R' ∉ wayText (List.replicate k up) := by
  unfold wayText
  split
  · decide
  · intro hmem
    rcases mem_ofNames hmem with heq | ⟨n, hn, hR⟩
    · cases heq
    · rw [List.eq_of_mem_replicate hn] at hR
      exact absurd hR (by decide)

/-- The path of a document leads through another path. -/
def LiesIn (source path : String) : Prop := path.toList ++ ['/'] <+: source.toList

instance (source path : String) : Decidable (LiesIn source path) :=
  inferInstanceAs (Decidable (_ <+: _))

section Written

variable {source path : String} {k : Nat}

theorem liesIn_iff {above below : List (List Char)} (hfolders : enclosingFolders source = above ++ below)
    (hpath : path.toList = ofNames (above ++ [readme])) :
    LiesIn source path ↔ below.head? = some readme := by
  obtain ⟨name, hnames⟩ := exists_names_eq source
  rw [hfolders] at hnames
  constructor
  · -- The names of the document are cut in two ways, which share what is above the introduction.
    rintro ⟨rest, hrest⟩
    have hcut : above ++ below ++ [name] = above ++ [readme] ++ names rest := by
      rw [← hnames, ← hrest, List.append_assoc, List.singleton_append, names_append_slash, hpath,
        names_readmeAbove hfolders]
    have hrestNames : names rest ≠ [] := List.splitOn_ne_nil '/' rest
    have hbelow : below = readme :: (names rest).dropLast := by
      have hfront := congrArg List.dropLast hcut
      rw [List.dropLast_concat, List.dropLast_append_of_ne_nil hrestNames, List.append_assoc,
        List.append_cancel_left_eq] at hfront
      exact hfront
    rw [hbelow]
    rfl
  · intro hhead
    obtain ⟨more, rfl⟩ := List.head?_eq_some_iff.1 hhead
    refine ⟨ofNames (more ++ [name]), ?_⟩
    calc path.toList ++ ['/'] ++ ofNames (more ++ [name])
        = ofNames ((above ++ [readme]) ++ (more ++ [name])) := by
          rw [ofNames_append (show above ++ [readme] ≠ [] by simp) (by simp), hpath, List.append_assoc,
            List.singleton_append]
      _ = ofNames (names source.toList) := by
          rw [hnames]
          simp only [List.append_assoc, List.cons_append, List.nil_append]
      _ = source.toList := ofNames_names source.toList

theorem relative_readme (hsource : LeadsDown source.toList) (hpathDown : LeadsDown path.toList)
    {above below : List (List Char)} (hfolders : enclosingFolders source = above ++ below)
    (hpath : path.toList = ofNames (above ++ [readme])) (cwd : List (List Char)) :
    relative cwd path.toList (directory source.toList) = wayText (wayBetween below [readme]) := by
  have hsteps : stepsOf path.toList = above ++ [readme] := by
    rw [hpathDown.stepsOf_eq, hpath, names_readmeAbove hfolders]
  rw [relative_eq_wayText hsource.staysInside_directory hpathDown.staysInside, hsource.stepsOf_directory,
    ← enclosingFolders, hfolders, hsteps, wayBetween_append]

/-- **The link that is written** for an introduction is the one that is foretold, unless the path of the
document leads through it. -/
theorem relativeLink?_readme (hsource : LeadsDown source.toList) (h : readmeAbove? source k = some path)
    (cwd : List String) :
    relativeLink? cwd source path = some (readmeLink k) ↔ ¬LiesIn source path := by
  have hpathDown := leadsDown_readmeAbove hsource h
  obtain ⟨above, below, hfolders, rfl, hpath⟩ := readmeAbove?_eq_some_iff.1 h
  have hne : path ≠ "" := by
    rintro rfl
    exact hpathDown.ne_nil rfl
  have hlist : relativeLink? cwd source path = some (readmeLink below.length) ↔
      relativeTarget (cwd.map String.toList) source.toList path.toList
        = (readmeLink below.length).toList := by
    unfold relativeLink?
    rw [if_neg hne, Option.some.injEq, ← String.toList_inj, String.toList_ofList]
  rw [hlist, liesIn_iff hfolders hpath]
  unfold relativeTarget
  simp only [relative_readme hsource hpathDown hfolders hpath, wayBetween_readme]
  by_cases hhead : below.head? = some readme
  · -- Nothing but steps up is written.
    have hdots := not_mem_wayText_up (below.length - 1)
    rw [if_pos hhead]
    refine iff_of_false (fun heq => ?_) (not_not_intro hhead)
    have hmem := mem_readmeLink below.length
    rw [← heq] at hmem
    split at hmem
    · exact hdots hmem
    · simp [hdots] at hmem
  · rw [if_neg hhead]
    refine iff_of_true ?_ hhead
    rcases below with _ | ⟨n, below⟩
    · decide
    · -- The way begins with a step up, so no step that stays in place is written before it.
      have hway : wayText (List.replicate (below.length + 1) up ++ [readme])
          = (readmeLink (below.length + 1)).toList := by
        rw [toList_readmeLink_succ, wayText, if_neg (by simp)]
      have hdot : ['.'] <+: (readmeLink (below.length + 1)).toList := by
        rw [toList_readmeLink_succ]
        exact (by decide : ['.'] <+: up).trans (prefix_ofNames_cons up _)
      rw [List.length_cons, hway]
      exact if_pos (.inl (List.isPrefixOf_iff_prefix.2 hdot))

/-- **No document lies in a file.** -/
theorem not_liesIn_of_hasFile {t : FileTree} {root : FilePath} (hsource : LeadsDown source.toList)
    (hfile : t.hasFile root source = true) (hpath : t.hasFile root path = true) : ¬LiesIn source path := by
  rintro ⟨rest, hrest⟩
  rw [List.append_assoc, List.singleton_append] at hrest
  rw [← String.ofList_toList (s := source), hasFile_iff_stat, ← hrest, namesOf_append_slash] at hfile
  rw [← String.ofList_toList (s := path), hasFile_iff_stat] at hpath
  obtain ⟨content, hstat⟩ := hpath
  obtain ⟨-, -, place, hwalk, hnode⟩ := stat_below_iff.1 hstat
  obtain ⟨_, hstat'⟩ := hfile
  obtain ⟨-, -, _, hwalk', -⟩ := stat_below_iff.1 hstat'
  rw [← List.append_assoc] at hwalk'
  obtain ⟨next, hfront, hmore⟩ := walk_append_eq_ok.1 hwalk'
  obtain rfl : place = next := Except.ok.inj (hwalk.symm.trans hfront)
  -- The last name of the document leads on from the file.
  obtain ⟨n, hn⟩ := List.exists_mem_of_ne_nil (names rest) (List.splitOn_ne_nil '/' rest)
  have hstep : IsStep n := by
    apply hsource
    rw [← hrest, names_append_slash]
    exact List.mem_append_right _ hn
  have hmem : String.ofList n ∈ FilePath.namesOf rest := by
    refine List.mem_filter.2 ⟨List.mem_map.2 ⟨n, hn, rfl⟩, decide_eq_true ⟨?_, ?_⟩⟩
    · exact fun heq => hstep.1 (String.ofList_injective heq)
    · exact fun heq => hstep.2.1 (String.ofList_injective heq)
  obtain ⟨m, ms, hms⟩ := List.exists_cons_of_ne_nil (List.ne_nil_of_mem hmem)
  rw [hms] at hmore
  obtain ⟨_, honward, -⟩ := walk_cons_eq_ok.1 hmore
  have hfolder := folder_of_step honward
  rw [hnode] at hfolder
  cases hfolder

end Written

/-! ## Introductions that are passed over -/

theorem up_prefix_append_slash {n rest : List Char} : up <+: n ++ '/' :: rest ↔ up <+: n := by
  unfold up
  match n with
  | [] => simp
  | [c] => simp
  | c :: d :: n => simp

/-- **An introduction is passed over** if it is in a folder of the project, and the first of these starts
with two dots: the document is in that folder, too. -/
theorem up_prefix_readmeAbove_iff {source path : String} {k : Nat} (h : readmeAbove? source k = some path) :
    up <+: path.toList ↔ k < (enclosingFolders source).length ∧ up <+: source.toList := by
  obtain ⟨above, below, hfolders, rfl, hpath⟩ := readmeAbove?_eq_some_iff.1 h
  obtain ⟨name, hnames⟩ := exists_names_eq source
  rw [hpath, hfolders, List.length_append]
  rcases above with _ | ⟨first, above⟩
  · exact iff_of_false (by decide) (by simp)
  · have hsource : source.toList = first ++ '/' :: ofNames (above ++ below ++ [name]) := by
      rw [← ofNames_names source.toList, hnames, hfolders, List.cons_append, List.cons_append,
        ofNames_cons first (by simp)]
    rw [hsource, List.cons_append, ofNames_cons first (by simp), up_prefix_append_slash,
      up_prefix_append_slash, List.length_cons]
    exact (and_iff_right (by omega)).symm

/-! ## The nearest introduction -/

/-- What a suggestion for a link that looks like a directory is. -/
structure NearestReadme (s : Surroundings) (b : BrokenLink) (k : Nat) (path : String) : Prop where
  /-- It is the introduction of the folder of the document, of its parent or of its grandparent. -/
  near : k ≤ 2
  above : readmeAbove? b.sourceFile k = some path
  isFile : s.tree.hasFile s.root path = true
  /-- A nearer one is not there, or the link leads there already, unless the document has a path that starts
  with two dots. -/
  nearest : ¬up <+: b.sourceFile.toList → ∀ j < k, ∀ nearer, readmeAbove? b.sourceFile j = some nearer →
    s.tree.hasFile s.root nearer = false ∨ SaysAlready b.link.targetPath j
  /-- Such a document has the introduction of the project, whatever is nearer. -/
  atRoot : up <+: b.sourceFile.toList → path = "README.md"
  /-- The link that is foretold is the one that is written, wherever the two paths are seen from. -/
  written_iff : ∀ cwd, relativeLink? cwd b.sourceFile path = some (readmeLink k) ↔ ¬LiesIn b.sourceFile path
  written : s.tree.hasFile s.root b.sourceFile = true →
    ∀ cwd, relativeLink? cwd b.sourceFile path = some (readmeLink k)
  /-- It is not what the link says already. -/
  new : ¬SaysAlready b.link.targetPath k

/-- **The nearest introduction** is suggested, and the link to it is news. -/
theorem readmeSuggestion_isNearest {s : Surroundings} {b : BrokenLink} {suggestion : FixSuggestion}
    (hsource : LeadsDown b.sourceFile.toList) (h : readmeSuggestion s b = some suggestion) :
    ∃ k, NearestReadme s b k suggestion.suggestedPath := by
  obtain ⟨-, k, neighbor, hneighbor, hoffered, hfirst, -⟩ := (readmeSuggestion_eq_some_iff hsource).1 h
  have hwritten := relativeLink?_readme hsource hoffered.above
  refine ⟨k, (neighbor_of_getElem? hneighbor).1, hoffered.above, hoffered.isFile, ?nearest, ?atRoot, hwritten,
    fun hfile cwd => (hwritten cwd).2 (not_liesIn_of_hasFile hsource hfile hoffered.isFile), hoffered.new⟩
  case nearest =>
    intro hvisible j hj nearer hnearer
    by_contra hnews
    rw [not_or, Bool.not_eq_false] at hnews
    exact hfirst j hj nearer
      ⟨hnearer, fun hup => hvisible ((up_prefix_readmeAbove_iff hnearer).1 hup).2, hnews.1, hnews.2⟩
  case atRoot =>
    intro hup
    obtain ⟨above, below, hfolders, hk, hpath⟩ := readmeAbove?_eq_some_iff.1 hoffered.above
    have hall : ¬k < (enclosingFolders b.sourceFile).length := fun hk =>
      hoffered.visible ((up_prefix_readmeAbove_iff hoffered.above).2 ⟨hk, hup⟩)
    rw [hfolders, List.length_append] at hall
    obtain rfl : above = [] := List.eq_nil_of_length_eq_zero (by omega)
    exact String.toList_inj.1 hpath

/-- A project at `/p` in which a guide has no introduction of its own. -/
def handbook : Surroundings where
  tree :=
    { nodes := [(["p"], .folder), (["p", "README.md"], .file (.text "")), (["p", "docs"], .folder),
        (["p", "docs", "README.md"], .file (.text "")), (["p", "docs", "guide"], .folder),
        (["p", "docs", "guide", "a.md"], .file (.text "[up](../)"))]
      cwd := ["p"]
      home := [] }
  root := .ofString "/p"
  table := none
  index := default

/-- A link that has been found broken. -/
def brokenLink (source target : String) : BrokenLink where
  sourceFile := source
  link := ⟨"", "", target, none, 1, 1, .internal⟩
  resolvedPath := none
  error := notFound target
  error_ne := notFound_ne target

/-- The nearest introduction is where the link leads already, so the one above it is suggested. -/
theorem readmeSuggestion_isNearest_handbook :
    LeadsDown "docs/guide/a.md".toList ∧
      readmeSuggestion handbook (brokenLink "docs/guide/a.md" "../")
        = some ⟨.low, "README.md", "README.md found in grandparent directory", none⟩ ∧
      ∃ k, NearestReadme handbook (brokenLink "docs/guide/a.md" "../") k "README.md" := by
  have hsource : LeadsDown "docs/guide/a.md".toList := by decide
  have hsuggestion : readmeSuggestion handbook (brokenLink "docs/guide/a.md" "../")
      = some ⟨.low, "README.md", "README.md found in grandparent directory", none⟩ := by decide +kernel
  exact ⟨hsource, hsuggestion, readmeSuggestion_isNearest hsource hsuggestion⟩

/-- A project at `/p` with a folder whose name starts with two dots. -/
def dottedProject : Surroundings where
  tree :=
    { nodes := [(["p"], .folder), (["p", "README.md"], .file (.text "")), (["p", "..old"], .folder),
        (["p", "..old", "README.md"], .file (.text "")),
        (["p", "..old", "a.md"], .file (.text "[x](missing/)"))]
      cwd := ["p"]
      home := [] }
  root := .ofString "/p"
  table := none
  index := default

/-- **A name that starts with two dots is taken for a step up**: the introduction beside the document is
inside the project, it is a file, and the link does not lead there, but the one above it is suggested. -/
theorem readmeSuggestion_passes_over :
    LeadsDown "..old/a.md".toList ∧ readmeAbove? "..old/a.md" 0 = some "..old/README.md" ∧
      dottedProject.tree.hasFile dottedProject.root "..old/README.md" = true ∧
      ¬SaysAlready "missing/" 0 ∧
      readmeSuggestion dottedProject (brokenLink "..old/a.md" "missing/")
        = some ⟨.low, "README.md", "README.md found in parent directory", none⟩ := by
  decide +kernel

end DocLinks
