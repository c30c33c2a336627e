import DocLinks.Proofs.FileTree.Shape

/-!
# Rewriting a file

What `write` does at a path where a file stands already. The folders above it exist, so none is made,
and there are two outcomes only: the file has the new text and nothing else has changed
(`write_of_canReplace`), or the tree is what it was (`write_of_not_canReplace`). Which of the two it
is depends on the path and the current directory, not on the text.
-/

namespace DocLinks.FileTree

variable {t u : FileTree} {p : FilePath} {place : List String} {c : Content}

/-! ## Walks -/

/-- **What a step can do**: it sets out from a folder, and leads up or to something that is there. -/
theorem step_eq_ok_iff {next : List String} {n : String} :
    t.step place n = .ok next ↔ t.node? place = some .folder ∧
      (n = ".." ∧ next = place.dropLast ∨
        n ≠ ".." ∧ next = place ++ [n] ∧ (t.node? next).isSome = true) := by
  unfold step
  rcases t.node? place with _ | (c | _)
  · exact iff_of_false nofun nofun
  · exact iff_of_false nofun nofun
  · simp only [true_and]
    by_cases hup : n = ".."
    · rw [if_pos hup]
      constructor
      · intro h
        exact .inl ⟨hup, (Except.ok.inj h).symm⟩
      · rintro (⟨-, rfl⟩ | ⟨hne, -⟩)
        · rfl
        · exact absurd hup hne
    · rw [if_neg hup]
      constructor
      · intro h
        split at h
        · rename_i hsome
          cases h
          exact .inr ⟨hup, rfl, hsome⟩
        · cases h
      · rintro (⟨hup', -⟩ | ⟨-, rfl, hsome⟩)
        · exact absurd hup' hup
        · exact if_pos hsome

/-- A step sets out from a folder. -/
theorem folder_of_step {next : List String} {n : String} (h : t.step place n = .ok next) :
    t.node? place = some .folder :=
  (step_eq_ok_iff.1 h).1

theorem step_down {next : List String} {n : String} (hn : n ≠ "..") (h : t.step place n = .ok next) :
    next = place ++ [n] := by
  obtain ⟨-, ⟨hup, -⟩ | ⟨-, hnext, -⟩⟩ := step_eq_ok_iff.1 h
  · exact absurd hup hn
  · exact hnext

theorem walk_append (t : FileTree) (place a b : List String) :
    t.walk place (a ++ b) = match t.walk place a with
      | .ok q => t.walk q b
      | .error e => .error e := by
  induction a generalizing place with
  | nil => rfl
  | cons n ns ih =>
    simp only [List.cons_append, walk]
    split
    · exact ih _
    · rfl

theorem walk_cons_eq_ok {target : List String} {n : String} {ns : List String} :
    t.walk place (n :: ns) = .ok target ↔
      ∃ next, t.step place n = .ok next ∧ t.walk next ns = .ok target := by
  rw [walk]
  rcases t.step place n with e | next
  · constructor
    · intro h
      cases h
    · rintro ⟨_, h, -⟩
      cases h
  · constructor
    · intro h
      exact ⟨next, rfl, h⟩
    · rintro ⟨_, h, h'⟩
      cases h
      exact h'

theorem walk_append_eq_ok {target : List String} {ms ns : List String} :
    t.walk place (ms ++ ns) = .ok target ↔
      ∃ next, t.walk place ms = .ok next ∧ t.walk next ns = .ok target := by
  rw [walk_append]
  rcases t.walk place ms with e | next
  · exact iff_of_false nofun fun ⟨_, h, _⟩ => nomatch h
  · exact ⟨fun h => ⟨next, rfl, h⟩, fun ⟨_, h, h'⟩ => Except.ok.inj h ▸ h'⟩

theorem walk_concat_eq_ok {target : List String} {n : String} {ns : List String} :
    t.walk place (ns ++ [n]) = .ok target ↔
      ∃ last, t.walk place ns = .ok last ∧ t.step last n = .ok target := by
  rw [walk_append_eq_ok]
  refine exists_congr fun last => and_congr_right fun _ => ?_
  rw [walk_cons_eq_ok]
  exact ⟨fun ⟨_, hstep, hnext⟩ => Except.ok.inj hnext ▸ hstep, fun h => ⟨target, h, rfl⟩⟩

/-! ## Reading -/

/-- What stands at a path stands at the place that its names lead to. -/
theorem stat_eq_ok_iff {n : Node} :
    t.stat p = .ok n ↔ p.hasNull = false ∧ isTooLong p = false ∧
      ∃ place, t.walk (t.start p) p.names = .ok place ∧ t.node? place = some n := by
  unfold stat
  constructor
  · intro h
    split at h
    · cases h
    · split at h
      · cases h
      · rename_i hn hl
        refine ⟨by simpa using hn, by simpa using hl, ?_⟩
        split at h
        · cases h
        · rename_i place hw
          refine ⟨place, hw, ?_⟩
          split at h
          · rename_i n hnode
            cases h
            exact hnode
          · cases h
  · rintro ⟨hn, hl, place, hw, hnode⟩
    simp [hn, hl, hw, hnode]

theorem stat_eq_file_iff :
    t.stat p = .ok (.file c) ↔ p.hasNull = false ∧ isTooLong p = false ∧
      ∃ place, t.walk (t.start p) p.names = .ok place ∧ t.node? place = some (.file c) :=
  stat_eq_ok_iff

theorem isFile_iff_stat : t.isFile p = true ↔ ∃ c, t.stat p = .ok (.file c) := by
  unfold isFile
  split
  · rename_i c hstat
    exact iff_of_true rfl ⟨c, hstat⟩
  · rename_i hno
    exact iff_of_false Bool.false_ne_true fun ⟨c, hstat⟩ => hno c hstat

theorem probe_eq_some_iff {n : Node} : t.probe p = .ok (some n) ↔ t.stat p = .ok n := by
  unfold probe
  split
  · rename_i m hstat
    rw [hstat]
    simp
  · rename_i hstat
    exact iff_of_false nofun fun h => nomatch hstat.symm.trans h
  · rename_i hstat
    exact iff_of_false nofun fun h => nomatch hstat.symm.trans h

theorem isFolder_iff :
    t.isFolder p = true ↔ p.hasNull = false ∧ isTooLong p = false ∧
      ∃ place, t.walk (t.start p) p.names = .ok place ∧ t.node? place = some .folder := by
  rw [← stat_eq_ok_iff]
  unfold isFolder
  split
  · rename_i hstat
    exact iff_of_true rfl hstat
  · rename_i hno
    exact iff_of_false Bool.false_ne_true fun hstat => hno hstat

theorem placeOf_eq_ok_iff {q : List String} :
    t.placeOf p = .ok q ↔ t.walk (t.start p) p.names = .ok q := by
  unfold placeOf
  rcases t.walk (t.start p) p.names with e | place
  · constructor <;> intro h <;> cases h
  · constructor <;> intro h <;> cases h <;> rfl

/-- What is read is the text of a file, which stands at the place of the path. -/
theorem read_eq_ok {limit : Limit} {s : String} (h : t.read p limit = .ok s) :
    ∃ place c, t.placeOf p = .ok place ∧ t.node? place = some (.file c) ∧
      t.stat p = .ok (.file c) ∧ c.read = .ok s := by
  unfold read load at h
  rcases hc : t.checkSize limit p with e | _
  · rw [hc] at h; cases h
  · rw [hc] at h
    unfold open? at h
    rcases hs : t.stat p with e | (c | _)
    · rw [hs] at h; cases h
    · rw [hs] at h
      obtain ⟨_, _, place, hw, hnode⟩ := stat_eq_file_iff.1 hs
      refine ⟨place, c, placeOf_eq_ok_iff.2 hw, hnode, rfl, ?_⟩
      change c.read.mapError FileFault.undecodable = .ok s at h
      cases hr : c.read with
      | error f => rw [hr] at h; cases h
      | ok s' => rw [hr] at h; cases h; rfl
    · rw [hs] at h; cases h

/-- What one limit lets through and what another does is the same text. -/
theorem read_unique {limit limit' : Limit} {text text' : String} (h : t.read p limit = .ok text)
    (h' : t.read p limit' = .ok text') : text = text' := by
  obtain ⟨_, c, _, _, hstat, hread⟩ := read_eq_ok h
  obtain ⟨_, c', _, _, hstat', hread'⟩ := read_eq_ok h'
  rw [hstat] at hstat'
  cases hstat'
  rw [hread] at hread'
  exact Except.ok.inj hread'

/-- A text that is not beyond a limit can be read. -/
theorem read_of_stat {limit : Limit} {text : String} (hstat : t.stat p = .ok (.file c))
    (hcomparable : limit.isIncomparable = false) (hsize : limit.isExceededBy c.size = false)
    (hread : c.read = .ok text) : t.read p limit = .ok text := by
  have hcheck : t.checkSize limit p = .ok () := by
    unfold checkSize probe
    rw [hstat]
    simp only [hcomparable, Bool.false_eq_true, if_false, Node.size, hsize]
  unfold FileTree.read load open?
  rw [hcheck, hstat]
  simp only [hread]
  rfl

/-- A limit that lets something through is a number. -/
theorem isIncomparable_of_read {limit : Limit} {text : String} (h : t.read p limit = .ok text) :
    limit.isIncomparable = false := by
  obtain ⟨_, c, _, _, hstat, _⟩ := read_eq_ok h
  rcases hl : limit.isIncomparable with _ | _
  · rfl
  · unfold FileTree.read load checkSize probe at h
    rw [hstat] at h
    simp only [hl, if_true] at h
    cases h

/-- What can be read is not beyond the limit. -/
theorem isExceededBy_of_read {limit : Limit} {text : String} (h : t.read p limit = .ok text)
    (hstat : t.stat p = .ok (.file c)) : limit.isExceededBy c.size = false := by
  have hcomparable := isIncomparable_of_read h
  rcases hl : limit.isExceededBy c.size with _ | _
  · rfl
  · unfold FileTree.read load checkSize probe at h
    rw [hstat] at h
    simp only [hcomparable, Node.size, hl, Bool.false_eq_true, if_false, if_true] at h
    cases h

/-- Reading looks at nothing but what stands at the path. -/
theorem read_congr (h : u.stat p = t.stat p) (limit : Limit) : u.read p limit = t.read p limit := by
  unfold read load checkSize open? probe
  rw [h]

/-- In trees of one shape, a path leads to the same node if its place holds the same node. -/
theorem SameShape.stat_eq (h : SameShape t u)
    (hnode : ∀ place, t.placeOf p = .ok place → u.node? place = t.node? place) :
    u.stat p = t.stat p := by
  unfold FileTree.stat
  rw [h.start, h.walk]
  split
  · rfl
  · split
    · rfl
    · split
      · rfl
      · rename_i place hw
        rw [hnode place (placeOf_eq_ok_iff.2 hw)]

/-- The path of a file that is replaced leads to the new file. -/
theorem stat_put (hs : t.stat p = .ok (.file c)) (hp : t.placeOf p = .ok place) (d : Content) :
    (t.put place (.file d)).stat p = .ok (.file d) := by
  obtain ⟨hnull, hlong, place', hw, hnode⟩ := stat_eq_file_iff.1 hs
  obtain rfl : place' = place := Except.ok.inj (hw.symm.trans (placeOf_eq_ok_iff.1 hp))
  refine stat_eq_file_iff.2 ⟨hnull, hlong, place', ?_, ?_⟩
  · rw [(sameShape_put hnode d).start, (sameShape_put hnode d).walk]
    exact hw
  · rw [node?_put (ne_nil_of_node?_file hnode), if_pos rfl]

/-! ## The folders above a file -/

/-- Fewer names have a text that is no longer. -/
theorem utf8ByteSize_intercalate_le {ns names : List String} (h : ns.Sublist names) :
    ("/".intercalate ns).utf8ByteSize ≤ ("/".intercalate names).utf8ByteSize := by
  have hcons : ∀ (n : String) {ns : List String}, ns ≠ [] →
      ("/".intercalate (n :: ns)).utf8ByteSize
        = n.utf8ByteSize + "/".utf8ByteSize + ("/".intercalate ns).utf8ByteSize := by
    intro n ns hne
    rw [← List.singleton_append, String.intercalate_append_of_ne_nil (by simp) hne]
    simp only [String.utf8ByteSize_append, String.intercalate_singleton]
  induction h with
  | slnil => exact Nat.le_refl _
  | @cons ns names n _ ih =>
    by_cases hne : names = []
    · subst hne
      exact Nat.le_trans ih (by simp)
    · rw [hcons n hne]
      omega
  | @cons_cons ns names n hsub ih =>
    by_cases hne : ns = []
    · subst hne
      by_cases hne' : names = []
      · subst hne'
        exact Nat.le_refl _
      · rw [hcons n hne', String.intercalate_singleton]
        omega
    · rw [hcons n hne, hcons n fun hnil => hne (List.sublist_nil.1 (hnil ▸ hsub))]
      omega

theorem isTooLong_of_sublist {ns : List String} (hsub : ns.Sublist p.names)
    (h : isTooLong p = false) : isTooLong { p with names := ns } = false := by
  unfold isTooLong FilePath.text at *
  simp only [decide_eq_false_iff_not, Nat.not_lt] at *
  by_cases hp : p.slashes = 0 ∧ ns = []
  · rw [if_pos hp]; decide
  · rw [if_neg hp]
    have hle := utf8ByteSize_intercalate_le hsub
    have hne : ¬(p.slashes = 0 ∧ p.names = []) := by
      rintro ⟨h0, hn⟩
      exact hp ⟨h0, List.sublist_nil.1 (hn ▸ hsub)⟩
    rw [if_neg hne] at h
    simp only [String.utf8ByteSize_append] at h ⊢
    omega

theorem hasNull_of_sublist {ns : List String} (hsub : ns.Sublist p.names) (h : p.hasNull = false) :
    FilePath.hasNull { p with names := ns } = false := by
  unfold FilePath.hasNull at *
  rw [List.any_eq_false] at *
  exact fun n hn => h n (hsub.mem hn)

theorem isTooLong_parent (h : isTooLong p = false) : isTooLong p.parent = false :=
  isTooLong_of_sublist (List.dropLast_sublist _) h

theorem hasNull_parent (h : p.hasNull = false) : p.parent.hasNull = false :=
  hasNull_of_sublist (List.dropLast_sublist _) h

/-- The parts of a walk to a file: it leads to a folder first, and from there by one name. -/
theorem walk_to_file (hne : p.names ≠ []) (hw : t.walk (t.start p) p.names = .ok place) :
    ∃ folder, t.walk (t.start p) p.names.dropLast = .ok folder ∧
      t.node? folder = some .folder ∧ t.step folder p.name = .ok place := by
  have hnames : p.names = p.names.dropLast ++ [p.name] := by
    rw [FilePath.name, List.getLast?_eq_some_getLast hne, Option.getD_some,
      List.dropLast_concat_getLast hne]
  rw [hnames, walk_concat_eq_ok] at hw
  obtain ⟨folder, hf, hs⟩ := hw
  exact ⟨folder, hf, folder_of_step hs, hs⟩

/-- The folder of a file is there, so making it changes nothing. -/
theorem ensureFolder_parent (hs : t.stat p = .ok (.file c)) (hne : p.names ≠ []) :
    t.ensureFolder p.parent = .ok t := by
  obtain ⟨hnull, hlong, place, hw, hnode⟩ := stat_eq_file_iff.1 hs
  obtain ⟨folder, hwf, hfolder, _⟩ := walk_to_file hne hw
  have hnull' := hasNull_parent hnull
  have hlong' := isTooLong_parent hlong
  have hisFolder : t.isFolder p.parent = true := by
    unfold isFolder stat
    rw [hnull', hlong']
    have hstart : t.start p.parent = t.start p := rfl
    have hn : p.parent.names = p.names.dropLast := rfl
    simp only [Bool.false_eq_true, if_false, hstart, hn, hwf, hfolder]
  unfold ensureFolder makeFolder
  rw [hnull', hlong']
  by_cases hpn : p.parent.names = []
  · simp [hpn, orPresent, hisFolder]
  · obtain ⟨above, hwa, habove, hstep⟩ := walk_to_file (p := p.parent) (t := t) hpn hwf
    have hpresent : p.parent.name = ".." ∨ (t.node? (above ++ [p.parent.name])).isSome := by
      obtain ⟨-, ⟨hup, -⟩ | ⟨-, rfl, hsome⟩⟩ := step_eq_ok_iff.1 hstep
      · exact .inl hup
      · exact .inr hsome
    simp [hpn, hwa, makeFolderIn, habove, hpresent, orPresent, hisFolder]

theorem makeFolders_parent (hs : t.stat p = .ok (.file c)) (hne : p.names ≠ []) :
    t.makeFolders p.parent = (t, none) := by
  have hensure := ensureFolder_parent hs hne
  obtain ⟨_, _, place, hw, _⟩ := stat_eq_file_iff.1 hs
  obtain ⟨folder, hwf, _, _⟩ := walk_to_file hne hw
  have hplace : t.placeOf p.parent = .ok folder := placeOf_eq_ok_iff.2 hwf
  unfold makeFolders
  cases p.parent.names.length <;> simp [makeFoldersUpTo, hensure, hplace]

/-- A path without a name is its own folder, which is no folder if it is a file. -/
theorem makeFolders_parent_of_no_name (hs : t.stat p = .ok (.file c)) (hne : p.names = []) :
    t.makeFolders p.parent = (t, some (.os .alreadyThere p.text none)) := by
  obtain ⟨hnull, hlong, -⟩ := stat_eq_file_iff.1 hs
  have hparent : p.parent = p := by
    cases p
    simp only [FilePath.parent, FilePath.mk.injEq, true_and]
    simp only at hne
    simp [hne]
  have hfolder : t.isFolder p = false := by unfold isFolder; rw [hs]
  rw [hparent]
  unfold makeFolders
  rw [hne]
  simp [makeFoldersUpTo, ensureFolder, makeFolder, hnull, hlong, hne, orPresent, hfolder]

/-! ## Writing -/

/-- The path under which a file is written before it is renamed. -/
def temporaryPath (cwd : List String) (p : FilePath) : FilePath :=
  (p.parent.child (temporaryName p.name)).resolve cwd

/-- Whether a file that stands at a path can be replaced: it has a name to be renamed to, and its
temporary file has a name that is not too long. -/
def CanReplace (cwd : List String) (p : FilePath) : Prop :=
  p.names ≠ [] ∧ p.name ≠ ".." ∧
    ¬(maxNameSize < (temporaryName p.name).utf8ByteSize ∨ isTooLong (temporaryPath cwd p))

instance (cwd : List String) (p : FilePath) : Decidable (CanReplace cwd p) :=
  inferInstanceAs (Decidable (_ ∧ _ ∧ ¬_))

/-- **A file that can be replaced** has the new text, and nothing else is changed. -/
theorem write_of_canReplace (hs : t.stat p = .ok (.file c)) (hp : t.placeOf p = .ok place)
    (hcan : CanReplace t.cwd p) (text : String) :
    t.write p text = (t.put place (.file (.text text)), none) := by
  obtain ⟨hne, hup, hlen⟩ := hcan
  obtain ⟨hnull, _, place', hw, hnode⟩ := stat_eq_file_iff.1 hs
  obtain ⟨folder, hwf, hfolder, hstep⟩ := walk_to_file hne hw
  rw [placeOf_eq_ok_iff, hw] at hp
  cases hp
  have hplace : place = folder ++ [p.name] := step_down hup hstep
  unfold write
  rw [makeFolders_parent hs hne]
  simp only [replaceFile, hnull, Bool.false_eq_true, if_false]
  rw [if_neg (show ¬(maxNameSize < (temporaryName p.name).utf8ByteSize ∨
    isTooLong ((p.parent.child (temporaryName p.name)).resolve t.cwd) = true) from hlen)]
  simp only [hwf, hne, hup, or_self, if_false, ← hplace, hnode]

/-- **A file that cannot be replaced** stays, and so does the whole tree. -/
theorem write_of_not_canReplace (hs : t.stat p = .ok (.file c))
    (hcan : ¬CanReplace t.cwd p) (text : String) :
    ∃ f, f ≠ FileFault.nullByte ∧ t.write p text = (t, some f) := by
  obtain ⟨hnull, hlong, place, hw, hnode⟩ := stat_eq_file_iff.1 hs
  unfold write
  by_cases hne : p.names = []
  · rw [makeFolders_parent_of_no_name hs hne]
    exact ⟨_, by simp, rfl⟩
  · rw [makeFolders_parent hs hne]
    obtain ⟨folder, hwf, hfolder, hstep⟩ := walk_to_file hne hw
    simp only [replaceFile, hnull, Bool.false_eq_true, if_false]
    by_cases hlen : maxNameSize < (temporaryName p.name).utf8ByteSize ∨
        isTooLong ((p.parent.child (temporaryName p.name)).resolve t.cwd) = true
    · rw [if_pos hlen]
      exact ⟨_, by simp, rfl⟩
    · have hup : p.name = ".." := Classical.byContradiction fun hup => hcan ⟨hne, hup, hlen⟩
      simp only [if_neg hlen, hwf, if_pos (Or.inr hup : p.names = [] ∨ p.name = "..")]
      exact ⟨_, by simp, rfl⟩

/-- In trees of one shape, a file is replaced or not for the same reason. -/
theorem SameShape.replaceFile (h : SameShape t u) (p : FilePath) (text : String) :
    (u.replaceFile p text).map (fun _ => ()) = (t.replaceFile p text).map fun _ => () := by
  unfold FileTree.replaceFile
  simp only [h.cwd, h.start, h.walk]
  split
  · rfl
  · split
    · rfl
    · rcases t.walk (t.start p) p.names.dropLast with e | folder
      · rfl
      · simp only
        split
        · rfl
        · rcases hnode : t.node? (folder ++ [p.name]) with _ | (_ | _)
          · rw [h.node?_none hnode]
            rfl
          · obtain ⟨_, hnode'⟩ := h.node?_file hnode
            rw [hnode']
            rfl
          · rw [h.node?_folder hnode]

theorem SameShape.write_snd (h : SameShape t u) {d : Content} (hs : t.stat p = .ok (.file c))
    (hs' : u.stat p = .ok (.file d)) (text : String) : (u.write p text).2 = (t.write p text).2 := by
  unfold write
  by_cases hne : p.names = []
  · rw [makeFolders_parent_of_no_name hs hne, makeFolders_parent_of_no_name hs' hne]
  · rw [makeFolders_parent hs hne, makeFolders_parent hs' hne]
    have hsame := h.replaceFile p text
    rcases ht : t.replaceFile p text with f | t'
    · rcases hu : u.replaceFile p text with f' | u'
      · rw [ht, hu] at hsame
        cases hsame
        simp only [ht, hu]
      · rw [ht, hu] at hsame
        cases hsame
    · rcases hu : u.replaceFile p text with f' | u'
      · rw [ht, hu] at hsame
        cases hsame
      · simp only [ht, hu]

/-- Whether writing succeeds does not hang on the text. -/
theorem write_snd_eq_none_iff (hs : t.stat p = .ok (.file c)) (text : String) :
    (t.write p text).2 = none ↔ CanReplace t.cwd p := by
  obtain ⟨_, _, place, hw, _⟩ := stat_eq_file_iff.1 hs
  constructor
  · intro h
    refine Classical.byContradiction fun hcan => ?_
    obtain ⟨f, _, hf⟩ := write_of_not_canReplace hs hcan text
    rw [hf] at h
    cases h
  · intro hcan
    rw [write_of_canReplace hs (placeOf_eq_ok_iff.2 hw) hcan]

end DocLinks.FileTree
