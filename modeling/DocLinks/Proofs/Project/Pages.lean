import DocLinks.Fix.Search
import DocLinks.Proofs.Fix.Batch
import DocLinks.Proofs.Text.Cutting

/-!
# Pages

The pages of a project are files that a scan has come across. In a tree whose names are names that
files can have (`FileTree.Proper`) the path of a page leads back to the place at which it was found,
so different pages are different files (`separate_of_markdownFiles`).

## Contents
- `IsFileName`, `FileTree.Proper`.
- `projectPath_eq`: the names of a document path below a root.
- `FoundBelow`, `mem_filesBelow`, `scan_cases`, `sorted_scan`: what a scan finds, and in which order.
- `nodup_markdownFiles`: no page is listed twice.
- `frontNames`, `exists_of_mem_markdownFiles`: the document paths of pages.
- `separate_of_markdownFiles`: pages are separate files.
- `FileIndex.IsScanned`, `FileIndex.IsScanned.findByStem_eq`, `FileIndex.IsScanned.findByPath_eq`: an
  index is filled by a scan, and its look-ups find what going through its list of files would find.
-/

namespace DocLinks

open Text FileTree

/-- A name that a file can have. -/
def IsFileName (n : String) : Prop :=
  n ≠ "" ∧ n ≠ "." ∧ n ≠ ".." ∧ '/' ∉ n.toList ∧ '\x00' ∉ n.toList

instance (n : String) : Decidable (IsFileName n) := inferInstanceAs (Decidable (_ ∧ _ ∧ _ ∧ _ ∧ _))

/-- Every place is spelled in names that files can have. -/
def FileTree.Proper (t : FileTree) : Prop := ∀ e ∈ t.nodes, ∀ n ∈ e.1, IsFileName n

instance (t : FileTree) : Decidable t.Proper :=
  inferInstanceAs (Decidable (∀ e ∈ t.nodes, ∀ n ∈ e.1, IsFileName n))

/-! ## Names of document paths -/

theorem namesOf_append_slash (a b : List Char) :
    FilePath.namesOf (a ++ '/' :: b) = FilePath.namesOf a ++ FilePath.namesOf b := by
  simp [FilePath.namesOf, List.splitOn_append_cons_self]

theorem namesOf_cons_slash (cs : List Char) :
    FilePath.namesOf ('/' :: cs) = FilePath.namesOf cs := by
  have h := namesOf_append_slash [] cs
  simpa [FilePath.namesOf] using h

theorem namesOf_unrooted (cs : List Char) :
    FilePath.namesOf (DocPath.unrooted cs) = FilePath.namesOf cs := by
  induction cs with
  | nil => rfl
  | cons c cs ih =>
    by_cases hc : c = '/'
    · subst hc
      rw [namesOf_cons_slash, ← ih]
      rfl
    · simp [DocPath.unrooted, hc]

theorem unrooted_head (cs : List Char) : (DocPath.unrooted cs).takeWhile (· == '/') = [] := by
  induction cs with
  | nil => rfl
  | cons c cs ih =>
    by_cases hc : c = '/'
    · subst hc
      exact ih
    · simp [DocPath.unrooted, hc]

/-- A document path goes on from the root. -/
theorem projectPath_eq (root : FilePath) (path : String) :
    projectPath root path = { root with names := root.names ++ FilePath.namesOf path.toList } := by
  have habs : (FilePath.ofChars (DocPath.unrooted path.toList)).isAbsolute = false := by
    simp [FilePath.ofChars, FilePath.isAbsolute, unrooted_head]
  unfold projectPath FilePath.join
  rw [habs, if_neg Bool.false_ne_true, FilePath.ofChars, namesOf_unrooted]

theorem start_projectPath (t : FileTree) (root : FilePath) (path : String) :
    t.start (projectPath root path) = t.start root := by
  rw [projectPath_eq]
  rfl

/-- Names written with slashes between them are read again. -/
theorem namesOf_joined {ns : List String} (h : ∀ n ∈ ns, n ≠ "" ∧ n ≠ "." ∧ '/' ∉ n.toList) :
    FilePath.namesOf ("/".intercalate ns).toList = ns := by
  rcases ns with _ | ⟨n, ns⟩
  · rfl
  · have hsplit : ("/".intercalate (n :: ns)).toList.splitOn '/' = (n :: ns).map String.toList := by
      rw [String.toList_intercalate]
      refine List.splitOn_intercalate '/' (fun l hl => ?_) (by simp)
      obtain ⟨m, hm, rfl⟩ := List.mem_map.1 hl
      exact (h m hm).2.2
    rw [FilePath.namesOf, hsplit, List.map_map]
    have hid : (String.ofList ∘ String.toList) = id := by
      funext s
      exact String.ofList_toList
    rw [hid, List.map_id, List.filter_eq_self]
    intro m hm
    obtain ⟨hempty, hdot, _⟩ := h m hm
    simp [hempty, hdot]

/-- File names written with slashes between them are read again. -/
theorem namesOf_intercalate {ns : List String} (h : ∀ n ∈ ns, IsFileName n) :
    FilePath.namesOf ("/".intercalate ns).toList = ns :=
  namesOf_joined fun n hn => ⟨(h n hn).1, (h n hn).2.1, (h n hn).2.2.2.1⟩

theorem intercalate_ne_empty {ns : List String} (h : ∀ n ∈ ns, IsFileName n) (hne : ns ≠ []) :
    "/".intercalate ns ≠ "" := by
  intro hempty
  have hnames := namesOf_intercalate h
  rw [hempty] at hnames
  exact hne hnames.symm

theorem namesOf_replicate_slash (k : Nat) (cs : List Char) :
    FilePath.namesOf (List.replicate k '/' ++ cs) = FilePath.namesOf cs := by
  induction k with
  | zero => rfl
  | succ k ih => rw [List.replicate_succ, List.cons_append, namesOf_cons_slash, ih]

theorem namesOf_dropEnd_slash (cs : List Char) :
    FilePath.namesOf (dropEndWhile (· == '/') cs) = FilePath.namesOf cs := by
  induction cs using List.reverseRecOn with
  | nil => rfl
  | append_singleton cs c ih =>
    by_cases hc : c = '/'
    · subst hc
      have hdrop : dropEndWhile (· == '/') (cs ++ ['/']) = dropEndWhile (· == '/') cs := by
        simp [dropEndWhile]
      rw [hdrop, ih, namesOf_append_slash]
      exact (List.append_nil _).symm
    · have hkeep : dropEndWhile (· == '/') (cs ++ [c]) = cs ++ [c] := by
        simp [dropEndWhile, hc]
      rw [hkeep]

/-- The names of a path are read again from its text. -/
theorem namesOf_text (cs : List Char) :
    FilePath.namesOf (FilePath.ofChars cs).text.toList = FilePath.namesOf cs := by
  have hnames : ∀ n ∈ FilePath.namesOf cs, n ≠ "" ∧ n ≠ "." ∧ '/' ∉ n.toList := by
    intro n hn
    obtain ⟨hn, hplain⟩ := List.mem_filter.1 hn
    obtain ⟨l, hl, rfl⟩ := List.mem_map.1 hn
    have hslash : '/' ∉ l := not_mem_of_mem_splitOn hl
    simp only [decide_eq_true_eq] at hplain
    exact ⟨hplain.1, hplain.2, by rwa [String.toList_ofList]⟩
  unfold FilePath.text
  split
  · rename_i hempty
    have hnil : FilePath.namesOf cs = [] := hempty.2
    rw [hnil]
    rfl
  · rw [String.toList_append, String.toList_ofList, namesOf_replicate_slash]
    exact namesOf_joined hnames

/-- The document path of a folder has the names of the folder. -/
theorem namesOf_folderLead (folder : String) :
    FilePath.namesOf (folderLead folder).toList = FilePath.namesOf folder.toList := by
  unfold folderLead
  simp only [String.toList_ofList]
  rw [namesOf_dropEnd_slash, namesOf_unrooted]
  exact namesOf_text folder.toList

/-! ## Scanning -/

/-- A walk along names that do not lead up goes down. -/
theorem walk_down {t : FileTree} {place target : List String} {names : List String}
    (hnames : ∀ n ∈ names, n ≠ "..") (h : t.walk place names = .ok target) :
    target = place ++ names := by
  induction names generalizing place with
  | nil =>
    cases h
    simp
  | cons n ns ih =>
    obtain ⟨next, hs, h⟩ := FileTree.walk_cons_eq_ok.1 h
    obtain rfl := FileTree.step_down (hnames n (List.mem_cons_self ..)) hs
    rw [ih (fun m hm => hnames m (List.mem_cons_of_mem _ hm)) h]
    simp

theorem namesBehind?_eq_some {front all names : List String} (h : namesBehind? front all = some names) :
    all = front ++ names := by
  induction front generalizing all with
  | nil => exact Option.some.inj h
  | cons p ps ih =>
    rcases all with _ | ⟨n, ns⟩
    · cases h
    · unfold namesBehind? at h
      split at h
      · rename_i heq
        rw [heq, ih h]
        rfl
      · cases h

/-- A file that a scan finds, by its names from where the scan sets out. -/
structure FoundBelow (t : FileTree) (place extensions excluded : List String) (f : String)
    (names : List String) : Prop where
  ne : names ≠ []
  isFileName : ∀ n ∈ names, IsFileName n
  spelled : f = "/".intercalate names
  isFileFrom : t.isFileFrom place names = true
  wanted : isWanted extensions excluded names = true
  /-- The tree lists it. -/
  listed : ∃ e ∈ t.nodes, e.1 = place ++ names

/-- What a scan finds is spelled in file names, and they lead to a file that is wanted. -/
theorem mem_filesBelow {t : FileTree} (ht : t.Proper) {place extensions excluded : List String}
    {f : String} (h : f ∈ t.filesBelow place extensions excluded) :
    ∃ names, FoundBelow t place extensions excluded f names := by
  unfold FileTree.filesBelow at h
  rw [List.mem_eraseDups, List.mem_mergeSort] at h
  obtain ⟨e, he, hsome⟩ := List.mem_filterMap.1 h
  split at hsome
  · rename_i n ns hbehind
    split at hsome
    · rename_i hwanted
      rw [Bool.and_eq_true] at hwanted
      have hplace := namesBehind?_eq_some hbehind
      refine ⟨n :: ns, by simp, fun m hm => ht e he m ?_, (Option.some.inj hsome).symm, hwanted.2,
        hwanted.1, e, he, hplace⟩
      rw [hplace]
      exact List.mem_append_right _ hm
    · cases hsome
  · cases hsome

/-- The folder names are the texts among the values. -/
theorem mem_folderNames {values : List Value} {names : List String} (h : folderNames values = .ok names)
    {n : String} : n ∈ names ↔ .text n ∈ values := by
  unfold folderNames at h
  split at h
  · rw [← Except.ok.inj h, List.mem_filterMap]
    constructor
    · rintro ⟨v, hv, hsome⟩
      split at hsome
      · rwa [← Option.some.inj hsome]
      · cases hsome
    · exact fun hn => ⟨.text n, hn, rfl⟩
  · cases h

theorem folderNames_texts (dirs : List String) : folderNames (dirs.map .text) = .ok dirs := by
  unfold folderNames
  rw [if_pos]
  · rw [List.filterMap_map]
    exact congrArg _ (List.filterMap_some)
  · rw [List.all_map, List.all_eq_true]
    exact fun _ _ => rfl

/-- What a scan finds in a folder are the wanted files below it; elsewhere it finds nothing. -/
theorem scan_cases {t : FileTree} {folder : FilePath} {extensions : List String} {excluded : List Value}
    {files : List String} (h : t.scan folder extensions excluded = .ok files) :
    files = [] ∨ t.stat folder = .ok .folder ∧ ∃ place excluded',
      t.walk (t.start folder) folder.names = .ok place ∧ folderNames excluded = .ok excluded' ∧
        files = t.filesBelow place extensions excluded' := by
  unfold FileTree.scan at h
  rcases hx : folderNames excluded with e | excluded'
  · rw [hx] at h
    cases h
  · rw [hx] at h
    simp only [bind, Except.bind] at h
    split at h
    · cases h
    · rename_i hstat
      rcases hw : t.walk (t.start folder) folder.names with e | place
      · rw [hw] at h
        exact .inl (Except.ok.inj h).symm
      · rw [hw] at h
        exact .inr ⟨hstat, place, excluded', rfl, rfl, (Except.ok.inj h).symm⟩
    · exact .inl (Except.ok.inj h).symm

/-- A scan that finds something starts from a folder. -/
theorem scan_ok {t : FileTree} {folder : FilePath} {extensions : List String} {excluded : List Value}
    {files : List String} (h : t.scan folder extensions excluded = .ok files) {f : String}
    (hf : f ∈ files) :
    t.stat folder = .ok .folder ∧ ∃ place excluded', t.walk (t.start folder) folder.names = .ok place ∧
      folderNames excluded = .ok excluded' ∧ f ∈ t.filesBelow place extensions excluded' := by
  rcases scan_cases h with rfl | ⟨hstat, place, excluded', hwalk, hnames, rfl⟩
  · cases hf
  · exact ⟨hstat, place, excluded', hwalk, hnames, hf⟩

/-! ## Pages -/

/-- The files below a place are listed in the order of their paths, none of them twice. -/
theorem sorted_filesBelow (t : FileTree) (place extensions excluded : List String) :
    (t.filesBelow place extensions excluded).Pairwise (· < ·) := by
  unfold FileTree.filesBelow
  simp only
  generalize t.nodes.filterMap _ = found
  have hsorted : (found.mergeSort fun a b => decide (a ≤ b)).Pairwise
      fun a b => decide (a ≤ b) = true := by
    apply List.pairwise_mergeSort
    · intro a b c hab hbc
      simpa using String.le_trans (by simpa using hab) (by simpa using hbc)
    · intro a b
      simpa using String.le_total a b
  have hle := hsorted.sublist (eraseDups_sublist _)
  refine (hle.and (nodup_eraseDups _)).imp ?_
  rintro a b ⟨hab, hne⟩
  by_contra hlt
  exact hne (String.le_antisymm (by simpa using hab) (String.not_lt.1 hlt))

/-- **A scan lists files in the order of their paths**, none of them twice. -/
theorem sorted_scan {t : FileTree} {folder : FilePath} {extensions : List String} {excluded : List Value}
    {files : List String} (h : t.scan folder extensions excluded = .ok files) :
    files.Pairwise (· < ·) := by
  rcases scan_cases h with rfl | ⟨-, place, excluded', -, -, rfl⟩
  · exact .nil
  · exact sorted_filesBelow t place extensions excluded'

theorem nodup_scan {t : FileTree} {folder : FilePath} {extensions : List String} {excluded : List Value}
    {files : List String} (h : t.scan folder extensions excluded = .ok files) : files.Nodup := by
  refine (sorted_scan h).imp ?_
  rintro a b hlt rfl
  exact String.lt_irrefl a hlt

/-- **No page is listed twice.** -/
theorem nodup_markdownFiles {t : FileTree} {root : FilePath} {folder : Option String}
    {excluded : List Value} {pages : List String} (h : markdownFiles t root folder excluded = .ok pages) :
    pages.Nodup := by
  unfold markdownFiles at h
  simp only at h
  split at h
  · cases h
  · rcases hscan : t.scan _ [".md"] excluded with e | files
    · rw [hscan] at h
      cases h
    · rw [hscan] at h
      simp only [bind, Except.bind] at h
      split at h
      · cases h
        -- The document paths of different files go on differently from the same folder.
        apply List.pairwise_map.2
        apply (nodup_scan hscan).imp
        intro file file' hne hsame
        exact hne ((String.append_right_inj _).1 hsame)
      · cases h
        exact nodup_scan hscan
  · cases h
    exact List.nodup_nil

/-- The place of a path that goes on from another one in file names. -/
theorem placeOf_down {t : FileTree} {root : FilePath} {front : List String} {path : String}
    {names place : List String} (hnames : ∀ n ∈ names, IsFileName n)
    (hpath : FilePath.namesOf path.toList = front ++ names)
    (h : t.placeOf (projectPath root path) = .ok place) :
    ∃ folder, t.walk (t.start root) (root.names ++ front) = .ok folder ∧ place = folder ++ names := by
  rw [placeOf_eq_ok_iff, start_projectPath, projectPath_eq, hpath, ← List.append_assoc,
    walk_append] at h
  rcases hw : t.walk (t.start root) (root.names ++ front) with e | folder
  · rw [hw] at h
    cases h
  · rw [hw] at h
    exact ⟨folder, rfl, walk_down (fun n hn => (hnames n hn).2.2.1) h⟩

/-- The names that the document paths of the pages of a folder begin with. -/
def frontNames (folder : Option String) : List String :=
  match folder.filter (· ≠ "") with
  | some f => FilePath.namesOf f.toList
  | none => []

/-- The pages are spelled alike: the names of one folder, and file names from there. -/
theorem exists_of_mem_markdownFiles {t : FileTree} (ht : t.Proper) {root : FilePath}
    {folder : Option String} {excluded : List Value} {pages : List String}
    (h : markdownFiles t root folder excluded = .ok pages) :
    ∃ spell : List String → String, ∀ page ∈ pages, ∃ names, names ≠ [] ∧
      (∀ n ∈ names, IsFileName n) ∧ FilePath.namesOf page.toList = frontNames folder ++ names ∧
      page = spell names := by
  unfold markdownFiles at h
  unfold frontNames
  simp only at h
  generalize folder.filter (· ≠ "") = folder' at h
  split at h
  · cases h
  · rcases folder' with _ | f
    · refine ⟨"/".intercalate, fun page hpage => ?_⟩
      rcases hscan : t.scan root [".md"] excluded with e | files
      · rw [hscan] at h
        cases h
      · rw [hscan] at h
        cases h
        obtain ⟨_, place, excluded', _, _, hmem⟩ := scan_ok hscan hpage
        obtain ⟨names, hne, hnames, rfl, _⟩ := mem_filesBelow ht hmem
        exact ⟨names, hne, hnames, namesOf_intercalate hnames, rfl⟩
    · refine ⟨fun names => folderLead f ++ "/" ++ "/".intercalate names, fun page hpage => ?_⟩
      rcases hscan : t.scan (root.join (.ofString f)) [".md"] excluded with e | files
      · rw [hscan] at h
        cases h
      · rw [hscan] at h
        cases h
        obtain ⟨file, hfile, rfl⟩ := List.mem_map.1 hpage
        obtain ⟨_, place, excluded', _, _, hmem⟩ := scan_ok hscan hfile
        obtain ⟨names, hne, hnames, rfl, _⟩ := mem_filesBelow ht hmem
        refine ⟨names, hne, hnames, ?_, rfl⟩
        rw [String.append_assoc, String.toList_append, String.toList_append]
        have hslash := namesOf_append_slash (folderLead f).toList ("/".intercalate names).toList
        rw [namesOf_intercalate hnames, namesOf_folderLead] at hslash
        exact hslash
  · cases h
    exact ⟨"/".intercalate, by simp⟩

/-- **Different pages are different files.** -/
theorem separate_of_markdownFiles {t : FileTree} (ht : t.Proper) {root : FilePath}
    {folder : Option String} {excluded : List Value} {pages : List String}
    (h : markdownFiles t root folder excluded = .ok pages) {page page' : String}
    (hp : page ∈ pages) (hp' : page' ∈ pages) {place : List String}
    (hplace : t.placeOf (projectPath root page) = .ok place)
    (hplace' : t.placeOf (projectPath root page') = .ok place) : page = page' := by
  obtain ⟨spell, hspell⟩ := exists_of_mem_markdownFiles ht h
  obtain ⟨names, _, hnames, hpath, rfl⟩ := hspell page hp
  obtain ⟨names', _, hnames', hpath', rfl⟩ := hspell page' hp'
  obtain ⟨above, habove, hdown⟩ := placeOf_down hnames hpath hplace
  obtain ⟨above', habove', hdown'⟩ := placeOf_down hnames' hpath' hplace'
  rw [habove] at habove'
  obtain rfl := Except.ok.inj habove'
  rw [hdown] at hdown'
  rw [List.append_cancel_left hdown']

/-- Fixes of pages are fixes of separate files. -/
theorem separateFiles_of_markdownFiles {t : FileTree} (ht : t.Proper) {root : FilePath}
    {folder : Option String} {excluded : List Value} {pages : List String}
    (h : markdownFiles t root folder excluded = .ok pages) {fs : List SuggestedFix}
    (hfs : ∀ f ∈ fs, f.broken.sourceFile ∈ pages) : SeparateFiles t root fs :=
  fun f hf g hg _ _ hplace hplace' _ =>
    separate_of_markdownFiles ht h (hfs f hf) (hfs g hg) hplace hplace'

/-- The pages of an index are where the index says. -/
theorem hasFile_of_scan {t : FileTree} (ht : t.Proper) {root : FilePath} {excluded : List Value}
    {files : List String} (h : t.scan root [".md"] excluded = .ok files) {f : String} (hf : f ∈ files)
    (hshort : isTooLong (projectPath root f) = false) : t.hasFile root f = true := by
  obtain ⟨hstat, place, excluded', hwalk, _, hmem⟩ := scan_ok h hf
  obtain ⟨names, hne, hnames, rfl, hfile, _⟩ := mem_filesBelow ht hmem
  unfold FileTree.isFileFrom at hfile
  rcases hw : t.walk place names with e | target
  · rw [hw] at hfile
    cases hfile
  · rw [hw] at hfile
    simp only at hfile
    split at hfile
    · rename_i c hnode
      have hnull : (projectPath root ("/".intercalate names)).hasNull = false := by
        rw [projectPath_eq, namesOf_intercalate hnames]
        have hroot : root.hasNull = false := by
          unfold FileTree.stat at hstat
          rcases hn : root.hasNull with _ | _
          · rfl
          · rw [hn] at hstat
            cases hstat
        unfold FilePath.hasNull at hroot ⊢
        rw [List.any_append, hroot, Bool.false_or, List.any_eq_false]
        intro n hn
        have hzero := (hnames n hn).2.2.2.2
        simpa using hzero
      have hfound : t.stat (projectPath root ("/".intercalate names)) = .ok (.file c) := by
        refine stat_eq_file_iff.2 ⟨hnull, hshort, target, ?_, hnode⟩
        rw [start_projectPath, projectPath_eq, namesOf_intercalate hnames]
        simp only [walk_append, hwalk, hw]
      exact isFile_iff_stat.2 ⟨c, hfound⟩
    · cases hfile

/-! ## What an index finds -/

namespace FileIndex

/-- **A scanned index** is one of the files that a scan has found, in whatever tree. -/
def IsScanned (i : FileIndex) : Prop :=
  ∃ t folder extensions excluded files,
    FileTree.scan t folder extensions excluded = .ok files ∧ i = ofFiles files

theorem findByStem_ofFiles (files : List String) (stem : String) :
    (ofFiles files).findByStem stem = files.filter (lowerStem · = lowercase stem) :=
  Assoc.getD_get?_group lowerStem files (lowercase stem)

theorem findByPath_ofFiles (files : List String) (path : String) :
    (ofFiles files).findByPath path = files.filter (lowercase · = lowercase path) :=
  Assoc.getD_get?_group lowercase files (lowercase path)

namespace IsScanned

variable {i : FileIndex} (h : i.IsScanned)

include h

/-- The files are listed in the order of their paths, none of them twice. -/
theorem sorted : i.allFiles.Pairwise (· < ·) := by
  obtain ⟨t, folder, extensions, excluded, files, hscan, rfl⟩ := h
  exact sorted_scan hscan

/-- **The files of a name**, letter case aside, are found. -/
theorem findByStem_eq (stem : String) :
    i.findByStem stem = i.allFiles.filter (lowerStem · = lowercase stem) := by
  obtain ⟨t, folder, extensions, excluded, files, -, rfl⟩ := h
  exact findByStem_ofFiles files stem

/-- **The files of a path**, letter case aside, are found. -/
theorem findByPath_eq (path : String) :
    i.findByPath path = i.allFiles.filter (lowercase · = lowercase path) := by
  obtain ⟨t, folder, extensions, excluded, files, -, rfl⟩ := h
  exact findByPath_ofFiles files path

end IsScanned

end FileIndex

end DocLinks
