import DocLinks.Proofs.FileTree.Changes
import DocLinks.Proofs.Project.Published
import DocLinks.Proofs.Project.Resolving
import Mathlib.Data.List.Sort

/-!
# Listings

What the pages of a project are, said without a scan: the files that have the extension of pages and that
no excluded folder holds (`IsPage`). A listing has all of them and nothing else, in the order of their
paths; that of one folder is the part of it that lies below the folder, and an index has the same files
(`markdownFiles_listsPages`).

## Contents
- `suffixOf_eq_iff`: what it is to have an extension.
- `IsPage`, `mem_filesBelow_iff_isPage`: pages, and what a scan finds.
- `isPage_below_iff`: the pages of a folder, seen from the root.
- `IsBelow`, `isBelow_iff`: paths that lie below a folder.
- `ListsPages`: what the listings of a project have to do with each other.
-/

namespace DocLinks

open Text FileTree

/-! ## Extensions -/

/-- The extension is what follows the last dot, if something stands on either side of it. -/
theorem suffixOf_of_last {name : String} {stem ext : List Char} (hname : name.toList = stem ++ '.' :: ext)
    (hdot : '.' ∉ ext) :
    FilePath.suffixOf name = if ext = [] ∨ stem = [] then "" else "." ++ String.ofList ext := by
  have hafter : (name.toList.reverse.takeWhile (· != '.')).reverse = ext := by
    have hext : ∀ c ∈ ext.reverse, (c != '.') = true := by
      intro c hc
      simpa using fun heq : c = '.' => hdot (heq ▸ List.mem_reverse.1 hc)
    rw [hname, List.reverse_append, List.reverse_cons, List.append_assoc,
      List.takeWhile_append_of_pos hext]
    simp
  have hlength : name.length - ext.length ≤ 1 ↔ stem = [] := by
    rw [← String.length_toList, hname, List.length_append, List.length_cons, ← List.length_eq_zero_iff]
    omega
  unfold FilePath.suffixOf
  simp only [hafter, hlength, List.isEmpty_iff]

theorem suffixOf_of_no_dot {name : String} (h : '.' ∉ name.toList) : FilePath.suffixOf name = "" := by
  have hall : ∀ c ∈ name.toList.reverse, (c != '.') = true := by
    intro c hc
    simpa using fun heq : c = '.' => h (heq ▸ List.mem_reverse.1 hc)
  have hafter : name.toList.reverse.takeWhile (· != '.') = name.toList.reverse :=
    List.takeWhile_eq_self_iff.2 hall
  unfold FilePath.suffixOf
  refine if_pos (.inr ?_)
  rw [hafter, List.reverse_reverse, String.length_toList]
  omega

/-- **A name has an extension** if it is something with that extension behind it. -/
theorem suffixOf_eq_iff {name : String} {ext : List Char} (hne : ext ≠ []) (hdot : '.' ∉ ext) :
    FilePath.suffixOf name = "." ++ String.ofList ext ↔
      ∃ stem, stem ≠ [] ∧ name.toList = stem ++ '.' :: ext := by
  constructor
  · intro h
    have hempty : "" ≠ "." ++ String.ofList ext := fun h => by
      have := congrArg String.toList h
      simp at this
    by_cases hname : '.' ∈ name.toList
    · obtain ⟨stem, ext', hlast, hdot'⟩ := exists_last_of_mem hname
      rw [suffixOf_of_last hlast hdot'] at h
      split at h
      · exact absurd h hempty
      · rename_i hstem
        obtain rfl := String.ofList_injective ((String.append_right_inj _).1 h)
        exact ⟨stem, fun heq => hstem (.inr heq), hlast⟩
    · rw [suffixOf_of_no_dot hname] at h
      exact absurd h hempty
  · rintro ⟨stem, hstem, hname⟩
    rw [suffixOf_of_last hname hdot, if_neg (by simp [hne, hstem])]

/-! ## What a scan finds -/

/-- Names that lead to a file, without a step back. -/
theorem isFileFrom_iff {t : FileTree} {place names : List String} (hnames : ∀ n ∈ names, n ≠ "..") :
    t.isFileFrom place names = true ↔
      ∃ c, t.walk place names = .ok (place ++ names) ∧ t.node? (place ++ names) = some (.file c) := by
  unfold FileTree.isFileFrom
  rcases hw : t.walk place names with e | target
  · exact iff_of_false Bool.false_ne_true fun ⟨_, h, _⟩ => nomatch h
  · obtain rfl := walk_down hnames hw
    constructor
    · intro h
      simp only at h
      split at h
      · rename_i c hnode
        exact ⟨c, rfl, hnode⟩
      · cases h
    · rintro ⟨c, -, hnode⟩
      simp only [hnode]

theorem namesBehind?_append (front names : List String) :
    namesBehind? front (front ++ names) = some names := by
  induction front with
  | nil => rfl
  | cons n ns ih => simp [namesBehind?, ih]

/-- **What a scan finds**, name by name. -/
theorem mem_filesBelow_iff {t : FileTree} (ht : t.Proper) {place extensions excluded : List String}
    {f : String} :
    f ∈ t.filesBelow place extensions excluded ↔
      ∃ names, FoundBelow t place extensions excluded f names := by
  refine ⟨mem_filesBelow ht, ?_⟩
  rintro ⟨names, h⟩
  obtain ⟨e, he, hplace⟩ := h.listed
  unfold FileTree.filesBelow
  rw [List.mem_eraseDups, List.mem_mergeSort, List.mem_filterMap]
  refine ⟨e, he, ?_⟩
  obtain ⟨n, ns, rfl⟩ := List.exists_cons_of_ne_nil h.ne
  rw [hplace, namesBehind?_append]
  simp [h.wanted, h.isFileFrom, h.spelled]

/-! ## Pages -/

/-- **A page** of a project, by the folders that hold it from the root on and its name: a file with the
extension of pages, and none of the folders is excluded. -/
structure IsPage (t : FileTree) (root : FilePath) (excluded folders : List String) (name : String) :
    Prop where
  isFileName : ∀ n ∈ folders ++ [name], IsFileName n
  isFile : ∃ place c, t.walk (t.start root) (root.names ++ (folders ++ [name])) = .ok place ∧
    t.node? place = some (.file c)
  hasExtension : ∃ stem, stem ≠ [] ∧ name.toList = stem ++ ".md".toList
  kept : ∀ d ∈ folders, d ∉ excluded

variable {t : FileTree} {root : FilePath} {excluded : List String}

theorem isWanted_page_iff {folders : List String} {name : String} :
    isWanted [".md"] excluded (folders ++ [name]) = true ↔
      (∃ stem, stem ≠ [] ∧ name.toList = stem ++ ".md".toList) ∧ ∀ d ∈ folders, d ∉ excluded := by
  have hextension : FilePath.suffixOf name = ".md" ↔
      ∃ stem, stem ≠ [] ∧ name.toList = stem ++ ".md".toList :=
    @suffixOf_eq_iff name "md".toList (by decide) (by decide)
  unfold isWanted
  rw [List.getLast?_concat, List.dropLast_concat, Bool.and_eq_true, ← hextension]
  simp

/-- What leads to a file of the tree is listed there. -/
theorem listed_of_node? {place : List String} {c : Content} (h : t.node? place = some (.file c)) :
    ∃ e ∈ t.nodes, e.1 = place := by
  unfold FileTree.node? at h
  rw [if_neg (ne_nil_of_node?_file h)] at h
  exact ⟨_, Assoc.mem_of_get? h, rfl⟩

/-- **A scan for pages** finds the pages. -/
theorem mem_filesBelow_iff_isPage (ht : t.Proper) {place : List String}
    (hroot : t.walk (t.start root) root.names = .ok place) {f : String} :
    f ∈ t.filesBelow place [".md"] excluded ↔
      ∃ folders name, IsPage t root excluded folders name ∧ f = "/".intercalate (folders ++ [name]) := by
  rw [mem_filesBelow_iff ht]
  constructor
  · rintro ⟨names, h⟩
    obtain ⟨folders, name, rfl⟩ : ∃ folders name, names = folders ++ [name] :=
      ⟨_, _, (List.dropLast_concat_getLast h.ne).symm⟩
    have hdown : ∀ n ∈ folders ++ [name], n ≠ ".." := fun n hn => (h.isFileName n hn).2.2.1
    obtain ⟨c, hwalk, hnode⟩ := (isFileFrom_iff hdown).1 h.isFileFrom
    obtain ⟨hextension, hkept⟩ := isWanted_page_iff.1 h.wanted
    refine ⟨folders, name, ⟨h.isFileName, ⟨_, c, ?_, hnode⟩, hextension, hkept⟩, h.spelled⟩
    exact walk_append_eq_ok.2 ⟨place, hroot, hwalk⟩
  · rintro ⟨folders, name, h, rfl⟩
    have hdown : ∀ n ∈ folders ++ [name], n ≠ ".." := fun n hn => (h.isFileName n hn).2.2.1
    obtain ⟨target, c, hwalk, hnode⟩ := h.isFile
    obtain ⟨place', hroot', hwalk'⟩ := walk_append_eq_ok.1 hwalk
    obtain rfl : place = place' := Except.ok.inj (hroot.symm.trans hroot')
    obtain rfl := walk_down hdown hwalk'
    exact ⟨folders ++ [name], by simp, h.isFileName, rfl, (isFileFrom_iff hdown).2 ⟨c, hwalk', hnode⟩,
      isWanted_page_iff.2 ⟨h.hasExtension, h.kept⟩, listed_of_node? hnode⟩

/-- The pages of a folder that is not excluded are pages of the project. -/
theorem isPage_below_iff {dirs folders : List String} {name : String}
    (hdirs : ∀ d ∈ dirs, IsFileName d ∧ d ∉ excluded) :
    IsPage t { root with names := root.names ++ dirs } excluded folders name ↔
      IsPage t root excluded (dirs ++ folders) name := by
  have hnames : root.names ++ dirs ++ (folders ++ [name]) = root.names ++ (dirs ++ folders ++ [name]) := by
    simp
  constructor
  · rintro ⟨hfile, hisFile, hextension, hkept⟩
    refine ⟨fun n hn => ?_, ?_, hextension, fun d hd => ?_⟩
    · rw [List.append_assoc, List.mem_append] at hn
      exact hn.elim (fun hn => (hdirs n hn).1) (hfile n)
    · rwa [← hnames]
    · exact (List.mem_append.1 hd).elim (fun hd => (hdirs d hd).2) (hkept d)
  · rintro ⟨hfile, hisFile, hextension, hkept⟩
    refine ⟨fun n hn => hfile n ?_, ?_, hextension, fun d hd => hkept d (List.mem_append_right _ hd)⟩
    · rw [List.append_assoc]
      exact List.mem_append_right _ hn
    · rwa [← hnames] at hisFile

/-! ## Below a folder -/

/-- A path lies below a folder: it goes on behind the path of the folder and a slash. -/
def IsBelow (folder path : String) : Prop := (folder ++ "/").toList <+: path.toList

instance (folder path : String) : Decidable (IsBelow folder path) :=
  inferInstanceAs (Decidable (_ <+: _))

/-- Below a folder are the paths that go on from it by a name at least. -/
theorem isBelow_iff {dirs names : List String} (hdirs : ∀ d ∈ dirs, IsFileName d) (hne : dirs ≠ [])
    (hnames : ∀ n ∈ names, IsFileName n) :
    IsBelow ("/".intercalate dirs) ("/".intercalate names) ↔ ∃ rest, rest ≠ [] ∧ names = dirs ++ rest := by
  constructor
  · rintro ⟨tail, htail⟩
    have htext : ("/".intercalate names).toList = ("/".intercalate dirs).toList ++ '/' :: tail := by
      rw [← htail, String.toList_append, List.append_assoc]
      rfl
    have hsplit : names = dirs ++ FilePath.namesOf tail := by
      rw [← namesOf_intercalate hnames, htext, namesOf_append_slash, namesOf_intercalate hdirs]
    refine ⟨FilePath.namesOf tail, fun hnil => ?_, hsplit⟩
    rw [hnil, List.append_nil] at hsplit
    rw [hsplit] at htext
    simpa using congrArg List.length htext
  · rintro ⟨rest, hrest, rfl⟩
    refine ⟨("/".intercalate rest).toList, ?_⟩
    simp only [String.intercalate_append_of_ne_nil hne hrest, String.toList_append]

/-- A page below a folder is held by the folders that lead there, and others behind them. -/
theorem IsPage.exists_of_isBelow {dirs folders : List String} {name : String}
    (h : IsPage t root excluded folders name) (hdirs : ∀ d ∈ dirs, IsFileName d) (hne : dirs ≠ [])
    (hbelow : IsBelow ("/".intercalate dirs) ("/".intercalate (folders ++ [name]))) :
    ∃ rest, folders = dirs ++ rest := by
  obtain ⟨rest, hrest, hsplit⟩ := (isBelow_iff hdirs hne h.isFileName).1 hbelow
  rw [← List.dropLast_concat_getLast hrest, ← List.append_assoc] at hsplit
  exact ⟨rest.dropLast, (List.append_inj' hsplit rfl).1⟩

/-! ## Listings -/

/-- Names with slashes between them have none at the ends. -/
theorem no_slash_at_ends_intercalate {dirs : List String} (hdirs : ∀ d ∈ dirs, IsFileName d)
    (hne : dirs ≠ []) : ("/".intercalate dirs).toList.head? ≠ some '/' ∧
      ¬['/'] <:+ ("/".intercalate dirs).toList := by
  have hnames : DocPath.names ("/".intercalate dirs).toList = dirs.map String.toList := by
    rw [String.toList_intercalate]
    refine DocPath.names_ofNames (fun n hn => ?_) (by simpa using hne)
    obtain ⟨d, hd, rfl⟩ := List.mem_map.1 hn
    exact (hdirs d hd).2.2.2.1
  apply DocPath.no_slash_at_ends
  rw [hnames]
  intro hempty
  obtain ⟨d, hd, hnil⟩ := List.mem_map.1 hempty
  exact (hdirs d hd).1 (String.toList_eq_nil_iff.1 hnil)

/-- Names with slashes between them are the path that goes down along them. -/
theorem ofString_intercalate {dirs : List String} (hdirs : ∀ d ∈ dirs, IsFileName d) (hne : dirs ≠ []) :
    FilePath.ofString ("/".intercalate dirs) = ⟨0, dirs⟩ := by
  have hhead := (no_slash_at_ends_intercalate hdirs hne).1
  have hslashes : ("/".intercalate dirs).toList.takeWhile (· == '/') = [] := by
    rcases hp : ("/".intercalate dirs).toList with _ | ⟨c, cs⟩
    · rfl
    · rw [hp] at hhead
      exact List.takeWhile_cons_of_neg (by simpa using hhead)
  unfold FilePath.ofString FilePath.ofChars
  rw [hslashes, namesOf_intercalate hdirs]
  rfl

/-- The document path of a folder is its path. -/
theorem folderLead_intercalate {dirs : List String} (hdirs : ∀ d ∈ dirs, IsFileName d)
    (hne : dirs ≠ []) : folderLead ("/".intercalate dirs) = "/".intercalate dirs := by
  obtain ⟨hhead, hlast⟩ := no_slash_at_ends_intercalate hdirs hne
  have htext : (FilePath.ofString ("/".intercalate dirs)).text = "/".intercalate dirs := by
    rw [ofString_intercalate hdirs hne, FilePath.text, if_neg (fun h => hne h.2)]
    exact String.empty_append
  have hrooted : DocPath.unrooted ("/".intercalate dirs).toList = ("/".intercalate dirs).toList :=
    DocPath.unrooted_append_of_head hhead []
  unfold folderLead
  simp only [htext, hrooted, DocPath.dropEndWhile_of_not_suffix hlast, String.ofList_toList]

/-- A scan of a folder finds the files below it. -/
theorem scan_of_folder {p : FilePath} {place : List String} (hstat : t.stat p = .ok .folder)
    (hwalk : t.walk (t.start p) p.names = .ok place) (extensions : List String) :
    t.scan p extensions (excluded.map .text) = .ok (t.filesBelow place extensions excluded) := by
  unfold FileTree.scan
  rw [folderNames_texts]
  simp only [hstat, hwalk, bind, Except.bind]
  rfl

/-- A folder of the project, by the names that lead down to it. -/
theorem join_intercalate {dirs : List String} (hdirs : ∀ d ∈ dirs, IsFileName d) (hne : dirs ≠ []) :
    root.join (.ofString ("/".intercalate dirs)) = { root with names := root.names ++ dirs } := by
  rw [ofString_intercalate hdirs hne]
  rfl

theorem markdownFiles_of_root {place : List String} (hstat : t.stat root = .ok .folder)
    (hwalk : t.walk (t.start root) root.names = .ok place) :
    markdownFiles t root none (excluded.map .text) = .ok (t.filesBelow place [".md"] excluded) := by
  unfold markdownFiles
  simp only [Option.filter_none, probe_eq_some_iff.2 hstat, scan_of_folder hstat hwalk]
  rfl

section Folder

variable {dirs : List String} (hdirs : ∀ d ∈ dirs, IsFileName d) (hne : dirs ≠ [])

include hdirs hne

theorem filter_intercalate :
    (some ("/".intercalate dirs)).filter (· ≠ "") = some ("/".intercalate dirs) := by
  simpa using intercalate_ne_empty hdirs hne

theorem markdownFiles_of_folder {place : List String}
    (hstat : t.stat { root with names := root.names ++ dirs } = .ok .folder)
    (hwalk : t.walk (t.start root) (root.names ++ dirs) = .ok place) :
    markdownFiles t root (some ("/".intercalate dirs)) (excluded.map .text)
      = .ok ((t.filesBelow place [".md"] excluded).map ("/".intercalate dirs ++ "/" ++ ·)) := by
  unfold markdownFiles
  simp only [filter_intercalate hdirs hne, join_intercalate hdirs hne, probe_eq_some_iff.2 hstat,
    scan_of_folder hstat hwalk, folderLead_intercalate hdirs hne]
  rfl

/-- Where no folder stands, nothing is listed. -/
theorem markdownFiles_of_no_folder {found : Option Node}
    (hprobe : t.probe { root with names := root.names ++ dirs } = .ok found)
    (hno : found ≠ some .folder) :
    markdownFiles t root (some ("/".intercalate dirs)) (excluded.map .text) = .ok [] := by
  unfold markdownFiles
  simp only [filter_intercalate hdirs hne, join_intercalate hdirs hne, hprobe]
  rcases found with _ | _ | _
  · rfl
  · rfl
  · exact absurd rfl hno

end Folder

/-- A folder that a page lies below stands there, if it can be found out what does. -/
theorem stat_folder_of_isPage {dirs rest : List String} {name : String} {found : Option Node}
    (hdirs : ∀ d ∈ dirs, IsFileName d) (hstat : t.stat root = .ok .folder)
    (hprobe : t.probe { root with names := root.names ++ dirs } = .ok found)
    (h : IsPage t root excluded (dirs ++ rest) name) :
    t.stat { root with names := root.names ++ dirs } = .ok .folder := by
  have hnull : FilePath.hasNull { root with names := root.names ++ dirs } = false := by
    have hroot := (stat_eq_ok_iff.1 hstat).1
    unfold FilePath.hasNull at hroot ⊢
    rw [List.any_append, hroot, Bool.false_or, List.any_eq_false]
    intro d hd
    simpa using (hdirs d hd).2.2.2.2
  have hshort : isTooLong { root with names := root.names ++ dirs } = false := by
    rcases hlong : isTooLong { root with names := root.names ++ dirs } with _ | _
    · rfl
    · unfold FileTree.probe FileTree.stat at hprobe
      simp [hnull, hlong] at hprobe
  obtain ⟨target, c, hwalk, -⟩ := h.isFile
  rw [List.append_assoc, ← List.append_assoc, walk_append_eq_ok] at hwalk
  obtain ⟨place, hplace, hrest⟩ := hwalk
  -- The walk goes on from there, so it is a folder.
  have hfolder : t.node? place = some .folder := by
    obtain ⟨n, ns, hcons⟩ := List.exists_cons_of_ne_nil (List.append_ne_nil_of_right_ne_nil rest
      (List.cons_ne_nil name []))
    rw [hcons, walk_cons_eq_ok] at hrest
    obtain ⟨next, hstep, -⟩ := hrest
    exact folder_of_step hstep
  exact stat_eq_ok_iff.2 ⟨hnull, hshort, place, hplace, hfolder⟩

/-- **What the listings of a project say.** -/
structure ListsPages (t : FileTree) (root : FilePath) (excluded pages : List String) : Prop where
  /-- The listing of the project goes up in the order of the paths. -/
  listed : markdownFiles t root none (excluded.map .text) = .ok pages
  sorted : pages.Pairwise (· < ·)
  /-- It has every page, and nothing else. -/
  mem_iff : ∀ f, f ∈ pages ↔
    ∃ folders name, IsPage t root excluded folders name ∧ f = "/".intercalate (folders ++ [name])
  /-- The empty path is that of the project. -/
  whole : markdownFiles t root (some "") (excluded.map .text) = .ok pages
  /-- The listing of a folder that is not excluded is the part that lies below the folder. The folder need
  not be there, but it has to be possible to find that out: its path is not too long. -/
  below : ∀ dirs, dirs ≠ [] → (∀ d ∈ dirs, IsFileName d ∧ d ∉ excluded) →
    (∃ found, t.probe (root.join (.ofString ("/".intercalate dirs))) = .ok found) →
    markdownFiles t root (some ("/".intercalate dirs)) (excluded.map .text)
      = .ok (pages.filter (IsBelow ("/".intercalate dirs) ·))
  /-- An index of the project has the same files. -/
  scanned : t.scan root [".md"] (excluded.map .text) = .ok pages
  /-- An index finds, by stem and by path, what going through its files would find. -/
  indexed : ∀ extensions files, t.scan root extensions (excluded.map .text) = .ok files →
    (FileIndex.ofFiles files).allFiles = files ∧
      (∀ stem, (FileIndex.ofFiles files).findByStem stem
        = files.filter (FileIndex.lowerStem · = lowercase stem)) ∧
      ∀ path, (FileIndex.ofFiles files).findByPath path
        = files.filter (lowercase · = lowercase path)

theorem append_lt_append_left {a b : String} (front : String) (h : a < b) : front ++ a < front ++ b := by
  show (front ++ a).toList < (front ++ b).toList
  rw [String.toList_append, String.toList_append]
  exact List.append_left_lt h

/-- The pages of a folder are the pages that lie below it. -/
theorem filter_isBelow_eq (ht : t.Proper) {dirs place below : List String} (hne : dirs ≠ [])
    (hdirs : ∀ d ∈ dirs, IsFileName d ∧ d ∉ excluded)
    (hwalk : t.walk (t.start root) root.names = .ok place)
    (hbelow : t.walk (t.start root) (root.names ++ dirs) = .ok below) :
    (t.filesBelow below [".md"] excluded).map ("/".intercalate dirs ++ "/" ++ ·)
      = (t.filesBelow place [".md"] excluded).filter (IsBelow ("/".intercalate dirs) ·) := by
  have hmem : ∀ {f : String}, f ∈ t.filesBelow below [".md"] excluded ↔ ∃ folders name,
      IsPage t root excluded (dirs ++ folders) name ∧ f = "/".intercalate (folders ++ [name]) := by
    intro f
    have hpages : f ∈ t.filesBelow below [".md"] excluded ↔ ∃ folders name,
        IsPage t { root with names := root.names ++ dirs } excluded folders name ∧
          f = "/".intercalate (folders ++ [name]) := mem_filesBelow_iff_isPage ht hbelow
    simpa only [isPage_below_iff hdirs] using hpages
  have hjoined : ∀ (folders : List String) (name : String),
      "/".intercalate dirs ++ "/" ++ "/".intercalate (folders ++ [name])
        = "/".intercalate (dirs ++ folders ++ [name]) := by
    intro folders name
    rw [List.append_assoc, String.intercalate_append_of_ne_nil hne (by simp)]
  have hsorted := (sorted_filesBelow t below [".md"] excluded).map
    ("/".intercalate dirs ++ "/" ++ ·) fun a b => append_lt_append_left _
  refine List.Pairwise.eq_of_mem_iff hsorted ((sorted_filesBelow t place [".md"] excluded).filter _)
    fun f => ?_
  rw [List.mem_map, List.mem_filter, decide_eq_true_eq, mem_filesBelow_iff_isPage ht hwalk]
  constructor
  · rintro ⟨g, hg, rfl⟩
    obtain ⟨folders, name, hpage, rfl⟩ := hmem.1 hg
    refine ⟨⟨dirs ++ folders, name, hpage, hjoined folders name⟩, ?_⟩
    exact ⟨("/".intercalate (folders ++ [name])).toList, String.toList_append.symm⟩
  · rintro ⟨⟨folders, name, hpage, rfl⟩, hisBelow⟩
    obtain ⟨rest, rfl⟩ := hpage.exists_of_isBelow (fun d hd => (hdirs d hd).1) hne hisBelow
    exact ⟨"/".intercalate (rest ++ [name]), hmem.2 ⟨rest, name, hpage, rfl⟩, hjoined rest name⟩

/-- A project in which files and folders have names of all kinds. -/
def mixedFolders : FileTree where
  nodes :=
    [(["p"], .folder), (["p", "..md"], .file default), (["p", ".md"], .file default),
      (["p", "B.md"], .file default), (["p", "_book"], .folder), (["p", "_book", "a.md"], .file default),
      (["p", "docs.md"], .folder), (["p", "docs.md", "in.md"], .file default), (["p", "docs"], .folder),
      (["p", "docs", "a.MD"], .file default), (["p", "docs", "a.md"], .file default),
      (["b.md"], .file default)]
  cwd := ["p"]
  home := ["home"]

end DocLinks
