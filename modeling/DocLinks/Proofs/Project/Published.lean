import DocLinks.Project.Published
import DocLinks.Proofs.Project.Pages
import DocLinks.Proofs.Text.Trimming

/-!
# Published paths and their sources

A page is published under its path with another extension, and a page that introduces its directory
under the directory. Going back from the published path to a source page leads to where it came from, as
a path (`publishedPaths_convert`) and as a file (`sourceServes_toPublished_iff`), with one exception: the
`index.html` of a directory is taken for the introduction of the directory, so a source page of that name
is not found again.

## Contents
- `toPublished_page`, `toPublished_readme`: the two ways of publishing.
- `toSource_page`, `toSource_folder`, `toSource_index`: the three ways back.
- `sourceServes_page`, `sourceServes_folder`: which source page a published path is looked for in.
-/

namespace DocLinks

open Text FileTree DocPath

namespace DocPath

theorem unrooted_append (a b : List Char) :
    unrooted (a ++ b) = if unrooted a = [] then unrooted b else unrooted a ++ b := by
  unfold unrooted
  rw [List.dropWhile_append]
  simp only [List.isEmpty_iff]

/-- What does not start with a slash stays behind what is left of the text before it. -/
theorem unrooted_append_of_head {b : List Char} (h : b.head? ≠ some '/') (a : List Char) :
    unrooted (a ++ b) = unrooted a ++ b := by
  rw [unrooted_append]
  split
  · rename_i ha
    rw [ha, List.nil_append]
    rcases b with _ | ⟨c, b⟩
    · rfl
    · exact List.dropWhile_cons_of_neg (by simpa using h)
  · rfl

theorem mem_of_mem_unrooted {c : Char} {p : List Char} (h : c ∈ unrooted p) : c ∈ p :=
  (List.dropWhile_sublist _).mem h

/-! ## Publishing -/

/-- An extension is replaced behind a name. -/
theorem replaceEnd_extension (old new front name : List Char) :
    replaceEnd old new (front ++ (name ++ old)) = front ++ (name ++ new) := by
  rw [← List.append_assoc, replaceEnd_append, List.append_assoc]

/-- A page that introduces its directory is published as the directory. -/
theorem toPublished_readme (front : List Char) :
    toPublished (front ++ "/README.md".toList) = front ++ ['/'] := by
  have hhtml : replaceEnd ".md".toList ".html".toList (front ++ "/README.md".toList)
      = front ++ "/README.html".toList := replaceEnd_extension _ _ front "/README".toList
  unfold toPublished
  rw [hhtml, replaceEnd_append]

/-- Any other page is published with another extension. -/
theorem toPublished_page {stem : List Char} (h : ¬"/README".toList <:+ stem) (hline : '\n' ∉ stem) :
    toPublished (stem ++ ".md".toList) = stem ++ ".html".toList := by
  have hno : ¬"/README.html".toList <:+ stem ++ ".html".toList := by
    show ¬"/README".toList ++ ".html".toList <:+ stem ++ ".html".toList
    rwa [List.suffix_append_self_iff]
  have hline' : '\n' ∉ stem ++ ".html".toList := fun hmem =>
    (List.mem_append.1 hmem).elim hline (by decide)
  unfold toPublished
  rw [replaceEnd_append, replaceEnd_of_not_suffix _ hno hline']

/-! ## Going back -/

/-- A path with an ending that is no slash is not the path of a directory. -/
theorem not_folder_append (stem : List Char) {ending : List Char} (h : ending.getLast? ≠ some '/')
    (hne : ending ≠ []) : ¬['/'].isSuffixOf (stem ++ ending) = true := by
  intro hslash
  rw [List.isSuffixOf_iff_suffix, List.singleton_suffix_iff_getLast?_eq_some,
    List.getLast?_append_of_ne_nil _ hne] at hslash
  exact h hslash

/-- What is published under a directory comes from its introduction. -/
theorem toSource_folder {front : List Char} (hline : '\n' ∉ front) :
    toSource (front ++ ['/']) = front ++ "/README.md".toList := by
  have hline' : '\n' ∉ front ++ ['/'] := by simpa using hline
  have hends : ∀ {old : List Char}, old.getLast? ≠ some '/' → old ≠ [] → ¬old <:+ front ++ ['/'] := by
    rintro old hlast hne ⟨stem, hstem⟩
    refine not_folder_append stem hlast hne ?_
    rw [hstem]
    simp
  unfold toSource
  rw [replaceEnd_of_not_suffix _ (hends (by decide) (by decide)) hline',
    replaceEnd_of_not_suffix _ (hends (by decide) (by decide)) hline', if_pos (by simp),
    List.append_assoc]
  rfl

/-- The index of a directory is taken for its introduction. -/
theorem toSource_index (front : List Char) :
    toSource (front ++ "/index.html".toList) = front ++ "/README.md".toList := by
  have hpage : replaceEnd ".html".toList ".md".toList (front ++ "/index.html".toList)
      = front ++ "/index.md".toList := replaceEnd_extension _ _ front "/index".toList
  unfold toSource
  rw [hpage, replaceEnd_append]
  exact if_neg (not_folder_append _ (by decide) (by decide))

/-- Any other published page comes from the page with the other extension. -/
theorem toSource_page {stem : List Char} (h : ¬"/index".toList <:+ stem) (hline : '\n' ∉ stem) :
    toSource (stem ++ ".html".toList) = stem ++ ".md".toList := by
  have hno : ¬"/index.md".toList <:+ stem ++ ".md".toList := by
    show ¬"/index".toList ++ ".md".toList <:+ stem ++ ".md".toList
    rwa [List.suffix_append_self_iff]
  have hline' : '\n' ∉ stem ++ ".md".toList := fun hmem =>
    (List.mem_append.1 hmem).elim hline (by decide)
  unfold toSource
  rw [replaceEnd_append, replaceEnd_of_not_suffix _ hno hline']
  exact if_neg (not_folder_append _ (by decide) (by decide))

/-! ## There and back, as paths -/

/-- A page is read back from where it is published, unless it is the index of a directory. -/
theorem toSource_toPublished_eq_iff {p : List Char} (hline : '\n' ∉ p) (hpage : ".md".toList <:+ p) :
    toSource (toPublished p) = p ↔ ¬"/index.md".toList <:+ p := by
  obtain ⟨stem, rfl⟩ := hpage
  have hstem : '\n' ∉ stem := fun h => hline (List.mem_append_left _ h)
  have hends : ∀ name : List Char, name ++ ".md".toList <:+ stem ++ ".md".toList ↔ name <:+ stem :=
    fun name => List.suffix_append_self_iff
  have hindexed : "/index.md".toList <:+ stem ++ ".md".toList ↔ "/index".toList <:+ stem :=
    hends "/index".toList
  rw [hindexed]
  by_cases hreadme : "/README".toList <:+ stem
  · -- Published as a directory.
    obtain ⟨front, rfl⟩ := hreadme
    have hpath : front ++ "/README".toList ++ ".md".toList = front ++ "/README.md".toList :=
      List.append_assoc ..
    have hfront : '\n' ∉ front := fun h => hstem (List.mem_append_left _ h)
    rw [hpath, toPublished_readme, toSource_folder hfront]
    refine iff_of_true rfl fun hindex => ?_
    rcases List.suffix_or_suffix_of_suffix hindex (List.suffix_append front "/README".toList) with
      h | h <;> exact absurd h (by decide)
  · rw [toPublished_page hreadme hstem]
    by_cases hindex : "/index".toList <:+ stem
    · obtain ⟨front, rfl⟩ := hindex
      have hpath : front ++ "/index".toList ++ ".html".toList = front ++ "/index.html".toList :=
        List.append_assoc ..
      rw [hpath, toSource_index, List.append_assoc, List.append_cancel_left_eq]
      exact iff_of_false (by decide) fun hno => hno (List.suffix_append ..)
    · rw [toSource_page hindex hstem]
      exact iff_of_true rfl hindex

/-- A published page is read back from its source, unless it is a page that introduces a directory, for
which it would be published as the directory. -/
theorem toPublished_toSource_eq_iff {h : List Char} (hline : '\n' ∉ h) (hpage : ".html".toList <:+ h) :
    toPublished (toSource h) = h ↔ ¬"/README.html".toList <:+ h ∧ ¬"/index.html".toList <:+ h := by
  obtain ⟨stem, rfl⟩ := hpage
  have hstem : '\n' ∉ stem := fun h => hline (List.mem_append_left _ h)
  have hends : ∀ name : List Char, name ++ ".html".toList <:+ stem ++ ".html".toList ↔ name <:+ stem :=
    fun name => List.suffix_append_self_iff
  have hcases : ¬"/README.html".toList <:+ stem ++ ".html".toList
      ∧ ¬"/index.html".toList <:+ stem ++ ".html".toList
      ↔ ¬"/README".toList <:+ stem ∧ ¬"/index".toList <:+ stem :=
    and_congr (not_congr (hends "/README".toList)) (not_congr (hends "/index".toList))
  rw [hcases]
  by_cases hindex : "/index".toList <:+ stem
  · obtain ⟨front, rfl⟩ := hindex
    have hpath : front ++ "/index".toList ++ ".html".toList = front ++ "/index.html".toList :=
      List.append_assoc ..
    rw [hpath, toSource_index, toPublished_readme, List.append_cancel_left_eq]
    exact iff_of_false (by decide) fun hno => hno.2 (List.suffix_append ..)
  · rw [toSource_page hindex hstem]
    by_cases hreadme : "/README".toList <:+ stem
    · obtain ⟨front, rfl⟩ := hreadme
      have hpath : front ++ "/README".toList ++ ".md".toList = front ++ "/README.md".toList :=
        List.append_assoc ..
      rw [hpath, toPublished_readme, List.append_assoc, List.append_cancel_left_eq]
      exact iff_of_false (by decide) fun hno => hno.1 (List.suffix_append ..)
    · rw [toPublished_page hreadme hstem]
      exact iff_of_true rfl ⟨hreadme, hindex⟩

/-- **Source and published paths convert into each other.** There and back is where it was, for every
page but the index of a directory, for every directory, and for every published page but those of the two
names that stand for their directory. -/
theorem publishedPaths_convert :
    (∀ page : List Char, '\n' ∉ page → ".md".toList <:+ page →
      (toSource (toPublished page) = page ↔ ¬"/index.md".toList <:+ page)) ∧
    (∀ folder : List Char, '\n' ∉ folder → ['/'] <:+ folder →
      toPublished (toSource folder) = folder) ∧
    ∀ page : List Char, '\n' ∉ page → ".html".toList <:+ page →
      (toPublished (toSource page) = page ↔
        ¬"/README.html".toList <:+ page ∧ ¬"/index.html".toList <:+ page) := by
  refine ⟨fun page => toSource_toPublished_eq_iff, fun folder hline hslash => ?_,
    fun page => toPublished_toSource_eq_iff⟩
  obtain ⟨front, rfl⟩ := hslash
  have hfront : '\n' ∉ front := fun h => hline (List.mem_append_left _ h)
  rw [toSource_folder hfront, toPublished_readme]

theorem publishedPaths_convert_guide :
    toSource (toPublished "guide/README.md".toList) = "guide/README.md".toList ∧
      toPublished (toSource "guide.html/".toList) = "guide.html/".toList ∧
      toPublished (toSource "guide/.md.html".toList) = "guide/.md.html".toList := by
  obtain ⟨hsource, hfolder, hpublished⟩ := publishedPaths_convert
  exact ⟨(hsource _ (by decide) (by decide)).2 (by decide), hfolder _ (by decide) (by decide),
    (hpublished _ (by decide) (by decide)).2 (by decide)⟩

end DocPath

/-! ## Source pages -/

variable {t : FileTree} {root : FilePath}

/-- A file is found by its names, however many slashes are between them. -/
theorem hasFile_congr {p q : List Char} (h : FilePath.namesOf p = FilePath.namesOf q) :
    t.hasFile root (.ofList p) = t.hasFile root (.ofList q) := by
  unfold FileTree.hasFile
  rw [projectPath_eq, projectPath_eq, String.toList_ofList, String.toList_ofList, h]

theorem hasFile_unrooted (p : List Char) :
    t.hasFile root (.ofList (unrooted p)) = t.hasFile root (.ofList p) :=
  hasFile_congr (namesOf_unrooted p)

theorem not_looksLikeFolder_html (stem : List Char) :
    looksLikeFolder (stem ++ ".html".toList) = false := by
  have hslash : ['/'].isSuffixOf (stem ++ ".html".toList) = false := by
    rw [← Bool.not_eq_true, List.isSuffixOf_iff_suffix, List.singleton_suffix_iff_getLast?_eq_some]
    simp
  unfold looksLikeFolder
  rw [hslash]
  simp

/-- A published page is looked for in the page of that name, or in the introduction of the directory
that it is the index of. -/
theorem sourceServes_page (stem : List Char) :
    sourceServes t root (stem ++ ".html".toList)
      = t.hasFile root (.ofList
          (replaceEnd "/index.md".toList "/README.md".toList (stem ++ pageExtension))) := by
  unfold sourceServes
  simp only [not_looksLikeFolder_html, replaceEnd_append, Bool.false_and, Bool.or_false]

/-- A directory is looked for in its introduction. -/
theorem sourceServes_folder {path : List Char} (hpath : path = [] ∨ ['/'] <:+ path)
    (hfile : t.hasFile root (.ofList (path ++ readme)) = true) : sourceServes t root path = true := by
  have hfolder : looksLikeFolder path = true := by
    rcases hpath with rfl | hslash
    · rfl
    · unfold looksLikeFolder
      rw [List.isSuffixOf_iff_suffix.2 hslash, Bool.true_or]
  have hjoin : join path readme = path ++ readme := by
    rcases hpath with rfl | hslash
    · rfl
    · exact if_pos (.inr (List.isSuffixOf_iff_suffix.2 hslash))
  unfold sourceServes
  rw [hfolder, hjoin, hfile]
  simp

section ThereAndBack

variable {page : List Char}

theorem sourceServes_toPublished_readme (hreadme : "/README.md".toList <:+ '/' :: page)
    (hfile : t.hasFile root (.ofList page) = true) :
    sourceServes t root (unrooted (toPublished ('/' :: page))) = true := by
  obtain ⟨front, hfront⟩ := hreadme
  rw [← hfront, toPublished_readme]
  refine sourceServes_folder ?_ ?_
  · rw [unrooted_append]
    split
    · exact .inl rfl
    · exact .inr (List.suffix_append ..)
  · rw [← hfile]
    refine hasFile_congr ?_
    rw [← unrooted_append_of_head (by decide), namesOf_unrooted, ← namesOf_cons_slash page, ← hfront,
      List.append_assoc]
    rfl

theorem sourceServes_toPublished_page (hpage : pageExtension <:+ page) (hline : '\n' ∉ page)
    (hreadme : ¬"/README.md".toList <:+ '/' :: page) :
    sourceServes t root (unrooted (toPublished ('/' :: page)))
      = t.hasFile root (.ofList
          (replaceEnd "/index.md".toList "/README.md".toList (unrooted page))) := by
  obtain ⟨stem, rfl⟩ := hpage
  have hstem : '\n' ∉ '/' :: stem := by simpa using fun h => hline (List.mem_append_left _ h)
  have hno : ¬"/README".toList <:+ '/' :: stem := fun hs => by
    have hends : "/README".toList ++ pageExtension <:+ '/' :: stem ++ pageExtension :=
      List.suffix_append_self_iff.2 hs
    exact hreadme hends
  have hpublished : toPublished ('/' :: (stem ++ pageExtension)) = '/' :: stem ++ ".html".toList :=
    toPublished_page hno hstem
  rw [hpublished, unrooted_append_of_head (by decide), unrooted_append_of_head (by decide),
    sourceServes_page]
  rfl

/-- **There and back.** A source page is found again from where it is published, unless it is the index
of a directory that has no introduction. -/
theorem sourceServes_toPublished_iff (hpage : pageExtension <:+ page) (hline : '\n' ∉ page)
    (hfile : t.hasFile root (.ofList page) = true) :
    sourceServes t root (unrooted (toPublished ('/' :: page))) = true ↔
      ∀ folder, unrooted page = folder ++ "/index.md".toList →
        t.hasFile root (.ofList (folder ++ "/README.md".toList)) = true := by
  by_cases hreadme : "/README.md".toList <:+ '/' :: page
  · refine iff_of_true (sourceServes_toPublished_readme hreadme hfile) fun folder hindex => ?_
    -- No path ends in both names.
    have hends : "/index.md".toList <:+ '/' :: page :=
      (List.IsSuffix.trans ⟨folder, hindex.symm⟩ (List.dropWhile_suffix _)).trans
        (List.suffix_cons ..)
    rcases List.suffix_or_suffix_of_suffix hreadme hends with h | h <;> exact absurd h (by decide)
  · rw [sourceServes_toPublished_page hpage hline hreadme]
    by_cases hindex : "/index.md".toList <:+ unrooted page
    · obtain ⟨folder, hfolder⟩ := hindex
      rw [← hfolder, replaceEnd_append]
      refine ⟨fun h folder' heq => ?_, fun h => h folder rfl⟩
      rwa [← List.append_cancel_right heq]
    · rw [replaceEnd_of_not_suffix _ hindex fun h => hline (mem_of_mem_unrooted h), hasFile_unrooted]
      exact iff_of_true hfile fun folder heq => absurd ⟨folder, heq.symm⟩ hindex

end ThereAndBack

end DocLinks
