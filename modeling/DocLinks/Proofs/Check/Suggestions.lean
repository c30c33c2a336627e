import DocLinks.Proofs.Check.Reports
import DocLinks.Proofs.Fix.ClosestFile
import DocLinks.Proofs.Fix.Namesakes
import DocLinks.Proofs.Fix.NearestReadme

/-!
# What is suggested

Whatever strategy answers, it suggests a path that is a file of the project: one that it has looked
up, or a page of the index (`SuggestedIn.hasFile`).

## Contents
- `mem_of_usesIndex`, `confidence_ne_high_of_usesIndex`: the strategies that look at the index.
- `redirectSuggestion_eq_some`, `readmeSuggestion_eq_some`: the strategies that look up files.
-/

namespace DocLinks

open Text FileTree

/-! ## Look-ups in the index -/

theorem mem_of_mem_findByStem {files : List String} {stem f : String}
    (h : f ∈ (FileIndex.ofFiles files).findByStem stem) : f ∈ files := by
  rw [FileIndex.findByStem_ofFiles] at h
  exact (List.mem_filter.1 h).1

theorem mem_of_mem_findByPath {files : List String} {path f : String}
    (h : f ∈ (FileIndex.ofFiles files).findByPath path) : f ∈ files := by
  rw [FileIndex.findByPath_ofFiles] at h
  exact (List.mem_filter.1 h).1

/-! ## The strategies -/

theorem mem_of_basenameSuggestion {s : Surroundings} {b : BrokenLink} {suggestion : FixSuggestion}
    (h : basenameSuggestion s b = some suggestion) :
    suggestion.suggestedPath ∈ basenameMatches s b := by
  rcases basenameSuggestion_eq_some h with ⟨f, hone, rfl⟩ | ⟨score, f, hbest, -, rfl⟩
  · rw [hone]
    exact List.mem_cons_self
  · obtain ⟨-, before, after, hsplit, -, -⟩ := bestMatch_eq_some hbest
    rw [hsplit]
    exact List.mem_append_right _ List.mem_cons_self

theorem mem_of_similaritySuggestion {s : Surroundings} {b : BrokenLink} {suggestion : FixSuggestion}
    (h : similaritySuggestion s b = some suggestion) :
    suggestion.suggestedPath ∈ s.index.allFiles := by
  have hfirst := (suggestsClosest_of_eq_some h).first
  exact (mem_closestFiles.1 (List.mem_of_mem_head? hfirst)).1

theorem mem_of_caseSuggestion {s : Surroundings} {b : BrokenLink} {suggestion : FixSuggestion}
    (h : caseSuggestion s b = some suggestion) :
    suggestion.suggestedPath ∈ s.index.findByPath b.probe := by
  unfold caseSuggestion at h
  obtain ⟨f, hf, rfl⟩ := Option.map_eq_some_iff.1 h
  exact List.mem_of_find?_eq_some hf

/-- What the strategies that look at an index suggest is in the index. -/
theorem mem_of_usesIndex {strategy : Strategy} {s : Surroundings} {files : List String} {b : BrokenLink}
    {suggestion : FixSuggestion} (hindex : s.index = FileIndex.ofFiles files)
    (huse : strategy.usesIndex = true) (h : strategy.find s b = some suggestion) :
    suggestion.suggestedPath ∈ files := by
  cases strategy with
  | redirect => cases huse
  | basename =>
    have hmem := mem_of_basenameSuggestion h
    unfold basenameMatches at hmem
    rw [hindex] at hmem
    exact mem_of_mem_findByStem hmem
  | similarity =>
    have hmem := mem_of_similaritySuggestion h
    rw [hindex] at hmem
    exact hmem
  | letterCase =>
    have hmem := mem_of_caseSuggestion h
    rw [hindex] at hmem
    exact mem_of_mem_findByPath hmem
  | readme => cases huse

/-- Such a suggestion is never of high confidence. -/
theorem confidence_ne_high_of_usesIndex {strategy : Strategy} {s : Surroundings} {b : BrokenLink}
    {suggestion : FixSuggestion} (huse : strategy.usesIndex = true)
    (h : strategy.find s b = some suggestion) : suggestion.confidence ≠ .high := by
  cases strategy with
  | redirect => cases huse
  | basename =>
    rcases basenameSuggestion_eq_some h with ⟨f, -, rfl⟩ | ⟨score, f, -, -, rfl⟩
    · exact nofun
    · exact nofun
  | similarity =>
    obtain ⟨d, f, -, -, rfl⟩ := similaritySuggestion_eq_some_iff.1 h
    simp only
    split <;> exact nofun
  | letterCase =>
    obtain ⟨f, _, rfl⟩ := Option.map_eq_some_iff.1 h
    exact nofun
  | readme => cases huse

/-- What is suggested for a redirect: its destination, which is a file, with the entry it is from. -/
theorem redirectSuggestion_eq_some {s : Surroundings} {b : BrokenLink} {suggestion : FixSuggestion}
    (h : redirectSuggestion s b = some suggestion) :
    ∃ table spelling, s.table = some table ∧ spelling ∈ RedirectTable.variants b.probe ∧
      table.fromTo.get? spelling = some suggestion.suggestedPath ∧
      suggestion.redirectEntry = table.findEntry? spelling ∧ suggestion.confidence = .high ∧
      suggestion.suggestedPath ≠ "" ∧ s.tree.hasFile s.root suggestion.suggestedPath = true := by
  unfold redirectSuggestion at h
  split at h
  · cases h
  · rename_i table htable
    obtain ⟨spelling, hspelling, hfor⟩ := List.exists_of_findSome?_eq_some h
    unfold redirectFor at hfor
    split at hfor
    · cases hfor
    · rename_i destination hget
      split at hfor
      · rename_i hfile
        rw [← Option.some.inj hfor]
        exact ⟨table, spelling, htable, hspelling, hget, rfl, rfl, hfile⟩
      · cases hfor

/-- What is suggested for a directory: a `README.md` near the document, which is a file. -/
theorem readmeSuggestion_eq_some {s : Surroundings} {b : BrokenLink} {suggestion : FixSuggestion}
    (h : readmeSuggestion s b = some suggestion) :
    ∃ neighbor ∈ neighborDirectories,
      suggestion.suggestedPath = .ofList (neighborReadme b.sourceFile neighbor.1) ∧
      ¬"..".toList.isPrefixOf (neighborReadme b.sourceFile neighbor.1) ∧
      suggestion.confidence = .low ∧ s.tree.hasFile s.root suggestion.suggestedPath = true := by
  obtain ⟨neighbor, hneighbor, hoffer⟩ := exists_readmeOffer h
  obtain ⟨hinside, hfile, -, rfl⟩ := readmeOffer_eq_some_iff.1 hoffer
  exact ⟨neighbor, hneighbor, rfl, fun hup => hinside (List.isPrefixOf_iff_prefix.1 hup), rfl, hfile⟩

theorem collapse_ne_nil (p : List Char) : DocPath.collapse p ≠ [] := by
  unfold DocPath.collapse
  simp only
  split
  · exact List.cons_ne_nil '.' []
  · rename_i h
    simpa [List.isEmpty_iff] using h

/-- **What is suggested exists.** -/
theorem SuggestedIn.hasFile {t : FileTree} (ht : t.Proper) {c : Context} {b : BrokenLink}
    {suggestion : FixSuggestion} (h : SuggestedIn t c b suggestion) :
    suggestion.suggestedPath ≠ "" ∧
      (isTooLong (projectPath c.root suggestion.suggestedPath) = false →
        t.hasFile c.root suggestion.suggestedPath = true) := by
  obtain ⟨strategy, index, hindex, hfind⟩ := h
  -- The pages of the index are files, and their paths are not empty.
  have hpage : ∀ files, t.scan c.root [".md"] c.excludeDirs = .ok files →
      suggestion.suggestedPath ∈ files → suggestion.suggestedPath ≠ "" ∧
      (isTooLong (projectPath c.root suggestion.suggestedPath) = false →
        t.hasFile c.root suggestion.suggestedPath = true) := by
    intro files hscan hmem
    refine ⟨?_, hasFile_of_scan ht hscan hmem⟩
    obtain ⟨_, place, excluded', _, _, hbelow⟩ := scan_ok hscan hmem
    obtain ⟨names, hne, hnames, heq, _⟩ := mem_filesBelow ht hbelow
    rw [heq]
    exact intercalate_ne_empty hnames hne
  cases strategy with
  | redirect =>
    obtain ⟨_, _, _, _, _, _, _, hne, hfile⟩ := redirectSuggestion_eq_some hfind
    exact ⟨hne, fun _ => hfile⟩
  | readme =>
    obtain ⟨neighbor, _, hpath, _, _, hfile⟩ := readmeSuggestion_eq_some hfind
    refine ⟨fun hempty => ?_, fun _ => hfile⟩
    rw [hpath] at hempty
    have hnil := congrArg String.toList hempty
    rw [String.toList_ofList] at hnil
    exact collapse_ne_nil _ hnil
  | basename | similarity | letterCase =>
    obtain ⟨files, hscan, hofFiles⟩ := hindex rfl
    exact hpage files hscan (mem_of_usesIndex hofFiles rfl hfind)

end DocLinks
