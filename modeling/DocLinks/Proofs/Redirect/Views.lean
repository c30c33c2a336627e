import DocLinks.Proofs.Assoc
import DocLinks.Proofs.Redirect.Appending

/-!
# The views of a table

A table is a list of entries, and everything else that it is asked is told by that list: the maps by
source and by destination, the map for a server, and the look-ups. The views agree in every table that
was read from a text and then appended to, however often (`agreeingViews_of_reached`): of two entries
with one source the later one counts in all of them, and no entry is lost to the map by destination. The
map for a server has keys of its own, but no two sources share one.

## Contents
- `Reached`: the tables that come from a text.
- `RedirectEntry.IsPublished`: the paths of an entry are made of its own words.
- `AgreeingViews`: what the views say.
-/

namespace DocLinks

open Text FileTree

/-! ## Tables that come from a text -/

namespace RedirectTable

/-- The tables that are read from a text and appended to, at any time and in any workspace. -/
inductive Reached : RedirectTable → Prop
  | ofText (content : String) (file : Option FilePath) : Reached (.ofText content file)
  | append {table table' : RedirectTable} {pairs : List RedirectPair} {added : Nat} {σ : Type}
      {w v : Workspace σ} (h : Reached table)
      (hrun : table.append pairs w = (.ok (.ok (table', added)), v)) : Reached table'

/-- **Appending** leaves a table as it is or reads the entries of a text. -/
theorem entries_of_append {σ : Type} {table table' : RedirectTable} {pairs : List RedirectPair}
    {added : Nat} {w v : Workspace σ}
    (hrun : table.append pairs w = (.ok (.ok (table', added)), v)) :
    table' = table ∨ ∃ content, table'.entries = Redirect.parseEntries content := by
  by_cases hne : pairs = []
  · subst hne
    cases hrun
    exact .inl rfl
  · obtain ⟨f, hrefused⟩ | ⟨p, _, _, u, -, -, -, -, -, -, hwritten⟩ := append_run table w hne
    · cases hrefused.symm.trans hrun
    · have hanswer := congrArg Prod.fst (hwritten.symm.trans hrun)
      rcases hreload : RedirectTable.ofFile u.tree p with f | reloaded
      · rw [hreload] at hanswer
        cases hanswer
      · rw [hreload] at hanswer
        cases hanswer
        obtain ⟨text, -, rfl⟩ := ofFile_eq_ok hreload
        exact .inr ⟨text, rfl⟩

/-- The entries of a table that was reached are those of a text. -/
theorem Reached.exists_content {t : RedirectTable} (h : Reached t) :
    ∃ content, t.entries = Redirect.parseEntries content := by
  induction h with
  | ofText content _ => exact ⟨content, rfl⟩
  | append _ hrun ih =>
    rcases entries_of_append hrun with rfl | hread
    · exact ih
    · exact hread

end RedirectTable

/-! ## The paths of an entry -/

/-- The published path of a file of the project. -/
def publishedPath (path : String) : String := onChars DocPath.toPublished ("/" ++ path)

/-- The published paths of an entry are those of its own words. -/
structure RedirectEntry.IsPublished (e : RedirectEntry) : Prop where
  fromPath : e.fromPath = "/" ++ e.rawFrom
  toPath : e.toPath = publishedPath e.rawTo

theorem ofList_slash_cons (cs : List Char) : String.ofList ('/' :: cs) = "/" ++ String.ofList cs := by
  rw [← List.singleton_append, String.ofList_append]

theorem Redirect.isPublished_of_mem {content : String} {e : RedirectEntry}
    (h : e ∈ Redirect.parseEntries content) : e.IsPublished := by
  obtain ⟨numbered, -, hentry⟩ := List.mem_filterMap.1 h
  obtain ⟨⟨source, destination⟩, -, rfl⟩ := Option.map_eq_some_iff.1 hentry
  refine ⟨ofList_slash_cons source, ?_⟩
  have hto : publishedPath (.ofList destination)
      = .ofList (DocPath.toPublished ('/' :: destination)) := by
    unfold publishedPath onChars
    rw [← ofList_slash_cons, String.toList_ofList]
  exact hto.symm

/-! ## The views -/

/-- **The views of a table agree** on what its list of entries says. -/
structure AgreeingViews (t : RedirectTable) : Prop where
  /-- The entry of a source is the last one that has the source. -/
  findEntry : ∀ source e, t.findEntry? source = some e ↔ ∃ before after,
    t.entries = before ++ e :: after ∧ e.rawFrom = source ∧ ∀ e' ∈ after, e'.rawFrom ≠ source
  /-- The destination of a source is that of its entry. -/
  fromTo : ∀ source, t.fromTo.get? source = (t.findEntry? source).map (·.rawTo)
  /-- A destination of some entry has the sources of all its entries, in their order. -/
  toFrom : ∀ destination, t.toFrom.get? destination =
    if destination ∈ t.entries.map (·.rawTo)
      then some ((t.entries.filter (·.rawTo = destination)).map (·.rawFrom)) else none
  /-- No entry is lost by that, and none is there twice. -/
  sum : (t.toFrom.map (·.2.length)).sum = t.size
  /-- The map for a server is the map of sources, with the published path of each source and of its
  destination. -/
  forServer : t.forServer = t.fromTo.map fun e => ("/" ++ e.1, publishedPath e.2)
  /-- A source of the table is found under its own name, with a leading slash, with its extension, and
  with both. -/
  findTarget : ∀ source destination, t.fromTo.get? source = some destination →
    t.findTarget? source = some destination ∧
    ∀ path ∈ ["/" ++ source, source ++ ".md", "/" ++ source ++ ".md"], (t.findTarget? path).isSome

namespace RedirectTable

variable (t : RedirectTable)

theorem findEntry?_eq_some_iff {source : String} {e : RedirectEntry} :
    t.findEntry? source = some e ↔ ∃ before after,
      t.entries = before ++ e :: after ∧ e.rawFrom = source ∧ ∀ e' ∈ after, e'.rawFrom ≠ source := by
  unfold findEntry?
  rw [List.find?_eq_some_iff_append]
  constructor
  · rintro ⟨hsource, after, before, hentries, hafter⟩
    refine ⟨before.reverse, after.reverse, ?_, by simpa using hsource, fun e' he' => ?_⟩
    · rw [← List.reverse_inj, hentries]
      simp
    · simpa using hafter e' (List.mem_reverse.1 he')
  · rintro ⟨before, after, hentries, hsource, hafter⟩
    refine ⟨by simpa using hsource, after.reverse, before.reverse, ?_, fun e' he' => ?_⟩
    · rw [hentries]
      simp
    · simpa using hafter e' (List.mem_reverse.1 he')

theorem get?_fromTo (source : String) :
    t.fromTo.get? source = (t.findEntry? source).map (·.rawTo) := by
  unfold fromTo findEntry?
  rw [Assoc.get?_ofList, ← List.map_reverse, List.find?_map, Option.map_map]
  rfl

theorem get?_toFrom (destination : String) :
    t.toFrom.get? destination = if destination ∈ t.entries.map (·.rawTo)
      then some ((t.entries.filter (·.rawTo = destination)).map (·.rawFrom)) else none := by
  unfold toFrom
  rw [Assoc.get?_group, List.map_map, List.filter_map, List.map_map]
  rfl

/-- The map for a server, if the entries are published under their own words. -/
theorem forServer_eq (h : ∀ e ∈ t.entries, e.IsPublished) :
    t.forServer = t.fromTo.map fun e => ("/" ++ e.1, publishedPath e.2) := by
  have hinj : Function.Injective fun source : String => "/" ++ source :=
    fun _ _ h => String.append_right_inj "/" |>.1 h
  have hpairs : (t.entries.map fun e => (e.fromPath, e.toPath))
      = (t.entries.map fun e => (e.rawFrom, e.rawTo)).map
          fun p => ("/" ++ p.1, publishedPath p.2) := by
    rw [List.map_map]
    exact List.map_congr_left fun e he => by rw [(h e he).fromPath, (h e he).toPath]; rfl
  unfold forServer fromTo
  rw [hpairs]
  exact Assoc.ofList_map publishedPath hinj _

/-- The paths of which a source is a spelling. -/
theorem mem_variants (source : String) :
    ∀ path ∈ ["/" ++ source, source ++ ".md", "/" ++ source ++ ".md"], source ∈ variants path := by
  have hbare : replaceEnd ".md".toList [] (source.toList ++ ".md".toList) = source.toList := by
    rw [replaceEnd_append, List.append_nil]
  have hslash : ("/" ++ source).toList = '/' :: source.toList := by
    rw [String.toList_append]
    rfl
  simp only [List.forall_mem_cons, List.not_mem_nil, false_imp_iff, implies_true, and_true]
  unfold variants
  refine ⟨?_, ?_, ?_⟩
  · rw [hslash]
    simp
  · have h : onChars (replaceEnd ".md".toList []) (source ++ ".md") = source := by
      rw [← String.toList_inj, toList_onChars, String.toList_append, hbare]
    simp only [List.mem_cons]
    exact .inr (.inr (.inl h.symm))
  · rw [String.toList_append, hslash, List.cons_append]
    simp only [hbare, String.ofList_toList, List.mem_cons, true_or, or_true]

/-- **The views agree** in every table that comes from a text. -/
theorem agreeingViews_of_reached (h : Reached t) : AgreeingViews t where
  findEntry _ _ := t.findEntry?_eq_some_iff
  fromTo := t.get?_fromTo
  toFrom := t.get?_toFrom
  sum := by
    unfold toFrom size
    rw [Assoc.sum_length_group, List.length_map]
  forServer := by
    obtain ⟨content, hentries⟩ := h.exists_content
    refine t.forServer_eq fun e he => ?_
    rw [hentries] at he
    exact Redirect.isPublished_of_mem he
  findTarget source destination hget := by
    refine ⟨?_, fun path hpath => ?_⟩
    · unfold findTarget? variants
      rw [List.findSome?_cons, hget]
    · refine t.isSome_findTarget? (mem_variants source path hpath) ?_
      rw [hget]
      rfl

end RedirectTable

/-- Two more redirects for `mixedProject`: another destination of a source that is there already, and
another source of a destination. -/
def rivalPairs : List RedirectPair := [⟨"a", "new.md"⟩, ⟨"old/page.md", "b.md"⟩]

theorem RedirectTable.agreeingViews_of_reached_rivalPairs :
    ∃ table v, (RedirectTable.ofText mixedConfiguration (some mixedPath)).append rivalPairs mixedProject
        = (.ok (.ok (table, 2)), v) ∧
      Reached table ∧ AgreeingViews table := by
  have hadded : ((RedirectTable.ofText mixedConfiguration (some mixedPath)).append rivalPairs
      mixedProject).1.toOption.bind (·.toOption.map Prod.snd) = some 2 := by decide +kernel
  rcases hrun : (RedirectTable.ofText mixedConfiguration (some mixedPath)).append rivalPairs mixedProject
    with ⟨_ | (_ | ⟨table, added⟩), v⟩
  · rw [hrun] at hadded
    cases hadded
  · rw [hrun] at hadded
    cases hadded
  · rw [hrun] at hadded
    obtain rfl : added = 2 := Option.some.inj hadded
    have hreached : Reached table := .append (.ofText mixedConfiguration (some mixedPath)) hrun
    exact ⟨table, v, rfl, hreached, agreeingViews_of_reached table hreached⟩

end DocLinks
