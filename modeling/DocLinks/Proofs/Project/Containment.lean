import DocLinks.Project.Root
import DocLinks.Proofs.Project.Pages

/-!
# Containers

Whether a path stays in its container depends on where its names lead, and neither on what stands there
nor on what the path passes on its way. Where names lead is a relation between places, with one rule for
each kind of name (`LeadsTo`). A path is accepted if the place of the container is the beginning of its
own, name by name, and is refused otherwise (`exists_decidesByNames`).

## Contents
- `FilePath.IsResolved`, `resolve_of_isResolved`, `place_of_isResolved`: paths that lead down.
- `LeadsTo`, `leadsTo_iff`: where names lead.
- `resolve_of_leadsTo`, `eq_of_placeOf`: what a path means, and where a walk in a tree ends.
- `writtenNames`, `leadsTo_join`: paths from text.
- `validateContained_of_leadsTo`, `DecidesByNames`: what is decided about a path in a container.
-/

namespace DocLinks

/-! ## Resolved paths -/

/-- A path that leads down from the root of the file system. -/
structure FilePath.IsResolved (p : FilePath) : Prop where
  slashes : p.slashes = 1
  down : ∀ n ∈ p.names, n ≠ ".."

namespace FilePath

theorem ne_up_of_mem_foldl_step {names walked : List String} (h : ∀ n ∈ walked, n ≠ "..") :
    ∀ n ∈ names.foldl step walked, n ≠ ".." := by
  induction names generalizing walked with
  | nil => exact h
  | cons m ms ih =>
    refine ih fun n hn => ?_
    unfold step at hn
    split at hn
    · exact h n (List.mem_of_mem_tail hn)
    · rename_i hm
      rcases List.mem_cons.1 hn with rfl | hn
      · exact hm
      · exact h n hn

theorem isResolved_resolve (cwd : List String) (p : FilePath) : (p.resolve cwd).IsResolved where
  slashes := rfl
  down n hn := ne_up_of_mem_foldl_step (fun _ h => absurd h List.not_mem_nil) n
    (List.mem_reverse.1 hn)

theorem foldl_step_of_down {names : List String} (h : ∀ n ∈ names, n ≠ "..") (walked : List String) :
    names.foldl step walked = names.reverse ++ walked := by
  induction names generalizing walked with
  | nil => rfl
  | cons m ms ih =>
    rw [List.foldl_cons, step, if_neg (h m (List.mem_cons_self ..)),
      ih (fun n hn => h n (List.mem_cons_of_mem _ hn)), List.reverse_cons, List.append_assoc]
    rfl

theorem IsResolved.isAbsolute {p : FilePath} (h : p.IsResolved) : p.isAbsolute = true := by
  unfold FilePath.isAbsolute
  rw [h.slashes]
  rfl

/-- A resolved path is what it means. -/
theorem resolve_of_isResolved {p : FilePath} (h : p.IsResolved) (cwd : List String) :
    p.resolve cwd = p := by
  obtain ⟨slashes, names⟩ := p
  obtain rfl : slashes = 1 := h.slashes
  unfold resolve resolveNames absolute
  rw [if_pos h.isAbsolute, foldl_step_of_down h.down, List.append_nil, List.reverse_reverse]

end FilePath

variable {t : FileTree} {p : FilePath} {place : List String}

/-- A walk along a resolved path comes to where its names say. -/
theorem place_of_isResolved (h : p.IsResolved) (hp : t.placeOf p = .ok place) : place = p.names := by
  have hwalk := walk_down h.down (FileTree.placeOf_eq_ok_iff.1 hp)
  rwa [FileTree.start, if_pos h.isAbsolute, List.nil_append] at hwalk

/-- A walk comes to where its names lead. -/
theorem walk_eq {names target : List String} (h : t.walk place names = .ok target) :
    target = (names.foldl FilePath.step place.reverse).reverse := by
  induction names generalizing place with
  | nil =>
    cases h
    exact (List.reverse_reverse _).symm
  | cons n ns ih =>
    obtain ⟨next, hstep, h⟩ := FileTree.walk_cons_eq_ok.1 h
    have hnext : next.reverse = FilePath.step place.reverse n := by
      unfold FilePath.step
      obtain ⟨-, ⟨hup, rfl⟩ | ⟨hname, rfl, -⟩⟩ := FileTree.step_eq_ok_iff.1 hstep
      · rw [if_pos hup, List.tail_reverse]
      · rw [if_neg hname, List.reverse_append]
        rfl
    rw [ih h, hnext, List.foldl_cons]

/-! ## Where names lead -/

/-- A name that stays in place. -/
def Stays (n : String) : Prop := n = "" ∨ n = "."

/-- A name that goes on to what has it. -/
def GoesDown (n : String) : Prop := ¬Stays n ∧ n ≠ ".."

instance (n : String) : Decidable (Stays n) := inferInstanceAs (Decidable (_ ∨ _))

instance (n : String) : Decidable (GoesDown n) := inferInstanceAs (Decidable (_ ∧ _))

/-- Where names lead from a place, whether or not anything stands there. -/
inductive LeadsTo : List String → List String → List String → Prop
  | here (place : List String) : LeadsTo place [] place
  /-- An empty name and a dot stay. -/
  | stay {place names target : List String} {n : String} (hn : Stays n)
      (rest : LeadsTo place names target) : LeadsTo place (n :: names) target
  /-- Two dots go back, and at the root they stay. -/
  | up {place names target : List String} (rest : LeadsTo place.dropLast names target) :
      LeadsTo place (".." :: names) target
  /-- Any other name goes on. -/
  | down {place names target : List String} {n : String} (hn : GoesDown n)
      (rest : LeadsTo (place ++ [n]) names target) : LeadsTo place (n :: names) target

/-- Names lead somewhere. -/
theorem exists_leadsTo (place names : List String) : ∃ target, LeadsTo place names target := by
  induction names generalizing place with
  | nil => exact ⟨place, .here place⟩
  | cons n ns ih =>
    by_cases hstay : Stays n
    · exact (ih place).imp fun _ => .stay hstay
    · by_cases hup : n = ".."
      · subst hup
        exact (ih place.dropLast).imp fun _ => .up
      · exact (ih (place ++ [n])).imp fun _ => .down ⟨hstay, hup⟩

/-- Where names lead is what a stack of names has in the end. -/
theorem LeadsTo.eq_foldl {place names target : List String} (h : LeadsTo place names target) :
    target = ((names.filter fun n => ¬Stays n).foldl FilePath.step place.reverse).reverse := by
  induction h with
  | here place => exact (List.reverse_reverse place).symm
  | stay hn _ ih => rwa [List.filter_cons_of_neg (by simpa using hn)]
  | up _ ih =>
    rwa [List.filter_cons_of_pos (by decide), List.foldl_cons, FilePath.step, if_pos rfl,
      List.tail_reverse]
  | down hn _ ih =>
    rw [List.filter_cons_of_pos (by simpa using hn.1), List.foldl_cons, FilePath.step, if_neg hn.2]
    rwa [List.reverse_append] at ih

/-- **Names lead to one place**, which a stack of names finds. -/
theorem leadsTo_iff {place names target : List String} : LeadsTo place names target ↔
    target = ((names.filter fun n => ¬Stays n).foldl FilePath.step place.reverse).reverse := by
  refine ⟨LeadsTo.eq_foldl, fun h => ?_⟩
  obtain ⟨other, hother⟩ := exists_leadsTo place names
  rwa [h, ← hother.eq_foldl]

instance (place names target : List String) : Decidable (LeadsTo place names target) :=
  decidable_of_iff _ leadsTo_iff.symm

theorem LeadsTo.unique {place names target target' : List String} (h : LeadsTo place names target)
    (h' : LeadsTo place names target') : target = target' :=
  h.eq_foldl.trans h'.eq_foldl.symm

theorem LeadsTo.append {place front middle rest target : List String}
    (h : LeadsTo place front middle) (h' : LeadsTo middle rest target) :
    LeadsTo place (front ++ rest) target := by
  induction h with
  | here place => exact h'
  | stay hn _ ih => exact .stay hn (ih h')
  | up _ ih => exact .up (ih h')
  | down hn _ ih => exact .down hn (ih h')

/-- Names that go down lead down. -/
theorem leadsTo_append_of_goesDown {names : List String} (h : ∀ n ∈ names, GoesDown n)
    (place : List String) : LeadsTo place names (place ++ names) := by
  induction names generalizing place with
  | nil => simpa using LeadsTo.here place
  | cons n ns ih =>
    obtain ⟨hn, hns⟩ := List.forall_mem_cons.1 h
    have hrest := ih hns (place ++ [n])
    rw [List.append_assoc] at hrest
    exact .down hn hrest

/-- A walk from a place leads to a place: what it goes back is gone. -/
theorem LeadsTo.goesDown {place names target : List String} (h : LeadsTo place names target)
    (hplace : ∀ n ∈ place, GoesDown n) : ∀ n ∈ target, GoesDown n := by
  induction h with
  | here place => exact hplace
  | stay _ _ ih => exact ih hplace
  | up _ ih => exact ih fun n hn => hplace n (List.dropLast_subset _ hn)
  | down hn _ ih => exact ih (List.forall_mem_append.2 ⟨hplace, List.forall_mem_singleton.2 hn⟩)

/-! ## Paths by where their names lead -/

/-- A path as it is read from text: no name of it stays in place. -/
def FilePath.IsParsed (p : FilePath) : Prop := ∀ n ∈ p.names, ¬Stays n

theorem FilePath.IsParsed.filter_names (hp : p.IsParsed) :
    (p.names.filter fun n => ¬Stays n) = p.names :=
  List.filter_eq_self.2 fun n hn => by simpa using hp n hn

/-- **What a path means** is the absolute path of the place that its names lead to. -/
theorem resolve_of_leadsTo (hp : p.IsParsed) (hstart : ∀ n ∈ t.start p, n ≠ "..")
    (h : LeadsTo (t.start p) p.names place) : p.resolve t.cwd = .absolute place := by
  have hnames : (if p.isAbsolute then p.names else t.cwd ++ p.names) = t.start p ++ p.names := by
    unfold FileTree.start
    split <;> rfl
  rw [h.eq_foldl, hp.filter_names, FilePath.resolve, hnames, FilePath.resolveNames, List.foldl_append,
    FilePath.foldl_step_of_down hstart, List.append_nil]

/-- **A walk in a tree** comes to the place that the names lead to, if it comes anywhere. -/
theorem eq_of_placeOf {q : List String} (hp : p.IsParsed) (h : LeadsTo (t.start p) p.names place)
    (hq : t.placeOf p = .ok q) : q = place := by
  rw [walk_eq (FileTree.placeOf_eq_ok_iff.1 hq), h.eq_foldl, hp.filter_names]

/-! ## Paths from text -/

/-- The names of a text, with those that stay in place. -/
def writtenNames (s : String) : List String := (s.toList.splitOn '/').map String.ofList

/-- The place from which the names of a text are followed in a container: an absolute path begins at the
root. -/
def startIn (home : List String) (s : String) : List String :=
  if s.toList.head? = some '/' then [] else home

variable {s : String} {home : List String} {container : FilePath}

theorem names_ofString (s : String) :
    (FilePath.ofString s).names = (writtenNames s).filter fun n => ¬Stays n :=
  List.filter_congr fun n _ => by simp [Stays]

theorem isParsed_ofString (s : String) : (FilePath.ofString s).IsParsed := by
  intro n hn
  rw [names_ofString] at hn
  simpa using (List.mem_filter.1 hn).2

/-- Reading a path drops only names that stay. -/
theorem leadsTo_ofString {target : List String} :
    LeadsTo place (FilePath.ofString s).names target ↔ LeadsTo place (writtenNames s) target := by
  rw [leadsTo_iff, leadsTo_iff, names_ofString, List.filter_filter]
  simp only [Bool.and_self]

/-- A text is an absolute path if it begins with a slash. -/
theorem isAbsolute_ofString (s : String) :
    (FilePath.ofString s).isAbsolute = true ↔ s.toList.head? = some '/' := by
  unfold FilePath.ofString FilePath.ofChars FilePath.isAbsolute
  rcases s.toList with _ | ⟨c, cs⟩
  · simp
  · by_cases hc : c = '/'
    · subst hc
      rw [List.takeWhile_cons_of_pos (by decide), List.length_cons]
      simp only [List.head?_cons, ne_eq, decide_eq_true_eq]
      split <;> simp
    · simp [hc]

/-- A text without null characters has no name with one. -/
theorem hasNull_ofString (h : '\x00' ∉ s.toList) : (FilePath.ofString s).hasNull = false := by
  refine List.any_eq_false.2 fun n hn => ?_
  obtain ⟨piece, hpiece, rfl⟩ := List.mem_map.1 (List.mem_filter.1 hn).1
  rw [String.toList_ofList, List.contains_iff_mem]
  exact fun hnull => h (Text.mem_of_mem_splitOn hpiece hnull)

theorem start_join (path : FilePath) :
    t.start (container.join path) = if path.isAbsolute then [] else t.start container := by
  unfold FilePath.join
  by_cases habs : path.isAbsolute = true
  · rw [if_pos habs, if_pos habs, FileTree.start, if_pos habs]
  · rw [if_neg habs, if_neg habs]
    rfl

theorem isParsed_join (hcontainer : container.IsParsed) :
    (container.join (.ofString s)).IsParsed := by
  unfold FilePath.join
  split
  · exact isParsed_ofString s
  · exact List.forall_mem_append.2 ⟨hcontainer, isParsed_ofString s⟩

/-- A path in a container leads where its names lead from the place of the container. -/
theorem leadsTo_join (hhome : LeadsTo (t.start container) container.names home)
    (h : LeadsTo (startIn home s) (writtenNames s) place) :
    LeadsTo (t.start (container.join (.ofString s))) (container.join (.ofString s)).names place := by
  unfold startIn at h
  rw [start_join, FilePath.join]
  by_cases habs : (FilePath.ofString s).isAbsolute = true
  · rw [if_pos ((isAbsolute_ofString s).1 habs)] at h
    rw [if_pos habs, if_pos habs]
    exact leadsTo_ofString.2 h
  · rw [if_neg (mt (isAbsolute_ofString s).2 habs)] at h
    rw [if_neg habs, if_neg habs]
    exact hhome.append (leadsTo_ofString.2 h)

/-! ## Containers -/

theorem validateContained_ok {path container : FilePath} (hcontainer : container.IsResolved)
    (h : validateContained t path container = .ok p) :
    p.IsResolved ∧ container.isBelow p = true := by
  unfold validateContained at h
  simp only at h
  split at h
  · cases h
  · split at h
    · rename_i hbelow
      cases h
      rw [FilePath.resolve_of_isResolved hcontainer] at hbelow
      refine ⟨FilePath.isResolved_resolve _ _, ?_⟩
      rwa [FilePath.resolve_of_isResolved hcontainer]
    · cases h

/-- **Containment is decided by names**: a path is accepted if the place of the container is the beginning
of its own. -/
theorem validateContained_of_leadsTo (hs : '\x00' ∉ s.toList) (hnull : container.hasNull = false)
    (hcontainer : container.IsParsed) (hstart : ∀ n ∈ t.start container, GoesDown n)
    (hhome : LeadsTo (t.start container) container.names home)
    (h : LeadsTo (startIn home s) (writtenNames s) place) :
    validateContained t (.ofString s) container =
      if home <+: place then .ok (.absolute place)
      else .error (.path (.outside (FilePath.absolute place).text (FilePath.absolute home).text)) := by
  have hdown : ∀ n ∈ home, GoesDown n := hhome.goesDown hstart
  have hresolved : container.resolve t.cwd = .absolute home :=
    resolve_of_leadsTo hcontainer (fun n hn => (hstart n hn).2) hhome
  -- The container is followed once more, from the root.
  have habsolute : LeadsTo (t.start (.absolute home)) (FilePath.absolute home).names home :=
    leadsTo_append_of_goesDown hdown []
  have hjoin : ((FilePath.absolute home).join (.ofString s)).resolve t.cwd = .absolute place := by
    refine resolve_of_leadsTo (isParsed_join fun n hn => (hdown n hn).1) ?_ (leadsTo_join habsolute h)
    have hroot : t.start ((FilePath.absolute home).join (.ofString s)) = [] := by
      rw [start_join]
      exact ite_self _
    rw [hroot]
    exact nofun
  unfold validateContained
  simp only [hresolved, hjoin]
  rw [if_neg (by rw [hnull, hasNull_ofString hs]; decide)]
  exact if_congr List.isPrefixOf_iff_prefix rfl rfl

/-- **What is decided about a path in a container**, where the names of the container lead to `home` and
those of the path to `place`. -/
structure DecidesByNames (t : FileTree) (s : String) (container : FilePath) (home place : List String) :
    Prop where
  container_leads : LeadsTo (t.start container) container.names home
  /-- An absolute path is followed from the root, and any other from the container. -/
  path_leads : LeadsTo (startIn home s) (writtenNames s) place
  /-- A path that ends in the container is accepted, and the answer is the place where it ends. -/
  inside : home <+: place → validateContained t (.ofString s) container = .ok (.absolute place)
  /-- Any other is refused. -/
  outside : ¬home <+: place → validateContained t (.ofString s) container =
    .error (.path (.outside (FilePath.absolute place).text (FilePath.absolute home).text))
  /-- What is accepted lies in the container. -/
  below : ∀ q, validateContained t (.ofString s) container = .ok q → home <+: q.names
  /-- A sibling whose name goes on after the name of the container is refused, with all below it. -/
  beside : ∀ front n extra rest, home = front ++ [n] → place = front ++ (n ++ extra) :: rest →
    extra ≠ "" → ∃ f, validateContained t (.ofString s) container = .error (.path f)
  /-- A walk through the tree ends at the same place, if it comes to its end. -/
  walked : ∀ q, t.placeOf (container.join (.ofString s)) = .ok q → q = place

/-- A sibling is not below a folder because its name begins like that of the folder. -/
theorem not_prefix_sibling {front rest : List String} {n extra : String} (h : extra ≠ "") :
    ¬front ++ [n] <+: front ++ (n ++ extra) :: rest := by
  rw [List.prefix_append_right_inj, List.cons_prefix_cons]
  rintro ⟨heq, -⟩
  have hlist := congrArg String.toList heq
  rw [String.toList_append, List.self_eq_append_right] at hlist
  exact h (String.toList_eq_nil_iff.1 hlist)

/-- **Containment is decided by names**, for every path and every container: by where the names of the two
lead and by nothing that lies on the way. A relative container is followed from the current directory, which
is a place. -/
theorem exists_decidesByNames (t : FileTree) {s : String} {container : FilePath}
    (hs : '\x00' ∉ s.toList) (hnull : container.hasNull = false) (hcontainer : container.IsParsed)
    (hstart : ∀ n ∈ t.start container, GoesDown n) :
    ∃ home place, DecidesByNames t s container home place := by
  obtain ⟨home, hhome⟩ := exists_leadsTo (t.start container) container.names
  obtain ⟨place, hplace⟩ := exists_leadsTo (startIn home s) (writtenNames s)
  have hdecided := validateContained_of_leadsTo hs hnull hcontainer hstart hhome hplace
  refine ⟨home, place, hhome, hplace, ?inside, ?outside, ?below, ?beside, ?walked⟩
  case inside =>
    intro hbelow
    rw [hdecided, if_pos hbelow]
  case outside =>
    intro hbelow
    rw [hdecided, if_neg hbelow]
  case below =>
    intro q hq
    rw [hdecided] at hq
    split at hq
    · rename_i hbelow
      cases hq
      exact hbelow
    · cases hq
  case beside =>
    rintro front n extra rest rfl rfl hextra
    rw [hdecided, if_neg (not_prefix_sibling hextra)]
    exact ⟨_, rfl⟩
  case walked =>
    exact fun q => eq_of_placeOf (isParsed_join hcontainer) (leadsTo_join hhome hplace)

/-- An empty file system. -/
def emptyFileSystem : FileTree := { nodes := [], cwd := ["home"], home := [] }

/-- A path that climbs above the root and comes back is accepted, and the sibling `proj-old` of the
container `proj` is not. -/
theorem exists_decidesByNames_proj :
    ('\x00' ∉ "../../../x/..//home/./proj/gone/../a.md".toList ∧ '\x00' ∉ "../proj-old".toList ∧
      (FilePath.ofString "docs/../proj").hasNull = false ∧ (FilePath.ofString "docs/../proj").IsParsed ∧
      ∀ n ∈ emptyFileSystem.start (.ofString "docs/../proj"), GoesDown n) ∧
    validateContained emptyFileSystem (.ofString "../../../x/..//home/./proj/gone/../a.md")
      (.ofString "docs/../proj") = .ok (.absolute ["home", "proj", "a.md"]) ∧
    ∃ f, validateContained emptyFileSystem (.ofString "../proj-old") (.ofString "docs/../proj")
      = .error (.path f) := by
  have hpath : '\x00' ∉ "../../../x/..//home/./proj/gone/../a.md".toList := by decide
  have hsibling : '\x00' ∉ "../proj-old".toList := by decide
  have hnull : (FilePath.ofString "docs/../proj").hasNull = false := by decide
  have hparsed := isParsed_ofString "docs/../proj"
  have hstart : ∀ n ∈ emptyFileSystem.start (.ofString "docs/../proj"), GoesDown n := by decide
  refine ⟨⟨hpath, hsibling, hnull, hparsed, hstart⟩, ?_, ?_⟩
  · obtain ⟨home, place, h⟩ := exists_decidesByNames emptyFileSystem hpath hnull hparsed hstart
    obtain rfl := h.container_leads.unique (show LeadsTo _ _ ["home", "proj"] by decide)
    obtain rfl := h.path_leads.unique (show LeadsTo _ _ ["home", "proj", "a.md"] by decide)
    exact h.inside (by decide)
  · obtain ⟨home, place, h⟩ := exists_decidesByNames emptyFileSystem hsibling hnull hparsed hstart
    obtain rfl := h.container_leads.unique (show LeadsTo _ _ ["home", "proj"] by decide)
    obtain rfl := h.path_leads.unique (show LeadsTo _ _ ["home", "proj-old"] by decide)
    exact h.beside ["home"] "proj" "-old" [] rfl rfl (by decide)

end DocLinks
