import DocLinks.Fix.Suggestion
import DocLinks.Proofs.Check.Verdicts

/-!
# Redirects as the validator and the suggester see them

Both look for the redirects of a path under the same spellings. The validator believes the first
spelling that is redirected, wherever that leads; the suggester goes on until a redirect leads to a
file. They agree on a broken link unless its first redirect leads nowhere and hides another one that
leads to a file (`validator_agrees_with_suggester`).

## Contents
- `IsLive`, `Shadowed`: redirects that lead to a file, and redirects that hide such a one.
- `liveRedirect?_eq_some_iff`, `redirectSuggestion_eq_none_iff`: the two look-ups.
-/

namespace DocLinks

variable {t : FileTree} {root : FilePath} {table : RedirectTable} {path destination : String}

/-- A destination that is a file of the project. -/
def IsLive (t : FileTree) (root : FilePath) (destination : String) : Prop :=
  destination ≠ "" ∧ t.hasFile root destination = true

instance (t : FileTree) (root : FilePath) (destination : String) :
    Decidable (IsLive t root destination) := inferInstanceAs (Decidable (_ ∧ _))

/-- Some spelling of a path is redirected to a file. -/
def HasLiveRedirect (t : FileTree) (root : FilePath) (table : RedirectTable) (path : String) : Prop :=
  ∃ spelling ∈ RedirectTable.variants path, ∃ destination,
    table.fromTo.get? spelling = some destination ∧ IsLive t root destination

/-- The first spelling of a path that is redirected does not lead to a file, but another one does. -/
def Shadowed (t : FileTree) (root : FilePath) (table : RedirectTable) (path : String) : Prop :=
  (∃ first, table.findTarget? path = some first ∧ ¬IsLive t root first) ∧
    HasLiveRedirect t root table path

/-! ## The two look-ups -/

theorem liveRedirect?_eq_some_iff :
    liveRedirect? t root (some table) path = some destination ↔
      table.findTarget? path = some destination ∧ IsLive t root destination := by
  unfold liveRedirect? IsLive
  simp only [Option.bind_some, Option.filter_eq_some_iff, decide_eq_true_eq, and_assoc]

/-- A path with a redirect to a file has a first redirect. -/
theorem HasLiveRedirect.exists_findTarget? (h : HasLiveRedirect t root table path) :
    ∃ first, table.findTarget? path = some first := by
  obtain ⟨spelling, hspelling, destination, hget, _⟩ := h
  refine Option.isSome_iff_exists.1 (table.isSome_findTarget? hspelling ?_)
  rw [hget]
  rfl

theorem redirectFor_eq_none_iff {s : Surroundings} {spelling : String} :
    redirectFor s table spelling = none ↔
      ∀ destination, table.fromTo.get? spelling = some destination →
        ¬IsLive s.tree s.root destination := by
  unfold redirectFor IsLive
  rcases table.fromTo.get? spelling with _ | found
  · simp
  · simp only [Option.some.injEq, forall_eq']
    split
    · rename_i hlive
      simp [hlive]
    · rename_i hdead
      simpa using hdead

/-- The suggester finds nothing if no redirect of the path leads to a file. -/
theorem redirectSuggestion_eq_none_iff {s : Surroundings} {b : BrokenLink} :
    redirectSuggestion s b = none ↔
      ∀ table, s.table = some table → ¬HasLiveRedirect s.tree s.root table b.probe := by
  unfold redirectSuggestion
  rcases s.table with _ | table
  · simp
  · simp only [List.findSome?_eq_none_iff, redirectFor_eq_none_iff, Option.some.injEq, forall_eq',
      HasLiveRedirect, not_exists, not_and]

/-! ## Agreement -/

/-- The path that a broken link asks for is the resolved one, unless that is empty. -/
theorem probe_missingLink {source : String} {link : Link}
    (hne : (resolveLink t root source link.targetPath).resolved ≠ "") :
    (missingLink t root source link).probe = (resolveLink t root source link.targetPath).resolved :=
  if_neg hne

/-- **The validator and the suggester agree** on redirects that hide nothing. A missing path whose first
redirect leads to a file is redirected and not broken; for a broken link no redirect is suggested,
unless its first redirect leads nowhere and hides another one that leads to a file. -/
theorem validator_agrees_with_suggester (s : Surroundings) (source : String) (link : Link) :
    (∀ table destination, s.table = some table →
      (link.kind = .internal ∨ link.kind = .asset) →
      (resolveLink s.tree s.root source link.targetPath).isFile = false →
      table.findTarget? (resolveLink s.tree s.root source link.targetPath).resolved
        = some destination → IsLive s.tree s.root destination →
      validateLink s.tree s.root s.table source link = .redirectAvailable source link
        (resolveLink s.tree s.root source link.targetPath).resolved destination) ∧
    ∀ b, validateLink s.tree s.root s.table source link = .broken b → b.resolvedPath ≠ some "" →
      (redirectSuggestion s b = none ↔
        ∀ table, s.table = some table → ¬Shadowed s.tree s.root table b.probe) := by
  constructor
  · intro table destination htable hkind hmissing hfound hlive
    refine validateLink_of_redirect hkind hmissing ?_
    rw [htable]
    exact liveRedirect?_eq_some_iff.2 ⟨hfound, hlive⟩
  · intro b hbroken hne
    obtain ⟨_, _, hnone, rfl⟩ := validateLink_eq_broken_iff.1 hbroken
    have hprobe := probe_missingLink fun h => hne (congrArg some h)
    rw [redirectSuggestion_eq_none_iff]
    constructor
    · intro h table htable hshadowed
      exact h table htable hshadowed.2
    · intro h table htable hlive
      obtain ⟨first, hfirst⟩ := hlive.exists_findTarget?
      refine h table htable ⟨⟨first, hfirst, fun hfile => ?_⟩, hlive⟩
      -- The first redirect would have been available to the validator.
      rw [hprobe] at hfirst
      have hsome := liveRedirect?_eq_some_iff.2 ⟨hfirst, hfile⟩
      rw [← htable, hnone] at hsome
      cases hsome

/-- A project at `/p` with a page `new.md` and the redirects of a configuration. -/
def redirectSurroundings (configuration : String) : Surroundings where
  tree :=
    { nodes := [(["p"], .folder), (["p", "a.md"], .file (.text "")), (["p", "new.md"], .file (.text ""))]
      cwd := ["p"]
      home := [] }
  root := .ofString "/p"
  table := some (.ofText configuration none)
  index := FileIndex.ofFiles ["a.md", "new.md"]

/-- A link to a path. -/
def linkTo (target : String) : Link := ⟨"", "", target, none, 1, 1, .internal⟩

/-- One link whose redirect leads to a file, and one whose redirect does not. -/
theorem validator_agrees_with_suggester_twoRedirects :
    let s := redirectSurroundings "redirects:\n  old: new.md\n  gone: dead.md\n"
    validateLink s.tree s.root s.table "a.md" (linkTo "old.md")
        = .redirectAvailable "a.md" (linkTo "old.md") "old.md" "new.md" ∧
      ∃ b, validateLink s.tree s.root s.table "a.md" (linkTo "gone.md") = .broken b ∧
        redirectSuggestion s b = none := by
  intro s
  constructor
  · have hresolved : (resolveLink s.tree s.root "a.md" "old.md").resolved = "old.md" := by decide +kernel
    have havailable := (validator_agrees_with_suggester s "a.md" (linkTo "old.md")).1 _ "new.md" rfl
      (.inl rfl) (by decide +kernel) (by decide +kernel) (by decide +kernel)
    exact havailable.trans (by rw [show (linkTo "old.md").targetPath = "old.md" from rfl, hresolved])
  · let b : BrokenLink := missingLink s.tree s.root "a.md" (linkTo "gone.md")
    have hbroken : validateLink s.tree s.root s.table "a.md" (linkTo "gone.md") = .broken b := by
      decide +kernel
    refine ⟨b, hbroken, ?_⟩
    refine ((validator_agrees_with_suggester s "a.md" (linkTo "gone.md")).2 b hbroken
      (by decide +kernel)).2 fun table htable hshadowed => ?_
    obtain ⟨_, spelling, hspelling, destination, hget, hlive⟩ := hshadowed
    have hdead : ∀ spelling ∈ RedirectTable.variants b.probe, ∀ destination ∈ s.table.bind fun table =>
        table.fromTo.get? spelling, ¬IsLive s.tree s.root destination := by decide +kernel
    exact hdead spelling hspelling destination (by rw [htable]; exact hget) hlive

/-- The two disagree where the first redirect leads nowhere and hides another one, and where the
resolved path is empty, so that the suggester looks for the target as it is written. -/
theorem redirect_hidden_from_validator :
    let s := redirectSurroundings "redirects:\n  old.md: dead.md\n  old: new.md\n  /: new.md\n"
    (∃ b, validateLink s.tree s.root s.table "a.md" (linkTo "old.md") = .broken b ∧
      (redirectSuggestion s b).map (·.suggestedPath) = some "new.md") ∧
      ∃ b, validateLink s.tree s.root s.table "a.md" (linkTo "/") = .broken b ∧
        b.resolvedPath = some "" ∧ (redirectSuggestion s b).map (·.suggestedPath) = some "new.md" := by
  intro s
  exact ⟨⟨missingLink s.tree s.root "a.md" (linkTo "old.md"), by decide +kernel, by decide +kernel⟩,
    ⟨missingLink s.tree s.root "a.md" (linkTo "/"), by decide +kernel, by decide +kernel,
      by decide +kernel⟩⟩

end DocLinks
