import DocLinks.Validation.Link

/-!
# Verdicts

The verdict on a link, case by case: it hangs on the kind of the link, on whether its path leads to a
file, and on whether the redirect of that path leads to one (`validateLink_of_isFile`,
`validateLink_of_redirect`, `validateLink_of_no_redirect`).
-/

namespace DocLinks

variable {t : FileTree} {root : FilePath} {table : Option RedirectTable} {source : String} {l : Link}

theorem validateLink_of_external (hkind : l.kind = .external) :
    validateLink t root table source l = .valid source l l.targetPath := by
  unfold validateLink
  rw [hkind]

theorem validateLink_of_anchorOnly (hkind : l.kind = .anchorOnly) :
    validateLink t root table source l = .valid source l source := by
  unfold validateLink
  rw [hkind]

/-- A link into the project whose path leads to a file is valid. -/
theorem validateLink_of_isFile (hkind : l.kind = .internal ∨ l.kind = .asset)
    (hfile : (resolveLink t root source l.targetPath).isFile = true) :
    validateLink t root table source l
      = .valid source l (resolveLink t root source l.targetPath).resolved := by
  unfold validateLink
  rcases hkind with hkind | hkind <;> rw [hkind] <;> simp only [hfile, if_true]

/-- A missing path that is redirected to a file has its redirect as the verdict. -/
theorem validateLink_of_redirect {destination : String} (hkind : l.kind = .internal ∨ l.kind = .asset)
    (hmissing : (resolveLink t root source l.targetPath).isFile = false)
    (hlive : liveRedirect? t root table (resolveLink t root source l.targetPath).resolved
      = some destination) :
    validateLink t root table source l
      = .redirectAvailable source l (resolveLink t root source l.targetPath).resolved destination := by
  unfold validateLink
  rcases hkind with hkind | hkind <;> rw [hkind] <;> simp only [hmissing, hlive] <;> rfl

theorem missingLink_error_ne (t : FileTree) (root : FilePath) (source : String) (l : Link) :
    notFound (resolveLink t root source l.targetPath).resolved ≠ "" := notFound_ne _

/-- The broken link that a missing path makes. -/
def missingLink (t : FileTree) (root : FilePath) (source : String) (l : Link) : BrokenLink where
  sourceFile := source
  link := l
  resolvedPath := some (resolveLink t root source l.targetPath).resolved
  error := notFound (resolveLink t root source l.targetPath).resolved
  error_ne := missingLink_error_ne t root source l

/-- A missing path that is not redirected to a file is broken. -/
theorem validateLink_of_no_redirect (hkind : l.kind = .internal ∨ l.kind = .asset)
    (hmissing : (resolveLink t root source l.targetPath).isFile = false)
    (hlive : liveRedirect? t root table (resolveLink t root source l.targetPath).resolved = none) :
    validateLink t root table source l = .broken (missingLink t root source l) := by
  unfold validateLink
  rcases hkind with hkind | hkind <;> rw [hkind] <;> simp only [hmissing, hlive] <;> rfl

/-- What makes a link valid. -/
theorem status_validateLink_eq_valid (h : (validateLink t root table source l).status = .valid) :
    l.kind = .external ∨ l.kind = .anchorOnly ∨ (l.kind = .internal ∨ l.kind = .asset) ∧
      (resolveLink t root source l.targetPath).isFile = true := by
  have hfile : l.kind = .internal ∨ l.kind = .asset →
      (resolveLink t root source l.targetPath).isFile = true := by
    intro hkind
    rcases hfile : (resolveLink t root source l.targetPath).isFile with _ | _
    · rcases hlive : liveRedirect? t root table (resolveLink t root source l.targetPath).resolved
        with _ | destination
      · rw [validateLink_of_no_redirect hkind hfile hlive] at h
        cases h
      · rw [validateLink_of_redirect hkind hfile hlive] at h
        cases h
    · rfl
  rcases hkind : l.kind with _ | _ | _ | _
  · exact .inr (.inr ⟨.inl rfl, hfile (.inl hkind)⟩)
  · exact .inl rfl
  · exact .inr (.inl rfl)
  · exact .inr (.inr ⟨.inr rfl, hfile (.inr hkind)⟩)

/-- A valid link that is looked up leads to a file. -/
theorem isFile_of_valid (hkind : l.kind = .internal ∨ l.kind = .asset)
    (hvalid : (validateLink t root table source l).status = .valid) :
    (resolveLink t root source l.targetPath).isFile = true := by
  rcases status_validateLink_eq_valid hvalid with h | h | ⟨-, h⟩
  · rcases hkind with hkind | hkind <;> rw [h] at hkind <;> cases hkind
  · rcases hkind with hkind | hkind <;> rw [h] at hkind <;> cases hkind
  · exact h

theorem exists_resolved_of_valid (h : (validateLink t root table source l).status = .valid) :
    ∃ resolved, validateLink t root table source l = .valid source l resolved := by
  rcases status_validateLink_eq_valid h with h | h | ⟨h, hfile⟩
  · exact ⟨_, validateLink_of_external h⟩
  · exact ⟨_, validateLink_of_anchorOnly h⟩
  · exact ⟨_, validateLink_of_isFile h hfile⟩

/-- **What makes a link broken**: its path leads to no file, and no redirect of the path leads to one. -/
theorem validateLink_eq_broken_iff {b : BrokenLink} :
    validateLink t root table source l = .broken b ↔
      (l.kind = .internal ∨ l.kind = .asset) ∧
        (resolveLink t root source l.targetPath).isFile = false ∧
        liveRedirect? t root table (resolveLink t root source l.targetPath).resolved = none ∧
        b = missingLink t root source l := by
  constructor
  · intro h
    have hstatus : (validateLink t root table source l).status = .broken := by rw [h]; rfl
    have hkind : l.kind = .internal ∨ l.kind = .asset := by
      rcases hkind : l.kind with _ | _ | _ | _
      · exact .inl rfl
      · rw [validateLink_of_external hkind] at hstatus
        cases hstatus
      · rw [validateLink_of_anchorOnly hkind] at hstatus
        cases hstatus
      · exact .inr rfl
    rcases hfile : (resolveLink t root source l.targetPath).isFile with _ | _
    · rcases hlive : liveRedirect? t root table (resolveLink t root source l.targetPath).resolved
        with _ | destination
      · rw [validateLink_of_no_redirect hkind hfile hlive] at h
        exact ⟨hkind, rfl, rfl, (ValidationResult.broken.inj h).symm⟩
      · rw [validateLink_of_redirect hkind hfile hlive] at h
        cases h
    · rw [validateLink_of_isFile hkind hfile] at h
      cases h
  · rintro ⟨hkind, hmissing, hlive, rfl⟩
    exact validateLink_of_no_redirect hkind hmissing hlive

end DocLinks
