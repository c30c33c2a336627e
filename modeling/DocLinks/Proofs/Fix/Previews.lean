import DocLinks.Proofs.Fix.Lines
import DocLinks.Proofs.Fix.PlainTargets

/-!
# Previews

A preview shows a link before and after a fix, without its line and without a document. On a line whose
only closing brackets belong to the link, the fix does just what the preview shows
(`previewFix_showsFix`), whatever the target looks like: a target that holds `](`, parentheses or angle
brackets is found where it starts and nowhere else.

## Contents
- `replaceOccurrences_link`: replacing the one link of a line.
- `previewFix_of_newTarget?`: a preview is made with the target that the fix writes.
- `previewFix_showsFix`: the line after the fix is the one that is previewed.
-/

namespace DocLinks

variable {target replacement front back : List Char}

/-! ## The only link of a line -/

/-- In a text without closing brackets there is nothing to replace. -/
theorem replaceOccurrences_append_of_no_bracket (hfront : ']' ∉ front) (tail : List Char) :
    replaceOccurrences target replacement (front ++ tail)
      = (front ++ (replaceOccurrences target replacement tail).1,
        (replaceOccurrences target replacement tail).2) := by
  refine replaceOccurrences_of_noOpening (fun hopening => ?_) tail fun hjoin => ?_
  · exact hfront (hopening.sublist.mem (List.mem_cons_self ..))
  · exact hfront (List.mem_of_getLast? hjoin.1)

theorem replaceOccurrences_of_no_bracket (hfront : ']' ∉ front) :
    replaceOccurrences target replacement front = (front, false) := by
  rw [← List.append_nil front, replaceOccurrences_append_of_no_bracket hfront]
  rfl

/-- **The only link of a line** is replaced and the rest of the line stays. The target itself may hold
closing brackets: its link is read from the first one of the line, and in one way only. -/
theorem replaceOccurrences_link (hfront : ']' ∉ front) (hback : ']' ∉ back) :
    replaceOccurrences target replacement (front ++ ']' :: '(' :: (target ++ ')' :: back))
      = (front ++ replacement ++ back, true) := by
  have hhead : occurrence? target (']' :: '(' :: (target ++ ')' :: back)) = some back :=
    behindTarget?_self target back
  rw [replaceOccurrences_append_of_no_bracket hfront, replaceOccurrences_cons, hhead]
  simp only [replaceOccurrences_of_no_bracket hback, List.append_assoc]

theorem toList_linkText (display target : String) :
    (linkText display target).toList
      = '[' :: display.toList ++ ']' :: '(' :: (target.toList ++ [')']) := by
  simp [linkText]

/-- A link is replaced on a line that has no closing bracket beside it. -/
theorem replaceLink_linkText {l : Link} {newTarget : String} (hdisplay : ']' ∉ l.displayText.toList)
    (hfront : ']' ∉ front) (hback : ']' ∉ back) :
    replaceLink (front ++ (linkText l.displayText (l.withAnchor l.targetPath)).toList ++ back) l
        newTarget.toList
      = some (front ++ (linkText l.displayText newTarget).toList ++ back) := by
  have hbefore : ']' ∉ front ++ '[' :: l.displayText.toList := by
    simp [hfront, hdisplay]
  have hlink : replaceOccurrences l.writtenTarget (']' :: '(' :: newTarget.toList ++ [')'])
      (front ++ '[' :: l.displayText.toList ++ ']' :: '(' :: (l.writtenTarget ++ ')' :: back))
      = (front ++ '[' :: l.displayText.toList ++ (']' :: '(' :: newTarget.toList ++ [')']) ++ back,
        true) := replaceOccurrences_link hbefore hback
  rw [replaceLink_eq_some]
  simpa [toList_linkText, Link.writtenTarget] using hlink

/-! ## Previews -/

variable {cwd : List String} {b : BrokenLink} {s : FixSuggestion}

/-- A preview is made with the target that the fix writes. -/
theorem previewFix_of_newTarget? {newTarget : String} (h : newTarget? cwd b s = some newTarget) :
    ∃ relative, previewFix cwd b s = .ok
      { oldLine := linkText b.link.displayText (b.link.withAnchor b.link.targetPath)
        newLine := linkText b.link.displayText newTarget
        newRelativePath := relative } := by
  obtain ⟨relative, hrelative, rfl⟩ := Option.map_eq_some_iff.1 h
  exact ⟨relative, by unfold previewFix; rw [hrelative]⟩

/-- **A preview shows what the fix does.** On a line that has no closing bracket beside those of the
link, the link as it is previewed is replaced by the new link as it is previewed, with the target that is
written when fixes are applied; and a document that has the line on the recorded place has the new line
there after the fix, and is the same elsewhere. -/
theorem previewFix_showsFix (cwd : List String) (b : BrokenLink) (s : FixSuggestion)
    (hdisplay : ']' ∉ b.link.displayText.toList) (hpath : s.suggestedPath ≠ "") :
    ∃ preview newTarget, previewFix cwd b s = .ok preview ∧ newTarget? cwd b s = some newTarget ∧
      ∀ before after : List Char, ']' ∉ before → ']' ∉ after →
        replaceLink (before ++ preview.oldLine.toList ++ after) b.link newTarget.toList
            = some (before ++ preview.newLine.toList ++ after) ∧
          ∀ (lines : Lines) (i : Nat), b.link.line = i + 1 →
            lines[i]? = some (before ++ preview.oldLine.toList ++ after) →
            fixLine cwd lines ⟨b, s⟩
              = .ok (lines.set i (before ++ preview.newLine.toList ++ after), none) := by
  obtain ⟨newTarget, htarget⟩ : ∃ newTarget, newTarget? cwd b s = some newTarget :=
    newTarget?_isSome (f := ⟨b, s⟩) cwd hpath
  obtain ⟨relative, hpreview⟩ := previewFix_of_newTarget? htarget
  refine ⟨_, newTarget, hpreview, htarget, fun before after hbefore hafter => ?_⟩
  refine ⟨replaceLink_linkText hdisplay hbefore hafter, fun lines i hnumber hline => ?_⟩
  exact fixLine_of_replaceLink hnumber hline htarget (replaceLink_linkText hdisplay hbefore hafter)

/-- A link whose target holds brackets, parentheses and angle brackets. -/
def bracketedLink : BrokenLink where
  sourceFile := "docs/a.md"
  link :=
    { raw := "[t](<.*](b)>#[^c]+>)"
      displayText := "t"
      targetPath := "<.*](b)>"
      anchor := some "[^c]+>"
      line := 2
      column := 3
      kind := .internal }
  resolvedPath := some "docs/<.*](b)>"
  error := notFound "docs/<.*](b)>"
  error_ne := notFound_ne _

theorem previewFix_showsFix_bracketedLink :
    fixLine ["p"] ["# T".toList, "> [t](<.*](b)>#[^c]+>), (b)>)".toList, []]
        ⟨bracketedLink, ⟨.high, "new.md", "moved", none⟩⟩
      = .ok (["# T".toList, "> [t](../new.md#[^c]+>), (b)>)".toList, []], none) := by
  obtain ⟨preview, newTarget, hpreview, htarget, hshown⟩ := previewFix_showsFix ["p"] bracketedLink
    ⟨.high, "new.md", "moved", none⟩ (by decide) (by decide)
  obtain rfl : _ = preview := Except.ok.inj hpreview
  obtain ⟨-, hlines⟩ := hshown "> ".toList ", (b)>)".toList (by decide) (by decide)
  exact hlines ["# T".toList, "> [t](<.*](b)>#[^c]+>), (b)>)".toList, []] 1 rfl (by decide +kernel)

end DocLinks
