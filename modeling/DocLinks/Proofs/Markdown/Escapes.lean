import DocLinks.Proofs.Markdown.Positions
import DocLinks.Proofs.Target
import Mathlib.Data.List.Nodup

/-!
# Links with escaped targets

A target in angle brackets may have a backslash before each of its underscores, number signs and blanks.
The link that is read is the link of the target without these backslashes (`ofTarget?_escapedLine`). It
is cut at the first number sign like any other target, also if that sign was escaped, so the path of the
link is the target exactly if the target has no number sign (`escapedLink_read`).

## Contents
- `Escapable`: the targets that the escapes are undone of.
- `escapedLine`: a line that is a link with an escaped target.
- `escapedLink_read`: the link that starts on such a line.
-/

namespace DocLinks.Markdown

open Text

/-- A target inside the project that holds no other escapes, and that can stand in angle brackets. -/
structure Escapable (target : List Char) : Prop where
  nonempty : target ≠ []
  noPercent : '%' ∉ target
  noBackslash : '\\' ∉ target
  noAngle : '>' ∉ target
  trimmed : trim target = target
  inside : Target.isExternal target = false

instance (target : List Char) : Decidable (Escapable target) :=
  decidable_of_iff (target ≠ [] ∧ '%' ∉ target ∧ '\\' ∉ target ∧ '>' ∉ target ∧
      trim target = target ∧ Target.isExternal target = false)
    ⟨fun ⟨h₁, h₂, h₃, h₄, h₅, h₆⟩ => ⟨h₁, h₂, h₃, h₄, h₅, h₆⟩,
      fun ⟨h₁, h₂, h₃, h₄, h₅, h₆⟩ => ⟨h₁, h₂, h₃, h₄, h₅, h₆⟩⟩

/-- A line that is a link with an escaped target in angle brackets. -/
def escapedLine (text target : List Char) : List Char :=
  '[' :: (text ++ ']' :: '(' :: ('<' :: Target.escape target ++ ['>', ')']))

section Line

variable {text target : List Char} (htarget : Escapable target) (htext : ']' ∉ text)

include htarget htext

/-- The whole line is read as one link. -/
theorem angle_escapedLine :
    angle (escapedLine text target)
      = some ⟨(escapedLine text target).length, text, Target.escape target⟩ := by
  have hnone : '>' ∉ Target.escape target := by
    intro hmem
    rcases Target.mem_escape hmem with heq | hmem
    · cases heq
    · exact htarget.noAngle hmem
  have hread : angleTarget? ('<' :: Target.escape target ++ ['>', ')']) = some (Target.escape target) :=
    angleTarget?_eq_some.2 ⟨Target.escape_ne_nil htarget.nonempty, hnone, [], rfl⟩
  have hlength : (escapedLine text target).length
      = text.length + (Target.escape target).length + 6 := by
    simp only [escapedLine, List.length_cons, List.length_append, List.length_nil]
    omega
  rw [hlength, angle_eq, escapedLine, inlineWith_of_open htext, hread]
  rfl

/-- The match that the line is. -/
def escapedMatch (text target : List Char) : Match :=
  ⟨0, escapedLine text target, (escapedLine text target).length, text, Target.escape target⟩

theorem escapedMatch_mem : escapedMatch text target ∈ matchesOf (escapedLine text target) := by
  have hangle := angle_escapedLine htarget htext
  have hscan : escapedMatch text target ∈ scan angle 0 (escapedLine text target) := by
    rw [escapedLine] at hangle ⊢
    rw [scan_of_some hangle, List.take_length]
    exact List.mem_cons_self ..
  exact List.mem_flatMap.2 ⟨angle, List.mem_cons_self .., hscan⟩

omit htext in
/-- Its link is that of the target as it is without escapes. -/
theorem link?_escapedMatch (n : Nat) :
    (escapedMatch text target).link? n
      = Link.ofTarget? (escapedLine text target) text target n 1 := by
  have hclean : Target.clean (trim (Target.escape target)) = target := by
    rw [Target.trim_escape htarget.trimmed, Target.clean_escape htarget.noBackslash htarget.noPercent]
  unfold Match.link? escapedMatch
  simp only [hclean]
  rfl

end Line

/-- Links of one document that stand at the same place are the same. -/
theorem eq_of_same_place {content : String} {l l' : Link} (hl : l ∈ links content)
    (hl' : l' ∈ links content) (hline : l.line = l'.line) (hcolumn : l.column = l'.column) : l = l' := by
  have hplaces : ((links content).map fun l => (l.line, l.column)).Nodup :=
    List.pairwise_map.2 ((pairwise_links content).imp And.right)
  exact List.inj_on_of_nodup_map hplaces hl hl' (Prod.ext hline hcolumn)

theorem exists_ofTarget? {target : List Char} (h : Target.isExternal target = false)
    (raw text : List Char) (line column : Int) :
    ∃ l, Link.ofTarget? raw text target line column = some l := by
  have hkind : (Target.kind? target).isSome = true := by
    unfold Target.kind?
    rw [h]
    simp only [Bool.false_eq_true, if_false]
    split
    · rfl
    · split <;> rfl
  obtain ⟨kind, hkind⟩ := Option.isSome_iff_exists.1 hkind
  unfold Link.ofTarget?
  rw [hkind]
  exact ⟨_, rfl⟩

/-- **The escapes of a target are undone**: on a line of a document that is a link with an escaped target,
the one link that starts there is the link of the target without escapes. Its path and its anchor are
those that the target is cut into, so the path is the whole target, and there is no anchor, exactly if
the target holds no number sign. -/
theorem escapedLink_read (path : String) {content : String} {i : Nat} {text target : List Char}
    (htarget : Escapable target) (htext : ']' ∉ text)
    (hline : (linesOf content)[i]? = some (escapedLine text target))
    (hvisible : (codeMarks (linesOf content))[i]? = some false) :
    ∃ l, (∀ l', l' ∈ (parseLinks path content).links ∧ l'.line = i + 1 ∧ l'.column = 1 ↔ l' = l) ∧
      Link.ofTarget? (escapedLine text target) text target (i + 1) 1 = some l ∧
      l.targetPath = .ofList (Target.path target) ∧
      l.anchor = (Target.anchor? target).map .ofList ∧
      (l.targetPath = .ofList target ∧ l.anchor = none ↔ '#' ∉ target) := by
  obtain ⟨l, hl⟩ := exists_ofTarget? htarget.inside (escapedLine text target) text (i + 1) 1
  have hmem : l ∈ links content := by
    refine mem_links_iff.2 ⟨i, _, hline, hvisible, _, escapedMatch_mem htarget htext, ?_⟩
    rw [link?_escapedMatch htarget]
    exact hl
  have hplace : l.line = i + 1 ∧ l.column = 1 := by
    obtain ⟨kind, -, rfl⟩ := Option.map_eq_some_iff.1 hl
    exact ⟨rfl, rfl⟩
  have hcut : l.targetPath = .ofList (Target.path target) ∧
      l.anchor = (Target.anchor? target).map .ofList := by
    obtain ⟨kind, -, rfl⟩ := Option.map_eq_some_iff.1 hl
    exact ⟨rfl, rfl⟩
  refine ⟨l, ?_, hl, hcut.1, hcut.2, ?_⟩
  · intro l'
    constructor
    · rintro ⟨hmem', hline', hcolumn'⟩
      exact eq_of_same_place hmem' hmem (hline'.trans hplace.1.symm) (hcolumn'.trans hplace.2.symm)
    · rintro rfl
      exact ⟨hmem, hplace⟩
  · rw [hcut.1, hcut.2]
    constructor
    · rintro ⟨hpath, -⟩
      exact Target.path_eq_self_iff.1 (String.ofList_injective hpath)
    · intro hhash
      rw [Target.path_eq_self_iff.2 hhash, Target.anchor?_of_no_hash hhash]
      exact ⟨rfl, rfl⟩

theorem escapedLink_read_oneLine :
    escapedLine "t".toList "a_b c.md".toList = "[t](<a\\_b\\ c.md>)".toList ∧
      ∃ l, (∀ l', l' ∈ (parseLinks "d.md" "[t](<a\\_b\\ c.md>)").links ∧ l'.line = 1 ∧ l'.column = 1
          ↔ l' = l) ∧
        l.targetPath = "a_b c.md" ∧ l.anchor = none := by
  have htarget : Escapable "a_b c.md".toList := by decide
  have hline : (linesOf "[t](<a\\_b\\ c.md>)")[0]? = some (escapedLine "t".toList "a_b c.md".toList) := by
    decide +kernel
  obtain ⟨l, hunique, -, -, -, hwhole⟩ := escapedLink_read "d.md" (i := 0) htarget (by decide) hline
    (by decide +kernel)
  obtain ⟨hpath, hanchor⟩ := hwhole.2 (by decide)
  exact ⟨by decide, l, hunique, hpath, hanchor⟩

/-- A number sign that was escaped cuts the target like any other. -/
theorem escapedHash_cuts_target :
    Escapable "a#b.md".toList ∧ escapedLine "t".toList "a#b.md".toList = "[t](<a\\#b.md>)".toList ∧
      (parseLinks "d.md" "[t](<a\\#b.md>)").links
        = [⟨"[t](<a\\#b.md>)", "t", "a", some "b.md", 1, 1, .internal⟩] := by
  exact ⟨by decide, by decide, by decide +kernel⟩

end DocLinks.Markdown
