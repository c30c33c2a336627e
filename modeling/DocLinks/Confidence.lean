import DocLinks.Fault
import DocLinks.Text.Blank
import DocLinks.Text.Case

/-!
# Confidence

How far a suggestion can be trusted, and what is done with it.

## Contents
- `Confidence`: the three tiers, with their rank.
- `Confidence.ofValue?`: the tier that a configuration value names.
- `FixAction`, `fixAction`: a suggestion is applied if its tier reaches the configured one, and is
  left for review otherwise.
-/

namespace DocLinks

open Text

/-- A tier of confidence. -/
inductive Confidence where
  | high
  | medium
  | low
  deriving DecidableEq, Repr, Inhabited

namespace Confidence

/-- The word for a tier. -/
def name : Confidence → String
  | high => "high"
  | medium => "medium"
  | low => "low"

/-- A stronger tier has a higher rank. -/
def rank : Confidence → Nat
  | high => 3
  | medium => 2
  | low => 1

/-- The tier that a word names, letter case and blanks around it aside. -/
def ofName? (s : String) : Option Confidence :=
  let word := lower (trim s.toList)
  [high, medium, low].find? fun c => word = c.name.toList

/-- The tier that a value names. -/
def ofValue (v : Value) : Except Fault Confidence :=
  match v with
  | .text s =>
    match ofName? s with
    | some c => .ok c
    | none => .error (.unknownTier v)
  | _ => .error (if v.isShowable then .unknownTier v else .unshowable)

/-- Whether a tier is at least as strong as another one. -/
def meets (c threshold : Confidence) : Bool := threshold.rank ≤ c.rank

end Confidence

/-- What is done with a suggestion. -/
inductive FixAction where
  | autoFix
  | review
  | reportOnly
  deriving DecidableEq, Repr

/-- The word for an action. -/
def FixAction.name : FixAction → String
  | autoFix => "auto_fix"
  | review => "review"
  | reportOnly => "report_only"

/-- The entry of a mapping; only mappings can be asked. -/
def Value.member? (v : Value) (key : String) : Except Fault (Option Value) :=
  match v.bare with
  | .dict d => .ok (Dict.get? d key)
  | _ => .error (.shape .noAttribute)

/-- The tier from which on suggestions are applied: the high one unless the configuration says
otherwise. -/
def autoFixThreshold (config : Value) : Except Fault Confidence := do
  let section? ← config.member? "fixes"
  let value? ← (section?.getD (.dict [])).member? "auto_fix_confidence"
  match value? with
  | none => .ok .high
  | some v => Confidence.ofValue v

/-- What is done with a suggestion of the given tier, or with a link that has none. -/
def fixAction (tier : Option Confidence) (config : Value) : Except Fault FixAction :=
  match tier with
  | none => .ok .reportOnly
  | some c => do
    let threshold ← autoFixThreshold config
    return if c.meets threshold then .autoFix else .review

end DocLinks
