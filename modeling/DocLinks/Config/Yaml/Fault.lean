import DocLinks.Moment
import DocLinks.Text.Utf8

/-!
# What is wrong with a YAML text

## Contents
- `ScalarFault`: a scalar has no value of its type.
- `Fault`: a text has no value.
-/

namespace DocLinks.Yaml

/-- Why a scalar has no value of its type. -/
inductive ScalarFault where
  | badInt (base : Nat) (text : String)
  | badFloat (text : String)
  | tooManyDigits (count : Nat)
  /-- A place of a sexagesimal number is worth more than any floating-point number. -/
  | tooLarge
  | noBool
  | noNumber
  | noMoment
  /-- A mapping that has a text as its usual value is no moment. -/
  | noText
  | outOfRange (fault : MomentFault)
  deriving DecidableEq, Repr

/-- Why a text has no value. -/
inductive Fault where
  | malformed
  /-- The file holds bytes that are no text. -/
  | undecodable (f : Text.DecodeFault)
  /-- No character has the number that an escape gives. -/
  | noCharacter
  /-- The number that an escape gives is beyond 31 bits. -/
  | hugeCharacter
  /-- Lists and mappings are nested too deep. -/
  | tooDeep
  | scalar (f : ScalarFault)
  deriving DecidableEq, Repr

/-- What a part of a text amounts to, or why it amounts to nothing. -/
abbrev Scan := Except Fault

/-- The result of a step that can only fail for being malformed. -/
def require {α : Type} : Option α → Scan α
  | some a => .ok a
  | none => .error .malformed

instance : MonadLift Option Scan := ⟨require⟩

end DocLinks.Yaml
