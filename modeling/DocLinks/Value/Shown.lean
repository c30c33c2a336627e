import DocLinks.Value
import DocLinks.Text.Quoted
import DocLinks.Decimal.Text

/-!
# Values in messages

`Value.shown` writes a value the way an error message quotes it: text between quotes, lists in
square and mappings in curly brackets, and the words `None`, `True` and `False`. `Value.plain` is
the same without the outer quotes of a text; it also names the keys of a mapping in an answer.

Integers with very many digits are not written; `Value.isShowable` tells whether a value has none.
-/

namespace DocLinks.Value

/-- The word for a truth value. -/
def boolWord (b : Bool) : String := if b then "True" else "False"

mutual

/-- The value as a message quotes it. A reference to what surrounds it is three dots. -/
def shown : Value → String
  | null => "None"
  | bool b => boolWord b
  | int n => toString n
  | real x => Decimal.ofDouble Decimal.plain x
  | text s => Text.quoted s
  | bytes bs => Text.quotedBytes bs
  | moment m => m.shown
  | list items => "[" ++ ", ".intercalate (shownItems items) ++ "]"
  | tuple [v] => "(" ++ shown v ++ ",)"
  | tuple items => "(" ++ ", ".intercalate (shownItems items) ++ ")"
  | set [] => "set()"
  | set members => "\x7b" ++ ", ".intercalate (shownItems members) ++ "\x7d"
  | dict entries => "\x7b" ++ ", ".intercalate (shownEntries entries) ++ "\x7d"
  | shared _ _ v => shown v
  | again _ isList => if isList then "[...]" else "\x7b...\x7d"

/-- The items of a list, each as a message quotes it. -/
def shownItems : List Value → List String
  | [] => []
  | v :: rest => shown v :: shownItems rest

/-- The entries of a mapping, each as a message quotes it. -/
def shownEntries : List (Value × Value) → List String
  | [] => []
  | (k, v) :: rest => (shown k ++ ": " ++ shown v) :: shownEntries rest

end

/-- The value as plain text: a text as it is, anything else as a message quotes it. -/
def plain : Value → String
  | text s => s
  | moment m => m.text
  | v => shown v

/-- The most digits of an integer that a message shows. -/
def shownDigits : Nat := 4300

mutual

/-- Whether a message can show a value: no integer in it has too many digits. -/
def isShowable : Value → Bool
  | int n => n.natAbs < Nat.pow 10 shownDigits
  | list items | tuple items | set items => areShowable items
  | dict entries => entriesShowable entries
  | shared _ _ v => isShowable v
  | _ => true

/-- `isShowable` of all items. -/
def areShowable : List Value → Bool
  | [] => true
  | v :: rest => isShowable v && areShowable rest

/-- `isShowable` of all keys and their values. -/
def entriesShowable : List (Value × Value) → Bool
  | [] => true
  | (k, v) :: rest => isShowable k && isShowable v && entriesShowable rest

end

example : shown (.list [.text "a", .int 1, .null, .bool true]) = "['a', 1, None, True]" := by
  decide +kernel

end DocLinks.Value
