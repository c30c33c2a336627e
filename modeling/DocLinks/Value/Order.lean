import DocLinks.Value.Shown

/-!
# The order of values

The members of a set are listed in increasing order: numbers by their size, texts by their
characters. Members of different kinds have no order.
-/

namespace DocLinks.Value

/-- The size of a number in multiples of the smallest positive one. What is infinite is larger than
any other number. -/
def size? : Value → Option Int
  | int n => some (n * Double.perUnit)
  | bool b => some (boolInt b * Double.perUnit)
  | real x => some (signed x.isMinus (x.units?.getD (Nat.pow 2 4000)))
  | _ => none

/-- Whether a value comes before another one of its kind, or is the same. -/
def isAtMost (v w : Value) : Bool :=
  match size? v, size? w with
  | some m, some n => m ≤ n
  | _, _ => v.plain ≤ w.plain

/-- The kinds of values, other than numbers, that have an order. -/
def orderedKinds : List String := ["str", "bytes", "date", "datetime"]

/-- Whether values can be put in order. -/
def haveOrder (vs : List Value) : Bool :=
  vs.length ≤ 1 || vs.all (fun v => (size? v).isSome) ||
    orderedKinds.any fun kind => vs.all fun v => v.typeName == kind

/-- Values in order. -/
def ordered (vs : List Value) : List Value := vs.mergeSort isAtMost

mutual

/-- Whether a value holds a set whose members have no order. -/
def hasUnordered : Value → Bool
  | list items | tuple items => anyUnordered items
  | set members => !haveOrder members
  | dict entries => anyEntryUnordered entries
  | shared _ _ v => hasUnordered v
  | _ => false

/-- `hasUnordered` of an item. -/
def anyUnordered : List Value → Bool
  | [] => false
  | v :: rest => hasUnordered v || anyUnordered rest

/-- `hasUnordered` of the value of an entry. -/
def anyEntryUnordered : List (Value × Value) → Bool
  | [] => false
  | (_, v) :: rest => hasUnordered v || anyEntryUnordered rest

end

end DocLinks.Value
