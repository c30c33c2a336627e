import DocLinks.Value

/-!
# The tables of a TOML text

A TOML text builds up nested tables, and some of them are closed to later lines: a table that has a
header of its own cannot have another one, and nothing can be added to a table or a list that was
written as a value.

## Contents
- `Path`, `Closed`: the places that are closed, and how.
- `openTable?`, `setIn?`, `appendTable?`: the changes that the lines of a text make.
-/

namespace DocLinks.Toml

/-- The keys from the outermost table to a place. -/
abbrev Path := List String

/-- How a place is closed: a declared table takes no second header, and into a frozen place nothing
can be put, however deep. -/
inductive Closing where
  | declared
  | frozen
  deriving DecidableEq, Repr

/-- The places that are closed. -/
abbrev Closed := List (Path × Closing)

namespace Closed

/-- Whether a place is declared. -/
def isDeclared (c : Closed) (p : Path) : Bool := c.contains (p, .declared)

/-- Whether a place is frozen, or lies in one that is. -/
def isFrozen (c : Closed) (p : Path) : Bool :=
  List.any c fun e => e.2 == .frozen && e.1.isPrefixOf p

/-- Forgets a place and all that lies in it. -/
def forget (c : Closed) (p : Path) : Closed := List.filter (fun e => !p.isPrefixOf e.1) c

end Closed

/-- Changes the last value of a list. -/
def changeLast? (f : Value → Option Value) : List Value → Option (List Value)
  | [] => none
  | [v] => (f v).map fun v => [v]
  | v :: vs => (changeLast? f vs).map (v :: ·)

/-- Changes the table at a place. Tables that are missing on the way are made, and of a list of
tables the last one counts, if `intoLists` says so. -/
def change? (intoLists : Bool) (f : Dict → Option Dict) : Path → Dict → Option Dict
  | [], d => f d
  | k :: ks, d =>
    let put (v : Value) : Dict := Dict.put d (.text k) v
    let inTable (d : Dict) : Option Value := (change? intoLists f ks d).map Value.dict
    match Dict.get? d k with
    | none => (inTable []).map put
    | some (.dict inner) => (inTable inner).map put
    | some (.list vs) =>
      if intoLists then
        (changeLast? (fun v => v.dict?.bind inTable) vs).map fun vs => put (.list vs)
      else none
    | some _ => none

/-- Makes the table at a place, if it is not there. -/
def openTable? (p : Path) (d : Dict) : Option Dict := change? true some p d

/-- Sets a value in the table at a place; it may not be there. -/
def setIn? (intoLists : Bool) (p : Path) (key : String) (v : Value) (d : Dict) : Option Dict :=
  change? intoLists
    (fun t => if Dict.contains t key then none else some (Dict.put t (.text key) v)) p d

/-- Adds an empty table to the list of tables at a key. -/
def appendTable? (p : Path) (key : String) (d : Dict) : Option Dict :=
  change? true
    (fun t =>
      match Dict.get? t key with
      | none => some (Dict.put t (.text key) (.list [.dict []]))
      | some (.list vs) => some (Dict.put t (.text key) (.list (vs ++ [.dict []])))
      | some _ => none) p d

end DocLinks.Toml
