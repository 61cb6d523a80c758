import StatementSegments.Number.Binary64

namespace StatementSegments.Toml

/-- A table is opened by a header, implied by a header further down, made by a dotted key or
written in place. -/
inductive Origin where
  | header
  | implied
  | dotted
  | inPlace
  deriving DecidableEq, Repr

inductive Value where
  | string (text : String)
  | integer (n : Int)
  | float (x : Binary64)
  /-- What is written like a number and has no value that can be held. -/
  | unusableNumber
  | boolean (b : Bool)
  | dateTime (text : String)
  | array (items : List Value)
  | tables (items : List (List (String × Value)))
  | table (origin : Origin) (entries : List (String × Value))

abbrev Entries :=
  List (String × Value)

namespace Value

mutual

/-- All numbers within have values. -/
def isUsable : Value → Bool
  | unusableNumber => false
  | array items => areUsable items
  | tables items => tablesAreUsable items
  | table _ entries => entriesAreUsable entries
  | _ => true

def areUsable : List Value → Bool
  | [] => true
  | v :: vs => v.isUsable && areUsable vs

def entriesAreUsable : List (String × Value) → Bool
  | [] => true
  | (_, v) :: entries => v.isUsable && entriesAreUsable entries

def tablesAreUsable : List (List (String × Value)) → Bool
  | [] => true
  | entries :: rest => entriesAreUsable entries && tablesAreUsable rest

end

end Value

namespace Entries

def replace (entries : Entries) (key : String) (value : Value) : Entries :=
  entries.map fun entry => if entry.1 = key then (key, value) else entry

end Entries

end StatementSegments.Toml
