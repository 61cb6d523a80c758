import StatementSegments.Toml.Value

/-!
Documents of TOML as tables. Headers open tables and assignments fill them; each table is opened
once, each key is given once, and what a header opened or was written in place cannot be extended
by dotted keys.
-/
namespace StatementSegments.Toml

/-- Names of tables within tables, and a name in the innermost one. -/
structure KeyPath where
  parents : List String
  name : String
  deriving DecidableEq, Repr

def KeyPath.toList (path : KeyPath) : List String :=
  path.parents ++ [path.name]

inductive Entry where
  | header (path : KeyPath)
  | arrayHeader (path : KeyPath)
  | assign (path : KeyPath) (value : Value)

structure Table where
  origin : Origin
  entries : Entries

namespace Table

def empty (origin : Origin) : Table :=
  ⟨origin, []⟩

def toValue (t : Table) : Value :=
  .table t.origin t.entries

def add (t : Table) (key : String) (value : Value) : Table :=
  { t with entries := t.entries ++ [(key, value)] }

def replace (t : Table) (key : String) (value : Value) : Table :=
  { t with entries := t.entries.replace key value }

/-- Steps of a dotted key lead through tables that only dotted keys or headers further down made;
no step leads into a table written in place. -/
def canEnter (dotted : Bool) (origin : Origin) : Bool :=
  match origin with
  | .inPlace => false
  | .header => !dotted
  | .implied | .dotted => true

/-- Change the table at the end of a path; tables that are missing on the way are made. In an
array of tables the path leads through the last one. -/
def modifyAt (dotted : Bool) (change : Table → Option Table) : List String → Table → Option Table
  | [], t => change t
  | key :: path, t =>
      match t.entries.lookup key with
      | none => do
          let inner ← modifyAt dotted change path (empty (if dotted then .dotted else .implied))
          return t.add key inner.toValue
      | some (.table origin entries) => do
          guard (canEnter dotted origin)
          let inner ← modifyAt dotted change path ⟨origin, entries⟩
          return t.replace key inner.toValue
      | some (.tables items) => do
          let inner ← modifyAt dotted change path ⟨.header, ← items.getLast?⟩
          return t.replace key (.tables (items.dropLast ++ [inner.entries]))
      | some _ => none

def openTable (name : String) (t : Table) : Option Table :=
  match t.entries.lookup name with
  | none => some (t.add name (empty .header).toValue)
  | some (.table .implied entries) => some (t.replace name (.table .header entries))
  | some _ => none

/-- Open one more table in the array that a header names. -/
def openItem (name : String) (t : Table) : Option Table :=
  match t.entries.lookup name with
  | none => some (t.add name (.tables [[]]))
  | some (.tables items) => some (t.replace name (.tables (items ++ [[]])))
  | some _ => none

/-- Give a key its value. A dotted key ends in a table that dotted keys made. -/
def assignHere (dotted : Bool) (name : String) (value : Value) (t : Table) : Option Table :=
  if dotted = (t.origin == .dotted) ∧ (t.entries.lookup name).isNone then
    some (t.add name value)
  else
    none

def assign (path : KeyPath) (value : Value) (t : Table) : Option Table :=
  modifyAt true (assignHere (!path.parents.isEmpty) path.name value) path.parents t

end Table

/-- What was read of a document: its tables, and the path of the one that is filled now. -/
structure Document where
  root : Table
  current : List String

namespace Document

def empty : Document :=
  ⟨Table.empty .header, []⟩

def enter (d : Document) : Entry → Option Document
  | .header path => do
      let root ← d.root.modifyAt false (Table.openTable path.name) path.parents
      return ⟨root, path.toList⟩
  | .arrayHeader path => do
      let root ← d.root.modifyAt false (Table.openItem path.name) path.parents
      return ⟨root, path.toList⟩
  | .assign path value => do
      let root ← d.root.modifyAt false (Table.assign path value) d.current
      return { d with root }

def ofEntries (entries : List Entry) : Option Document :=
  entries.foldlM enter empty

end Document

def tableInPlace (assignments : List (KeyPath × Value)) : Option Value :=
  (assignments.foldlM (fun t a => Table.assign a.1 a.2 t) (Table.empty .inPlace)).map Table.toValue

end StatementSegments.Toml
