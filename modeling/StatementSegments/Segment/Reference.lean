import StatementSegments.Segment.Error
import StatementSegments.Text.Caseless
import StatementSegments.Text.Identifier

namespace StatementSegments

/-- A table of a statement, told by its name and where it starts. -/
structure TableRef where
  name : String
  start : Nat
  deriving DecidableEq, Repr

/-- A name behind the name that owns it. -/
def qualifiedName (owner : Option String) (name : String) : String :=
  match owner with
  | some owner => owner ++ "." ++ name
  | none => name

structure Table where
  span : Span
  name : String
  owner : Option String
  aliasName : Option String
  deriving DecidableEq, Repr

namespace Table

/-- A table from the texts it is written with. -/
def ofRaw (span : Span) (name : String) (owner aliasName : Option String) : Table where
  span := span
  name := Identifier.canonical name
  owner := owner.map Identifier.canonical
  aliasName := aliasName.map Identifier.canonical

def qualifiedName (t : Table) : String :=
  StatementSegments.qualifiedName t.owner t.name

def ref (t : Table) : TableRef :=
  ⟨t.name, t.span.start⟩

def IsAliasedAs (t : Table) (qualifier : String) : Prop :=
  ∃ aliasName, t.aliasName = some aliasName ∧ CaselessEq aliasName qualifier

instance (t : Table) (qualifier : String) : Decidable (t.IsAliasedAs qualifier) :=
  match h : t.aliasName with
  | some aliasName =>
      if hq : CaselessEq aliasName qualifier then
        isTrue ⟨aliasName, h, hq⟩
      else
        isFalse fun ⟨_, hsome, heq⟩ => hq (Option.some.inj (h.symm.trans hsome) ▸ heq)
  | none => isFalse fun ⟨_, hsome, _⟩ => nomatch h.symm.trans hsome

def IsNamed (t : Table) (qualifier : String) : Prop :=
  CaselessEq t.name qualifier

instance (t : Table) (qualifier : String) : Decidable (t.IsNamed qualifier) :=
  inferInstanceAs (Decidable (CaselessEq t.name qualifier))

end Table

structure Column where
  span : Span
  name : String
  qualifier : Option String
  owner : Option TableRef
  deriving DecidableEq, Repr

namespace Column

/-- A column from the texts it is written with; no table owns it yet. -/
def ofRaw (span : Span) (name : String) (qualifier : Option String) : Column where
  span := span
  name := Identifier.canonical name
  qualifier := qualifier.map Identifier.canonical
  owner := none

def withQualifier (c : Column) (raw : String) : Column :=
  { c with qualifier := some (Identifier.canonical raw) }

def qualifiedName (c : Column) : String :=
  StatementSegments.qualifiedName (c.owner.map TableRef.name) c.name

def bindOwner (c : Column) (owner : TableRef) : Except ExtractionError Column :=
  if c.owner.isSome then
    .error (.ownerAlreadyBound c.qualifiedName)
  else
    .ok { c with owner := some owner }

end Column

end StatementSegments
