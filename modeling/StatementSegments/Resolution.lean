import StatementSegments.Log
import StatementSegments.Segment.Reference

/-!
Which table owns a column. A qualifier is the alias of a table or, if no table has it as an alias,
the name of one. A column without a qualifier belongs to the only table there is.
-/
namespace StatementSegments

namespace Column

/-- The table that owns the column, if it can be told. -/
def owner? (c : Column) (tables : List Table) : Option Table :=
  match c.qualifier with
  | some qualifier =>
      (tables.find? fun t => t.IsAliasedAs qualifier).or
        (tables.find? fun t => t.IsNamed qualifier)
  | none =>
      match tables with
      | [only] => some only
      | _ => none

/-- Why no table is the owner; a statement without tables calls for no explanation. -/
def unboundReason? (c : Column) (tables : List Table) : Option String :=
  match c.qualifier with
  | some qualifier =>
      some s!"Qualifier `{qualifier}` of column `{c.name}` at {c.span.start} matches no table"
  | none =>
      if tables.isEmpty then
        none
      else
        some s!"Column `{c.name}` at {c.span.start} is ambiguous among {tables.length} tables"

/-- The column with its owner bound, or as it is if no table is its owner. -/
def resolve (tables : List Table) (c : Column) : Logged ExtractionError Column := do
  match c.owner? tables with
  | some owner => Logged.ofExcept (c.bindOwner owner.ref)
  | none =>
      if let some reason := c.unboundReason? tables then
        Logged.log .debug reason
      return c

end Column

def resolveOwners (columns : List Column) (tables : List Table) :
    Logged ExtractionError (List Column) :=
  columns.mapM (Column.resolve tables)

end StatementSegments
