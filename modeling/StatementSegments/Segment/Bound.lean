import StatementSegments.Segment.Expression

namespace StatementSegments

inductive BoundSource where
  | literal (value : Int64)
  | parameter (index : Nat)
  deriving DecidableEq

namespace BoundSource

def literal? : BoundSource → Option Int64
  | literal value => some value
  | parameter _ => none

def parameter? : BoundSource → Option Nat
  | literal _ => none
  | parameter index => some index

def describe : BoundSource → String
  | literal value => s!"Literal({value.toInt})"
  | parameter index => s!"Parameter({index})"

end BoundSource

/-- A bound is a row count, or a part of all rows in percent. -/
structure Bound where
  source : BoundSource
  percent : Bool
  deriving DecidableEq

namespace Bound

def ofLiteral (value : Int64) : Bound :=
  ⟨.literal value, false⟩

def ofParameter (index : Nat) : Bound :=
  ⟨.parameter index, false⟩

def withPercent (b : Bound) (percent : Bool) : Bound :=
  { b with percent }

/-- A parameter or a number that is an integer of 64 bits; no other expression can bound rows. -/
def ofExpression (construct : String) (e : Expression) : Except ExtractionError Bound :=
  match e with
  | .parameter _ index => .ok (ofParameter index)
  | .literal span value =>
      match value.toInt64? with
      | some n => .ok (ofLiteral n)
      | none => .error (.unsupported construct e.describe span)
  | .column column => .error (.unsupported construct e.describe column.span)
  | .complex span _ => .error (.unsupported construct e.describe span)

end Bound

/-- A bound and where its value is written. -/
structure BoundSegment where
  span : Span
  bound : Bound
  deriving DecidableEq

/-- A TOP clause, with the span of its value and the alias of the row number column. -/
structure Top where
  span : Span
  bound : Bound
  rowNumberAlias : String
  deriving DecidableEq

structure Limit where
  span : Span
  offset : Option BoundSegment
  rowCount : Option BoundSegment
  deriving DecidableEq

/-- What is extracted from a select statement. -/
structure Select where
  top : Option Top
  limit : Option Limit
  tables : List Table
  columns : List Column
  deriving DecidableEq

end StatementSegments
