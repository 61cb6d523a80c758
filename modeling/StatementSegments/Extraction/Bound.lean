import StatementSegments.Extraction.Expression
import StatementSegments.Segment.Bound

namespace StatementSegments.Statement

def boundAt (s : Statement) (construct : String) (value : Node) : Extraction BoundSegment := do
  let e ← s.expression value
  let bound ← (Logged.ofExcept (Bound.ofExpression construct e)).reporting .warn ExtractionError.message
  return ⟨e.span, bound⟩

/-- The node that holds a TOP clause. -/
def scopeOf (s : Statement) (clause : Node) : Extraction Node := do
  match s.tree.parent? clause.id with
  | some scope => return scope
  | none =>
      Logged.log .error s!"TOP clause at {clause.span.render} has no enclosing scope"
      Logged.fail (.missingNode .aliasName clause.label clause.start)

/-- The nearest TOP clause. Its row number alias is the nearest alias under the node around it. -/
def top? (s : Statement) (n : Node) : Extraction (Option Top) := do
  match n.nearest? .top with
  | none =>
      Logged.log .trace s!"No TOP clause under `{n.label}` at {n.span.render}"
      return none
  | some clause =>
      let value ← s.boundAt "TOP expression" (← clause.required .expr)
      let bound := value.bound.withPercent (clause.childToken? .percentKeyword).isSome
      let aliasNode ← (← s.scopeOf clause).required .aliasName
      let rowNumberAlias := s.tree.textOf aliasNode
      Logged.log .debug <|
        s!"Extracted TOP {bound.source.describe} at {value.span.render} " ++
          s!"with row number alias `{rowNumberAlias}`"
      return some ⟨value.span, bound, rowNumberAlias⟩

def top (s : Statement) (n : Node) : Extraction Top := do
  n.expected .top (← s.top? n)

/-- The nearest LIMIT clause, with an offset, a row count, both or none of them. -/
def limit? (s : Statement) (n : Node) : Extraction (Option Limit) := do
  match n.nearest? .limitClause with
  | none =>
      Logged.log .trace s!"No LIMIT clause under `{n.label}` at {n.span.render}"
      return none
  | some clause =>
      let offset ← (clause.nearest? .limitOffset).mapM (s.boundAt "LIMIT offset")
      let rowCount ← (clause.nearest? .limitRowCount).mapM (s.boundAt "LIMIT row count")
      return some ⟨clause.span, offset, rowCount⟩

def limit (s : Statement) (n : Node) : Extraction Limit := do
  n.expected .limit (← s.limit? n)

end StatementSegments.Statement
