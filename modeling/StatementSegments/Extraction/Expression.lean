import StatementSegments.Extraction.Reference
import StatementSegments.Segment.Expression
import StatementSegments.Statement

namespace StatementSegments.Statement

def markerIndex (s : Statement) (marker : Node) : Extraction Nat := do
  match s.markers.number? marker.id with
  | some index => return index
  | none =>
      Logged.log .error
        s!"Parameter marker at {marker.span.render} is missing from the marker index"
      Logged.fail (.unindexedParameterMarker marker.start)

/-- The first kind of literal that a node solely consists of, and the node of the literal. -/
def literalNode? (n : Node) : Option (LiteralKind × Node) :=
  LiteralKind.all.findSome? fun kind => (n.solely? kind.rule).map (kind, ·)

/-- The literal of a kind that a node holds, less the blanks around it. -/
def literalAt (s : Statement) (kind : LiteralKind) (n : Node) : Extraction Literal :=
  let text := Blank.trim (s.tree.textOf n)
  match kind.read? text with
  | some value => return value
  | none => Logged.fail (.invalidLiteral text n.start)

def expression? (s : Statement) (n : Node) : Extraction (Option Expression) := do
  if !n.isToken && n.children.isEmpty then
    return none
  if let some marker := n.solely? .parameterMarker then
    return some (.parameter n.span (← s.markerIndex marker))
  if let some (kind, node) := literalNode? n then
    return some (.literal n.span (← s.literalAt kind node))
  if let some column := n.solely? .columnName then
    return (← s.tree.column? column).map .column
  return some (.complex n.span (s.tree.textOf n))

def expression (s : Statement) (n : Node) : Extraction Expression := do
  match ← s.expression? n with
  | some e => return e
  | none =>
      Logged.log .error s!"Expression `{n.label}` at {n.span.render} resolved to nothing"
      Logged.fail (.unresolvedExpression n.span)

end StatementSegments.Statement
