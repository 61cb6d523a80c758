import StatementSegments.Log
import StatementSegments.Segment.Error
import StatementSegments.Tree.Traversal

namespace StatementSegments

abbrev Extraction :=
  Logged ExtractionError

/-- The nearest rule node made by `r`, which has to be there. -/
def Node.required (n : Node) (r : Rule) : Extraction Node := do
  match n.nearest? r with
  | some found => return found
  | none =>
      Logged.log .error
        s!"Grammar contract broken: no `{r.spelling}` under `{n.label}` at {n.span.render}"
      Logged.fail (.missingNode r n.label n.start)

/-- What a statement may hold once or several times. -/
inductive Construct where
  | top
  | limit
  | table
  | column
  | expression
  deriving DecidableEq, Repr

def Construct.rule : Construct → Rule
  | top => .top
  | limit => .limitClause
  | table => .tableName
  | column => .columnName
  | expression => .expr

/-- The segment of a construct that has to be there. -/
def Node.expected {α : Type} (n : Node) (c : Construct) (segment : Option α) : Extraction α := do
  match segment with
  | some found => return found
  | none =>
      Logged.log .error <|
        s!"Grammar contract broken: `{c.rule.spelling}` expected under `{n.label}` " ++
          s!"at {n.span.render}"
      Logged.fail (.missingNode c.rule n.label n.start)

end StatementSegments
