import StatementSegments.Span
import StatementSegments.Tree.Grammar

/-!
Reasons for which segments cannot be extracted. Either the tree breaks a promise of the grammar,
which is an internal error, or a clause is written in a way that no segment can express.
-/
namespace StatementSegments

inductive ExtractionError where
  | missingNode (rule : Rule) (parent : String) (start : Nat)
  | unindexedParameterMarker (start : Nat)
  | unresolvedExpression (span : Span)
  | invalidLiteral (text : String) (start : Nat)
  | ownerAlreadyBound (column : String)
  | unsupported (construct text : String) (span : Span)
  deriving DecidableEq, Repr

namespace ExtractionError

def message : ExtractionError → String
  | missingNode rule parent start =>
      s!"Internal error: required node `{rule.spelling}` not found under `{parent}` " ++
        s!"at offset {start}"
  | unindexedParameterMarker start =>
      s!"Internal error: parameter marker at offset {start} has no index"
  | unresolvedExpression span =>
      s!"Internal error: expression at {span.render} resolved to nothing"
  | invalidLiteral text start =>
      s!"Internal error: invalid literal `{text}` at offset {start}"
  | ownerAlreadyBound column =>
      s!"Internal error: owner of column `{column}` is already bound"
  | unsupported construct text span =>
      s!"Unsupported {construct}: `{text}` at {span.render}"

def isInternal : ExtractionError → Bool
  | unsupported _ _ _ => false
  | _ => true

end ExtractionError

end StatementSegments
