import StatementSegments.Segment.Literal
import StatementSegments.Segment.Reference

namespace StatementSegments

inductive Expression where
  | literal (span : Span) (value : Literal)
  | parameter (span : Span) (index : Nat)
  | column (c : Column)
  | complex (span : Span) (text : String)

namespace Expression

def span : Expression → Span
  | literal span _ => span
  | parameter span _ => span
  | column c => c.span
  | complex span _ => span

def describe : Expression → String
  | literal _ value => value.describe
  | parameter _ index => s!"?{index}"
  | column c => c.qualifiedName
  | complex _ text => text

end Expression

end StatementSegments
