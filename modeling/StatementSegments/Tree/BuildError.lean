import StatementSegments.Span

namespace StatementSegments

inductive BuildError where
  | offsetOutOfRange (offset length : Nat)
  | invertedRange (label : String) (start stop : Nat)
  | outsideParent (label parent : String) (span : Span)
  | siblingOverlap (label previous : String) (start previousStop : Nat)
  | noOpenNode
  | multipleRoots (label : String)
  | unbalanced (count : Nat)
  | empty
  deriving DecidableEq, Repr

namespace BuildError

def message : BuildError → String
  | offsetOutOfRange offset length =>
      s!"Offset {offset} is outside statement text of {length} characters"
  | invertedRange label start stop =>
      s!"Node `{label}` stops at {stop} before it starts at {start}"
  | outsideParent label parent span =>
      s!"Node `{label}` at {span.render} escapes its parent `{parent}`"
  | siblingOverlap label previous start previousStop =>
      s!"Node `{label}` starting at {start} does not follow sibling `{previous}` ending at {previousStop}"
  | noOpenNode => "finish_node called with no open node"
  | multipleRoots label => s!"Tree already has a root; `{label}` would be a second one"
  | unbalanced count => s!"{count} node(s) left open"
  | empty => "Tree has no root node"

end BuildError

end StatementSegments
