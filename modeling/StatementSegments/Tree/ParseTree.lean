import StatementSegments.Text.Escaped
import StatementSegments.Text.Statement
import StatementSegments.Tree.Node

namespace StatementSegments

structure ParseTree where
  text : StatementText
  root : Node

namespace ParseTree

/-- All nodes, each before the nodes below it. -/
def nodes (tree : ParseTree) : List Node :=
  tree.root.nodes

def size (tree : ParseTree) : Nat :=
  tree.nodes.length

def node? (tree : ParseTree) (id : Nat) : Option Node :=
  tree.nodes.find? fun n => n.id == id

/-- The node among whose children the one numbered `id` is. -/
def parent? (tree : ParseTree) (id : Nat) : Option Node :=
  tree.nodes.find? fun n => n.children.any fun child => child.id == id

/-- The part of the text that a node covers. -/
def textOf (tree : ParseTree) (n : Node) : String :=
  (tree.text.slice? n.span).getD ""

/-- Label, span and text of a node on one line. -/
def describe (tree : ParseTree) (n : Node) : String :=
  n.label ++ n.span.render ++ " " ++ Escaped.quoted (tree.textOf n)

end ParseTree

end StatementSegments
