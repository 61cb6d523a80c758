import StatementSegments.Log
import StatementSegments.Tree.MarkerNumbering
import StatementSegments.Tree.ParseTree

namespace StatementSegments

structure Statement where
  tree : ParseTree
  markers : MarkerNumbering

namespace Statement

/-- A statement whose markers are numbered in the order of the text. -/
def ofTree {ε : Type} (tree : ParseTree) : Logged ε Statement := do
  let markers := MarkerNumbering.ofNode tree.root
  Logged.log .trace s!"Indexed {markers.size} parameter marker(s)"
  return ⟨tree, markers⟩

end Statement

end StatementSegments
