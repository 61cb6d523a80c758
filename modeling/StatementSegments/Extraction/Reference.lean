import StatementSegments.Extraction.Lookup
import StatementSegments.Segment.Reference
import StatementSegments.Tree.ParseTree

namespace StatementSegments.ParseTree

/-- The column of a node; its qualifier is the owner written before the name. -/
def columnAt (tree : ParseTree) (n : Node) : Extraction Column := do
  let name ← n.required .name
  return .ofRaw n.span (tree.textOf name) ((n.childRule? .owner).map tree.textOf)

def column? (tree : ParseTree) (n : Node) : Extraction (Option Column) :=
  (n.nearest? .columnName).mapM tree.columnAt

def column (tree : ParseTree) (n : Node) : Extraction Column := do
  n.expected .column (← tree.column? n)

/-- Every column, in the order of the text. -/
def columns (tree : ParseTree) (n : Node) : Extraction (List Column) :=
  (n.allOf .columnName).mapM tree.columnAt

/-- The alias that stands beside a node. -/
def aliasBeside? (tree : ParseTree) (n : Node) : Option Node :=
  (tree.parent? n.id).bind fun scope => scope.childRule? .aliasName

/-- The table of a node, with the owner written before its name and the alias beside it. -/
def tableAt (tree : ParseTree) (n : Node) : Extraction Table := do
  let name ← n.required .name
  return .ofRaw n.span (tree.textOf name) ((n.childRule? .owner).map tree.textOf)
    ((tree.aliasBeside? n).map tree.textOf)

def table? (tree : ParseTree) (n : Node) : Extraction (Option Table) :=
  (n.nearest? .tableName).mapM tree.tableAt

def table (tree : ParseTree) (n : Node) : Extraction Table := do
  n.expected .table (← tree.table? n)

/-- Every table, in the order of the text. -/
def tables (tree : ParseTree) (n : Node) : Extraction (List Table) :=
  (n.allOf .tableName).mapM tree.tableAt

end StatementSegments.ParseTree
