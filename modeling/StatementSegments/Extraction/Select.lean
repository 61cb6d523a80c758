import StatementSegments.Dialect
import StatementSegments.Extraction.Bound
import StatementSegments.Resolution

namespace StatementSegments.Statement

def select (dialect : Dialect) (s : Statement) : Extraction Select := do
  let root := s.tree.root
  let tables ← s.tree.tables root
  let columns ← resolveOwners (← s.tree.columns root) tables
  let top ← if dialect.usesTop then s.top? root else pure none
  let limit ← if dialect.usesLimit then s.limit? root else pure none
  Logged.log .debug <|
    s!"{dialect.displayName} statement: {tables.length} table(s), {columns.length} column(s), " ++
      s!"top: {top.isSome}, limit: {limit.isSome}"
  return ⟨top, limit, tables, columns⟩

/-- The segments of several statements, one by one; that one fails is logged with its text. -/
def selectEach (dialect : Dialect) (statements : List Statement) : List (Extraction Select) :=
  statements.map fun s =>
    (s.select dialect).reporting .warn fun error =>
      s!"Extraction failed for `{s.tree.text.content}`: {error.message}"

end StatementSegments.Statement
