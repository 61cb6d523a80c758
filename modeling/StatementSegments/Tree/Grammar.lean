namespace StatementSegments

/-- What segments are found by: rules of the grammar and one type of token. -/
inductive Rule where
  | top
  | expr
  | aliasName
  | parameterMarker
  | literals
  | numberLiterals
  | stringLiterals
  | booleanLiterals
  | nullValueLiterals
  | columnName
  | tableName
  | owner
  | name
  | limitClause
  | limitOffset
  | limitRowCount
  | percentKeyword
  deriving DecidableEq, Repr

namespace Rule

def spelling : Rule → String
  | top => "top"
  | expr => "expr"
  | aliasName => "alias"
  | parameterMarker => "parameterMarker"
  | literals => "literals"
  | numberLiterals => "numberLiterals"
  | stringLiterals => "stringLiterals"
  | booleanLiterals => "booleanLiterals"
  | nullValueLiterals => "nullValueLiterals"
  | columnName => "columnName"
  | tableName => "tableName"
  | owner => "owner"
  | name => "name"
  | limitClause => "limitClause"
  | limitOffset => "limitOffset"
  | limitRowCount => "limitRowCount"
  | percentKeyword => "PERCENT"

def all : List Rule :=
  [top, expr, aliasName, parameterMarker, literals, numberLiterals, stringLiterals,
    booleanLiterals, nullValueLiterals, columnName, tableName, owner, name, limitClause,
    limitOffset, limitRowCount, percentKeyword]

theorem mem_all (r : Rule) : r ∈ all := by
  cases r <;> decide

def ofSpelling? (spelling : String) : Option Rule :=
  all.find? fun r => r.spelling = spelling

end Rule

end StatementSegments
