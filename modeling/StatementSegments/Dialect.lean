namespace StatementSegments

inductive Dialect where
  | sqlServer
  | mySql
  | postgreSql
  | oracle
  | h2
  deriving DecidableEq, Repr

namespace Dialect

def all : List Dialect :=
  [sqlServer, mySql, postgreSql, oracle, h2]

def displayName : Dialect → String
  | sqlServer => "SQLServer"
  | mySql => "MySQL"
  | postgreSql => "PostgreSQL"
  | oracle => "Oracle"
  | h2 => "H2"

def key : Dialect → String
  | sqlServer => "sqlserver"
  | mySql => "mysql"
  | postgreSql => "postgresql"
  | oracle => "oracle"
  | h2 => "h2"

def ofKey? (key : String) : Option Dialect :=
  all.find? fun d => d.key = key

theorem ofKey?_key (d : Dialect) : ofKey? d.key = some d := by
  cases d <;> decide

/-- Rows are limited by a TOP clause. -/
def usesTop : Dialect → Bool
  | sqlServer => true
  | _ => false

/-- Rows are limited by a LIMIT clause. -/
def usesLimit : Dialect → Bool
  | mySql | postgreSql | h2 => true
  | sqlServer | oracle => false

theorem usesTop_iff (d : Dialect) : d.usesTop = true ↔ d = sqlServer := by
  cases d <;> decide

theorem usesLimit_iff (d : Dialect) :
    d.usesLimit = true ↔ d = mySql ∨ d = postgreSql ∨ d = h2 := by
  cases d <;> decide

end Dialect

end StatementSegments
