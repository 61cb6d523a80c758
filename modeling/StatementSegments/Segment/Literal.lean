import StatementSegments.Number.Shortest
import StatementSegments.Text.Blank
import StatementSegments.Text.Caseless
import StatementSegments.Text.Escaped
import StatementSegments.Text.StringLiteral
import StatementSegments.Tree.Grammar

namespace StatementSegments

inductive Literal where
  | integer (value : Int64)
  | decimal (value : Binary64)
  | string (value : String)
  | boolean (value : Bool)
  | null
  deriving DecidableEq

namespace Literal

/-- The whole number that a number stands for; a decimal loses its fraction. -/
def toInt64? : Literal → Option Int64
  | integer value => some value
  | decimal value => value.toInt64?
  | _ => none

def isNumeric : Literal → Bool
  | integer _ | decimal _ => true
  | _ => false

def describe : Literal → String
  | integer value => s!"Integer({value.toInt})"
  | decimal value => s!"Decimal({value.render})"
  | string value => s!"String({Escaped.quoted value})"
  | boolean value => if value then "Boolean(true)" else "Boolean(false)"
  | null => "Null"

end Literal

inductive LiteralKind where
  | number
  | string
  | boolean
  | null
  deriving DecidableEq, Repr

namespace LiteralKind

def rule : LiteralKind → Rule
  | number => .numberLiterals
  | string => .stringLiterals
  | boolean => .booleanLiterals
  | null => .nullValueLiterals

/-- The kinds in the order in which they are looked for. -/
def all : List LiteralKind :=
  [number, string, boolean, null]

/-- The literal of a kind with the given text. A number is an integer of 64 bits if it can be, and
a decimal otherwise. -/
def read? (kind : LiteralKind) (text : String) : Option Literal :=
  match kind with
  | number =>
      ((Numeral.int64? text.toList).map .integer).or ((Numeral.binary64? text.toList).map .decimal)
  | string => some (.string (StringLiteral.unquote text))
  | boolean =>
      if CaselessEq text "true" then some (.boolean true)
      else if CaselessEq text "false" then some (.boolean false)
      else none
  | null => some .null

end LiteralKind

end StatementSegments
