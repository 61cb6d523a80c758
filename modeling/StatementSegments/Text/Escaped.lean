import StatementSegments.Text.GraphemeExtend
import StatementSegments.Text.Printable

namespace StatementSegments.Escaped

/-- Letters that are never drawn. -/
def isFiller (c : Char) : Bool :=
  c == '\u115f' || c == '\u1160' || c == '\u3164' || c == '\uffa0'

/-- Sound marks that extend the character before them, but are drawn in a cell of their own. -/
def isHalfwidthMark (c : Char) : Bool :=
  c == '\uff9e' || c == '\uff9f'

/-- A character that is seen, and seen apart from the one before it. -/
def isDistinct (c : Char) : Bool :=
  Printable.isPrintable c && !isFiller c && (!GraphemeExtend.isExtending c || isHalfwidthMark c)

/-- The code point in hexadecimal between braces. -/
def codePoint (c : Char) : List Char :=
  ['\\', 'u', '\x7b'] ++ Nat.toDigits 16 c.toNat ++ ['\x7d']

def escape (c : Char) : List Char :=
  match c with
  | '\x00' => ['\\', '0']
  | '\t' => ['\\', 't']
  | '\r' => ['\\', 'r']
  | '\n' => ['\\', 'n']
  | '\\' => ['\\', '\\']
  | '"' => ['\\', '"']
  | _ => if isDistinct c then [c] else codePoint c

/-- A text between double quotes on one line. -/
def quoted (s : String) : String :=
  String.ofList (['"'] ++ s.toList.flatMap escape ++ ['"'])

end StatementSegments.Escaped
