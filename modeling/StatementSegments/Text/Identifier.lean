import StatementSegments.Text.Blank

namespace StatementSegments.Identifier

/-- Grave accents, square brackets, double quotes and single quotes. -/
def isQuoting (c : Char) : Bool :=
  c == '\x60' || c == '[' || c == ']' || c == '"' || c == '\''

/-- The characters without the quoting ones and without blanks around what is left. -/
def canonicalChars (cs : List Char) : List Char :=
  Blank.trimChars (cs.filter fun c => !isQuoting c)

def canonical (raw : String) : String :=
  String.ofList (canonicalChars raw.toList)

theorem toList_canonical (raw : String) :
    (canonical raw).toList = canonicalChars raw.toList := by
  simp [canonical]

end StatementSegments.Identifier
