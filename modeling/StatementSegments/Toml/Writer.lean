import StatementSegments.Toml.Quoted
import StatementSegments.Toml.Value

namespace StatementSegments.Toml

inductive Plain where
  | string (text : String)
  | natural (n : Nat)
  | boolean (b : Bool)
  deriving DecidableEq, Repr

def Plain.write : Plain → List Char
  | string text => writeString text.toList
  | natural n => Nat.toDigits 10 n
  | boolean true => ['t', 'r', 'u', 'e']
  | boolean false => ['f', 'a', 'l', 's', 'e']

structure Section where
  name : String
  entries : List (String × Plain)
  deriving DecidableEq, Repr

def writeEntry (entry : String × Plain) : List Char :=
  entry.1.toList ++ [' ', '=', ' '] ++ entry.2.write ++ ['\n']

def Section.write (s : Section) : List Char :=
  ['['] ++ s.name.toList ++ [']', '\n'] ++ s.entries.flatMap writeEntry

/-- A blank line stands between tables. -/
def writeSections (sections : List Section) : List Char :=
  ((sections.map Section.write).intersperse ['\n']).flatten

end StatementSegments.Toml
