import StatementSegments.Toml.Document
import StatementSegments.Toml.Quoted
import StatementSegments.Toml.Scalar

namespace StatementSegments.Toml

abbrev Reader (α : Type) :=
  List Char → Option (α × List Char)

def skipSpaces (cs : List Char) : List Char :=
  cs.dropWhile isSpace

/-- The text after the end of a line, before which only spaces and a comment may stand. -/
def readLineEnd (inComment : Bool) : List Char → Option (List Char)
  | [] => some []
  | '\n' :: cs => some cs
  | '\r' :: '\n' :: cs => some cs
  | c :: cs =>
      if inComment then
        if isText c then readLineEnd true cs else none
      else if isSpace c then readLineEnd false cs
      else if c = '#' then readLineEnd true cs
      else none

/-- The text after spaces, line ends and comments. -/
def skipLines (inComment : Bool) : List Char → Option (List Char)
  | [] => some []
  | '\n' :: cs => skipLines false cs
  | '\r' :: '\n' :: cs => skipLines false cs
  | c :: cs =>
      if inComment then
        if isText c then skipLines true cs else none
      else if isSpace c then skipLines false cs
      else if c = '#' then skipLines true cs
      else some (c :: cs)

/-! ### Keys -/

def isBareKeyChar (c : Char) : Bool :=
  c.isAlphanum || c == '_' || c == '-'

def readKey : Reader String
  | cs =>
      match cs.span isBareKeyChar with
      | ([], _) => (readLineString cs).map fun (text, rest) => (String.ofList text, rest)
      | (text, rest) => some (String.ofList text, rest)

/-- Keys with dots between them, at most `bound` of them. -/
def readPath : (bound : Nat) → Reader KeyPath
  | 0, _ => none
  | bound + 1, cs => do
      let (key, rest) ← readKey cs
      match skipSpaces rest with
      | '.' :: rest =>
          let (path, rest) ← readPath bound (skipSpaces rest)
          return ({ path with parents := key :: path.parents }, rest)
      | rest => return (⟨[], key⟩, rest)

/-- Keys with dots between them; a path has at most eighty. -/
def readKeyPath : Reader KeyPath :=
  readPath 80

/-! ### Values -/

def readItems (item : Reader Value) : (bound : Nat) → Reader (List Value)
  | 0, _ => none
  | bound + 1, cs => do
      match ← skipLines false cs with
      | ']' :: rest => return ([], rest)
      | start =>
          let (v, rest) ← item start
          match ← skipLines false rest with
          | ',' :: rest =>
              let (vs, rest) ← readItems item bound rest
              return (v :: vs, rest)
          | ']' :: rest => return ([v], rest)
          | _ => none

/-- A key, an equals sign and a value, with what `skip` leaves out around the sign. -/
def readAssignment (skip : List Char → Option (List Char)) (value : Reader Value) :
    Reader (KeyPath × Value)
  | cs => do
      let (path, rest) ← readKeyPath cs
      match ← skip rest with
      | '=' :: rest =>
          let (v, rest) ← value (← skip rest)
          return ((path, v), rest)
      | _ => none

def readAssignments (value : Reader Value) : (bound : Nat) → Reader (List (KeyPath × Value))
  | 0, _ => none
  | bound + 1, cs => do
      match ← skipLines false cs with
      | '\x7d' :: rest => return ([], rest)
      | start =>
          let (a, rest) ← readAssignment (skipLines false) value start
          match ← skipLines false rest with
          | ',' :: rest =>
              let (more, rest) ← readAssignments value bound rest
              return (a :: more, rest)
          | '\x7d' :: rest => return ([a], rest)
          | _ => none

def readPlain : Reader Value
  | '"' :: cs => (readString ('"' :: cs)).map fun (text, rest) => (.string (.ofList text), rest)
  | '\'' :: cs => (readString ('\'' :: cs)).map fun (text, rest) => (.string (.ofList text), rest)
  | cs => readScalar cs

/-- A value in which brackets are nested at most `depth` deep. -/
def readValueWithin : (depth : Nat) → Reader Value
  | 0, '[' :: _ => none
  | 0, '\x7b' :: _ => none
  | depth + 1, '[' :: cs => do
      let (items, rest) ← readItems (readValueWithin depth) cs.length cs
      return (.array items, rest)
  | depth + 1, '\x7b' :: cs => do
      let (assignments, rest) ← readAssignments (readValueWithin depth) cs.length cs
      return (← tableInPlace assignments, rest)
  | _, cs => readPlain cs

/-- Brackets may be nested eighty deep. -/
def readValue : Reader Value :=
  readValueWithin 80

/-! ### Documents -/

def readHeader (closing : List Char) (entry : KeyPath → Entry) : Reader Entry
  | cs => do
      let (path, rest) ← readKeyPath (skipSpaces cs)
      if closing.isPrefixOf rest then
        return (entry path, rest.drop closing.length)
      else
        none

def readEntry : Reader Entry
  | '[' :: '[' :: cs => readHeader [']', ']'] .arrayHeader cs
  | '[' :: cs => readHeader [']'] .header cs
  | cs =>
      (readAssignment (fun cs => some (skipSpaces cs)) readValue cs).map fun ((path, v), rest) =>
        (.assign path v, rest)

/-- The entries of at most `bound` lines; a line is blank or holds one entry. -/
def readLines : (bound : Nat) → List Char → Option (List Entry)
  | _, [] => some []
  | 0, _ => none
  | bound + 1, cs =>
      match readLineEnd false cs with
      | some rest => readLines bound rest
      | none => do
          let (entry, rest) ← readEntry (skipSpaces cs)
          let entries ← readLines bound (← readLineEnd false rest)
          return entry :: entries

/-- A byte order mark may stand before a document. -/
def dropMark : List Char → List Char
  | '\ufeff' :: cs => cs
  | cs => cs

/-- The entries of the topmost table of a document. -/
def readDocument (cs : List Char) : Option Entries := do
  let text := dropMark cs
  let entries ← readLines text.length text
  let document ← Document.ofEntries entries
  return document.root.entries

end StatementSegments.Toml
