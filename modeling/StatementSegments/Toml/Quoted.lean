/-!
Strings of TOML. A basic string stands between double quotes and may hold escapes, a literal string
stands between single quotes and holds what it shows. Both have a form over several lines, between
three quotes. Writing takes the plainest form that can hold a text.
-/
namespace StatementSegments.Toml

/-- Control characters other than the tab stand in no line of a document. -/
def isText (c : Char) : Bool :=
  c == '\t' || (0x20 ≤ c.toNat && c.toNat != 0x7f)

/-- A character in front of what is read after it. -/
def prepend (c : Char) (read : Option (List Char × List Char)) : Option (List Char × List Char) :=
  read.map fun (text, rest) => (c :: text, rest)

/-! ### Escapes -/

/-- How far an escape has been read: its backslash, or a part of the digits of a code point. -/
inductive Escape where
  | begun
  | code (missing value : Nat)

def hexDigit? (c : Char) : Option Nat :=
  if c.isDigit then some (c.toNat - '0'.toNat)
  else if 'a' ≤ c ∧ c ≤ 'f' then some (c.toNat - 'a'.toNat + 10)
  else if 'A' ≤ c ∧ c ≤ 'F' then some (c.toNat - 'A'.toNat + 10)
  else none

def scalar? (code : Nat) : Option Char :=
  if code.isValidChar then some (Char.ofNat code) else none

/-- What an escape is after one more character: a character, or an escape still. -/
def Escape.next? (e : Escape) (c : Char) : Option (Char ⊕ Escape) :=
  match e with
  | begun =>
      match c with
      | 'b' => some (.inl '\x08')
      | 't' => some (.inl '\t')
      | 'n' => some (.inl '\n')
      | 'f' => some (.inl '\x0c')
      | 'r' => some (.inl '\r')
      | 'e' => some (.inl '\x1b')
      | '"' => some (.inl '"')
      | '\\' => some (.inl '\\')
      | 'x' => some (.inr (code 2 0))
      | 'u' => some (.inr (code 4 0))
      | 'U' => some (.inr (code 8 0))
      | _ => none
  | code missing value =>
      (hexDigit? c).bind fun digit =>
        if missing ≤ 1 then
          (scalar? (16 * value + digit)).map .inl
        else
          some (.inr (code (missing - 1) (16 * value + digit)))

/-! ### Reading -/

/-- The rest of a basic string on one line, within an escape or not. -/
def readBasic : Option Escape → List Char → Option (List Char × List Char)
  | _, [] => none
  | none, c :: cs =>
      if c = '"' then some ([], cs)
      else if c = '\\' then readBasic (some .begun) cs
      else if isText c then prepend c (readBasic none cs)
      else none
  | some e, c :: cs =>
      match e.next? c with
      | some (.inl d) => prepend d (readBasic none cs)
      | some (.inr e') => readBasic (some e') cs
      | none => none

/-- Where reading stands in a basic string over several lines. A backslash at the end of a line
folds the line: what is blank after it is left out, once a line end was seen. -/
inductive LinesState where
  | text
  | escape (e : Escape)
  | folding (lineEnded : Bool)

/-- The rest of a basic string over several lines. Up to two quotes may stand before the closing
ones. -/
def readBasicLines : LinesState → List Char → Option (List Char × List Char)
  | _, [] => none
  | .text, '"' :: '"' :: '"' :: '"' :: '"' :: cs => some (['"', '"'], cs)
  | .text, '"' :: '"' :: '"' :: '"' :: cs => some (['"'], cs)
  | .text, '"' :: '"' :: '"' :: cs => some ([], cs)
  | .text, '\r' :: '\n' :: cs => prepend '\r' (prepend '\n' (readBasicLines .text cs))
  | .text, c :: cs =>
      if c = '\\' then readBasicLines (.escape .begun) cs
      else if isText c ∨ c = '\n' then prepend c (readBasicLines .text cs)
      else none
  | .escape .begun, '\r' :: '\n' :: cs => readBasicLines (.folding true) cs
  | .escape e, c :: cs =>
      match e, c with
      | .begun, '\n' => readBasicLines (.folding true) cs
      | .begun, ' ' => readBasicLines (.folding false) cs
      | .begun, '\t' => readBasicLines (.folding false) cs
      | e, c =>
          match e.next? c with
          | some (.inl d) => prepend d (readBasicLines .text cs)
          | some (.inr e') => readBasicLines (.escape e') cs
          | none => none
  | .folding _, '\r' :: '\n' :: cs => readBasicLines (.folding true) cs
  | .folding lineEnded, c :: cs =>
      if c = '\n' then readBasicLines (.folding true) cs
      else if c = ' ' ∨ c = '\t' then readBasicLines (.folding lineEnded) cs
      else if lineEnded then readBasicLines .text (c :: cs)
      else none
  termination_by state cs => (cs.length, match state with | .folding _ => 1 | _ => 0)

def readLiteral : List Char → Option (List Char × List Char)
  | [] => none
  | c :: cs =>
      if c = '\'' then some ([], cs)
      else if isText c then prepend c (readLiteral cs)
      else none

def readLiteralLines : List Char → Option (List Char × List Char)
  | [] => none
  | '\'' :: '\'' :: '\'' :: '\'' :: '\'' :: cs => some (['\'', '\''], cs)
  | '\'' :: '\'' :: '\'' :: '\'' :: cs => some (['\''], cs)
  | '\'' :: '\'' :: '\'' :: cs => some ([], cs)
  | '\r' :: '\n' :: cs => prepend '\r' (prepend '\n' (readLiteralLines cs))
  | c :: cs => if isText c ∨ c = '\n' then prepend c (readLiteralLines cs) else none

/-- A line end right after the opening quotes is no part of a text. -/
def dropLineEnd : List Char → List Char
  | '\n' :: cs => cs
  | '\r' :: '\n' :: cs => cs
  | cs => cs

/-- A string on one line, as keys have it. -/
def readLineString : List Char → Option (List Char × List Char)
  | '"' :: cs => readBasic none cs
  | '\'' :: cs => readLiteral cs
  | _ => none

def readString : List Char → Option (List Char × List Char)
  | '"' :: '"' :: '"' :: cs => readBasicLines .text (dropLineEnd cs)
  | '\'' :: '\'' :: '\'' :: cs => readLiteralLines (dropLineEnd cs)
  | cs => readLineString cs

/-! ### Writing -/

inductive Form where
  | basic
  | literal
  | basicLines
  | literalLines
  deriving DecidableEq, Repr

def longestRun (quote : Char) (run : Nat) : List Char → Nat
  | [] => run
  | c :: cs => if c = quote then longestRun quote (run + 1) cs else max run (longestRun quote 0 cs)

/-- Control characters that no form but a basic one can hold. -/
def needsEscape (c : Char) : Bool :=
  !isText c && c != '\n'

/-- The plainest form that can hold a text without escapes, else a basic one. -/
def formOf (text : List Char) : Form :=
  let escaped := text.any needsEscape
  let lines := text.contains '\n'
  let backslash := text.contains '\\'
  let doubles := longestRun '"' 0 text
  let singles := longestRun '\'' 0 text
  if !escaped && !lines && !backslash && doubles == 0 then .basic
  else if !escaped && !lines && singles == 0 then .literal
  else if !escaped && !backslash && doubles ≤ 2 then .basicLines
  else if !escaped && singles ≤ 2 then .literalLines
  else if lines then .basicLines
  else .basic

def codeDigits (c : Char) : List Char :=
  let digits := (Nat.toDigits 16 c.toNat).map Char.toUpper
  List.replicate (4 - digits.length) '0' ++ digits

/-- A character in a basic form. Over several lines up to two quotes in a row need no escape;
`run` is the number of quotes just before. -/
def encodeChar (lines : Bool) (run : Nat) (c : Char) : List Char :=
  match c with
  | '\x08' => ['\\', 'b']
  | '\t' => ['\\', 't']
  | '\n' => if lines then ['\n'] else ['\\', 'n']
  | '\x0c' => ['\\', 'f']
  | '\r' => ['\\', 'r']
  | '\\' => ['\\', '\\']
  | '"' => if lines && run < 2 then ['"'] else ['\\', '"']
  | c => if isText c then [c] else ['\\', 'u'] ++ codeDigits c

def encodeText (lines : Bool) (run : Nat) : List Char → List Char
  | [] => []
  | c :: cs =>
      let written := encodeChar lines run c
      written ++ encodeText lines (if written = ['"'] then run + 1 else 0) cs

/-- The line end after opening quotes, without which one at the start of a text would be lost. -/
def openingLineEnd (text : List Char) : List Char :=
  if text.contains '\n' then ['\n'] else []

def writeAs (form : Form) (text : List Char) : List Char :=
  match form with
  | .basic => ['"'] ++ encodeText false 0 text ++ ['"']
  | .literal => ['\''] ++ text ++ ['\'']
  | .basicLines =>
      ['"', '"', '"'] ++ openingLineEnd text ++ encodeText true 0 text ++ ['"', '"', '"']
  | .literalLines => ['\'', '\'', '\''] ++ openingLineEnd text ++ text ++ ['\'', '\'', '\'']

def writeString (text : List Char) : List Char :=
  writeAs (formOf text) text

end StatementSegments.Toml
