import StatementSegments.Number.Numeral
import StatementSegments.Toml.Value

namespace StatementSegments.Toml

/-- Digits with single underscores between them, less the underscores. -/
def separated? (isDigit : Char → Bool) : List Char → Option (List Char)
  | [] => none
  | [c] => if isDigit c then some [c] else none
  | c :: '_' :: cs => if isDigit c then (separated? isDigit cs).map (c :: ·) else none
  | c :: cs => if isDigit c then (separated? isDigit cs).map (c :: ·) else none

/-- Decimal digits without a needless leading zero. -/
def decimalDigits? (cs : List Char) : Option (List Char) :=
  (separated? Char.isDigit cs).bind fun digits =>
    if digits.length = 1 ∨ digits.head? ≠ some '0' then some digits else none

def isHexDigit (c : Char) : Bool :=
  c.isDigit || ('a' ≤ c && c ≤ 'f') || ('A' ≤ c && c ≤ 'F')

def hexValue (c : Char) : Nat :=
  if c.isDigit then c.toNat - '0'.toNat else c.toLower.toNat - 'a'.toNat + 10

def radixValue (radix : Nat) (digits : List Char) : Nat :=
  digits.foldl (fun n c => radix * n + hexValue c) 0

/-- Integers of 128 bits, signed or unsigned, can be held. -/
def ofInteger (n : Int) : Value :=
  if -(Nat.pow 2 127 : Int) ≤ n ∧ n < (Nat.pow 2 128 : Int) then .integer n else .unusableNumber

/-- What follows the mark of a radix. The mark alone is written like a number. -/
def radixInteger? (radix : Nat) (isDigit : Char → Bool) (cs : List Char) : Option Value :=
  if cs = [] then
    some .unusableNumber
  else
    (separated? isDigit cs).map fun digits => ofInteger (radixValue radix digits)

/-- Every underscore stands between hexadecimal digits. -/
def joinsGroups (before : Char) : List Char → Bool
  | [] => before != '_'
  | c :: cs =>
      (c != '_' || isHexDigit before) && (before != '_' || isHexDigit c) && joinsGroups c cs

/-- Groups joined by underscores are written like a decimal integer if the first one is an integer,
whatever else there is in the others. -/
def isGrouped : List Char → Bool
  | [] => false
  | first :: rest =>
      first.isDigit && first != '0' && (rest.dropWhile Char.isDigit).head? == some '_' &&
        joinsGroups first rest && !rest.any fun c => c == '.' || c == 'e' || c == 'E' || c == ' '

def decimalInteger? (cs : List Char) : Option Value :=
  let (negative, unsigned) := Numeral.splitSign cs
  match decimalDigits? unsigned with
  | some digits =>
      some (ofInteger (if negative then -(radixValue 10 digits : Int) else radixValue 10 digits))
  | none => if isGrouped unsigned then some .unusableNumber else none

def integer? : List Char → Option Value
  | '0' :: 'x' :: cs => radixInteger? 16 isHexDigit cs
  | '0' :: 'o' :: cs => radixInteger? 8 (fun c => '0' ≤ c && c ≤ '7') cs
  | '0' :: 'b' :: cs => radixInteger? 2 (fun c => c == '0' || c == '1') cs
  | cs => decimalInteger? cs

/-- A part that may be missing; if not, it is digits, after a sign where one is allowed. -/
def digitsIfAny (signed : Bool) : Option (List Char) → Bool
  | none => true
  | some cs =>
      let digits := if signed then (Numeral.splitSign cs).2 else cs
      (separated? Char.isDigit digits).isSome

/-- Cut a text at the first character of a kind, which is left out. -/
def cutAt (isMark : Char → Bool) (cs : List Char) : List Char × Option (List Char) :=
  match cs.span fun c => !isMark c with
  | (before, []) => (before, none)
  | (before, _ :: after) => (before, some after)

def isDecimal (cs : List Char) : Bool :=
  let (mantissa, exponent) := cutAt (fun c => c == 'e' || c == 'E') cs
  let (whole, fraction) := cutAt (· == '.') mantissa
  (fraction.isSome || exponent.isSome) && (decimalDigits? whole).isSome &&
    digitsIfAny false fraction && digitsIfAny true exponent

def float? (cs : List Char) : Option Value :=
  let body := (Numeral.splitSign cs).2
  if body = ['i', 'n', 'f'] ∨ body = ['n', 'a', 'n'] then
    (Numeral.binary64? cs).map .float
  else if isDecimal body then
    (Numeral.binary64? (cs.filter (· != '_'))).map fun x =>
      match x with
      | .infinite _ => .unusableNumber
      | _ => .float x
  else
    none

/-! ### Dates and times -/

def twoDigits? (a b : Char) : Option Nat :=
  if a.isDigit ∧ b.isDigit then some (10 * Numeral.digitValue a + Numeral.digitValue b) else none

def isLeapYear (year : Nat) : Bool :=
  year % 4 == 0 && (year % 100 != 0 || year % 400 == 0)

def daysIn (year month : Nat) : Nat :=
  if month = 2 then (if isLeapYear year then 29 else 28)
  else if month = 4 ∨ month = 6 ∨ month = 9 ∨ month = 11 then 30
  else 31

def afterDate? : List Char → Option (List Char)
  | y₁ :: y₂ :: y₃ :: y₄ :: '-' :: m₁ :: m₂ :: '-' :: d₁ :: d₂ :: rest => do
      let century ← twoDigits? y₁ y₂
      let year ← twoDigits? y₃ y₄
      let month ← twoDigits? m₁ m₂
      let day ← twoDigits? d₁ d₂
      guard (1 ≤ month ∧ month ≤ 12 ∧ 1 ≤ day ∧ day ≤ daysIn (100 * century + year) month)
      return rest
  | _ => none

def afterClock? : List Char → Option (List Char)
  | h₁ :: h₂ :: ':' :: m₁ :: m₂ :: rest => do
      let hour ← twoDigits? h₁ h₂
      let minute ← twoDigits? m₁ m₂
      guard (hour ≤ 23 ∧ minute ≤ 59)
      return rest
  | _ => none

/-- What follows seconds, which may have a fraction and may be missing. -/
def afterSeconds? : List Char → Option (List Char)
  | ':' :: s₁ :: s₂ :: rest => do
      let second ← twoDigits? s₁ s₂
      guard (second ≤ 60)
      match rest with
      | '.' :: fraction =>
          guard ((fraction.takeWhile Char.isDigit) ≠ [])
          return fraction.dropWhile Char.isDigit
      | _ => return rest
  | ':' :: _ => none
  | rest => some rest

def afterTime? (cs : List Char) : Option (List Char) :=
  (afterClock? cs).bind afterSeconds?

/-- The end of a text, or an offset from universal time. -/
def isOffset : List Char → Bool
  | [] => true
  | [z] => z == 'Z' || z == 'z'
  | sign :: clock => (sign == '+' || sign == '-') && afterClock? clock == some []

def isDateTime (cs : List Char) : Bool :=
  match afterDate? cs with
  | some [] => true
  | some (mark :: time) =>
      (mark == 'T' || mark == 't' || mark == ' ') && ((afterTime? time).map isOffset).getD false
  | none => afterTime? cs == some []

/-! ### Scalars -/

def scalarOf? (cs : List Char) : Option Value :=
  if cs = ['t', 'r', 'u', 'e'] then some (.boolean true)
  else if cs = ['f', 'a', 'l', 's', 'e'] then some (.boolean false)
  else if isDateTime cs then some (.dateTime (String.ofList cs))
  else (integer? cs).or (float? cs)

def isSpace (c : Char) : Bool :=
  c == ' ' || c == '\t'

/-- Neither a blank nor punctuation nor the start of a comment. -/
def isWordChar (c : Char) : Bool :=
  c ∉ [' ', '\t', '\r', '\n', '#', '=', ',', '[', ']', '\x7b', '\x7d']

/-- After spaces a scalar goes on with a word, but not with a point or a quote. -/
def resumes (cs : List Char) : Bool :=
  match cs.dropWhile isSpace with
  | [] => false
  | c :: _ => isWordChar c && c != '.' && c != '"' && c != '\''

/-- The characters of a scalar: words with spaces between them, as a date and a time have. -/
def scalarSpan : List Char → List Char × List Char
  | [] => ([], [])
  | c :: cs =>
      if isWordChar c || (isSpace c && resumes cs) then
        let (text, rest) := scalarSpan cs
        (c :: text, rest)
      else
        ([], c :: cs)

def readScalar (cs : List Char) : Option (Value × List Char) :=
  let (text, rest) := scalarSpan cs
  (scalarOf? text).map fun v => (v, rest)

end StatementSegments.Toml
