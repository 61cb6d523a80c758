import StatementSegments.Number.Binary64

namespace StatementSegments.Numeral

def digitValue (c : Char) : Nat :=
  c.toNat - '0'.toNat

def valueOf (digits : List Char) : Nat :=
  digits.foldl (fun n c => 10 * n + digitValue c) 0

/-- Whether a minus was written, and what follows an optional sign. -/
def splitSign : List Char → Bool × List Char
  | '-' :: cs => (true, cs)
  | '+' :: cs => (false, cs)
  | cs => (false, cs)

/-- The value of one or more digits after an optional sign. -/
def integer? (cs : List Char) : Option Int :=
  let (negative, digits) := splitSign cs
  if digits ≠ [] ∧ digits.all Char.isDigit then
    some (if negative then -valueOf digits else valueOf digits)
  else
    none

def int64? (cs : List Char) : Option Int64 :=
  (integer? cs).bind fun n =>
    if Int64.minValue.toInt ≤ n ∧ n ≤ Int64.maxValue.toInt then some (Int64.ofInt n) else none

/-- The decimal number `digits * 10 ^ exponent`. -/
structure Scaled where
  digits : Nat
  exponent : Int
  deriving DecidableEq, Repr

/-- The exponent part, absent or an integer after the letter e. -/
def exponentPart? : List Char → Option Int
  | [] => some 0
  | c :: cs => if c = 'e' ∨ c = 'E' then integer? cs else none

/-- The digits after a point, and what follows them. -/
def fractionPart : List Char → List Char × List Char
  | '.' :: cs => cs.span Char.isDigit
  | cs => ([], cs)

/-- Digits with an optional point before, between or after them, and an optional exponent. -/
def scaled? (cs : List Char) : Option Scaled :=
  let (whole, rest) := cs.span Char.isDigit
  let (fraction, rest) := fractionPart rest
  if whole ++ fraction = [] then
    none
  else
    (exponentPart? rest).map fun exponent =>
      ⟨valueOf (whole ++ fraction), exponent - fraction.length⟩

/-- The number nearest to a decimal. A power of ten that leads beyond all numbers is not worked
out. -/
def Scaled.toBinary64 (negative : Bool) (s : Scaled) : Binary64 :=
  if s.digits = 0 ∨ s.exponent + s.digits.log2 < -330 then
    .finite negative .zero
  else if 310 ≤ s.exponent then
    .infinite negative
  else
    .ofQuotient negative (s.digits * Nat.pow 10 s.exponent.toNat) (Nat.pow 10 (-s.exponent).toNat)

/-- What is written after a sign: the name of a number that is not finite, or a decimal. -/
def unsigned? (negative : Bool) (cs : List Char) : Option Binary64 :=
  let lower := cs.map Char.toLower
  if lower = "inf".toList ∨ lower = "infinity".toList then
    some (.infinite negative)
  else if lower = "nan".toList then
    some .nan
  else
    (scaled? cs).map (Scaled.toBinary64 negative)

def binary64? (cs : List Char) : Option Binary64 :=
  let (negative, unsigned) := splitSign cs
  unsigned? negative unsigned

end StatementSegments.Numeral
