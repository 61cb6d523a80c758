/-!
Binary floating-point numbers of 64 bits, held exactly. A finite number has a sign and a magnitude,
a whole number of units 2⁻¹⁰⁷⁴ whose 53 leading binary digits are kept.
-/
namespace StatementSegments

/-- The number `significand * 2 ^ exponent * 2 ^ (-1074)`. -/
structure Magnitude where
  significand : Nat
  exponent : Nat
  significand_lt : significand < Nat.pow 2 53
  exponent_lt : exponent < 2046
  normal : exponent = 0 ∨ Nat.pow 2 52 ≤ significand
  deriving DecidableEq

namespace Magnitude

def one : Nat :=
  Nat.pow 2 1074

def zero : Magnitude :=
  ⟨0, 0, by decide, by decide, Or.inl rfl⟩

def units (m : Magnitude) : Nat :=
  m.significand * Nat.pow 2 m.exponent

def floor (m : Magnitude) : Nat :=
  m.units / one

def ofParts? (significand exponent : Nat) : Option Magnitude :=
  if h : significand < Nat.pow 2 53 ∧ exponent < 2046 ∧
      (exponent = 0 ∨ Nat.pow 2 52 ≤ significand) then
    some ⟨significand, exponent, h.1, h.2.1, h.2.2⟩
  else
    none

/-- A quotient rounded to a whole number, a half to the even neighbour. -/
def roundHalfEven (num den : Nat) : Nat :=
  let down := num / den
  let rest := num % den
  if 2 * rest < den ∨ (2 * rest = den ∧ down % 2 = 0) then down else down + 1

/-- The least exponent under which a number of units has at most 53 binary digits. -/
def exponentFor (units : Nat) : Nat :=
  if units < Nat.pow 2 53 then 0 else units.log2 - 52

/-- The magnitude nearest to a quotient, of two the one with an even significand; none if the
quotient is too large. -/
def nearest? (num den : Nat) : Option Magnitude :=
  let exponent := exponentFor (num * one / den)
  let significand := roundHalfEven (num * one) (den * Nat.pow 2 exponent)
  if significand = Nat.pow 2 53 then
    ofParts? (Nat.pow 2 52) (exponent + 1)
  else
    ofParts? significand exponent

end Magnitude

inductive Binary64 where
  | nan
  | infinite (negative : Bool)
  | finite (negative : Bool) (magnitude : Magnitude)
  deriving DecidableEq

namespace Binary64

/-- The number nearest to a quotient with a sign. -/
def ofQuotient (negative : Bool) (num den : Nat) : Binary64 :=
  match Magnitude.nearest? num den with
  | some magnitude => finite negative magnitude
  | none => infinite negative

def truncate? : Binary64 → Option Int
  | finite negative magnitude => some (if negative then -magnitude.floor else magnitude.floor)
  | _ => none

/-- The number without its fraction, if that is an integer of 64 bits. -/
def toInt64? (x : Binary64) : Option Int64 :=
  x.truncate?.bind fun n =>
    if Int64.minValue.toInt ≤ n ∧ n ≤ Int64.maxValue.toInt then some (Int64.ofInt n) else none

end Binary64

end StatementSegments
