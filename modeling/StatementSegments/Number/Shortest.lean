import StatementSegments.Number.Numeral

/-!
The shortest decimal text of a number that reads back as the number. For one digit, two digits and
so on the two neighbours of the number among the decimals with so many digits are tried; of two
that read back the nearer one is taken, and the larger one if they are equally near.
-/
namespace StatementSegments

namespace Magnitude

def decimalLength (n : Nat) : Nat :=
  (Nat.toDigits 10 n).length

/-- The power of ten of the first digit of a positive quotient. -/
def leadingExponent (num den : Nat) : Int :=
  if den ≤ num then
    (decimalLength (num / den) : Int) - 1
  else
    -(decimalLength ((den - 1) / num) : Int)

/-- Numbers just below a power of two lie twice as close as those above it. -/
def startsBinade (m : Magnitude) : Bool :=
  m.significand == Nat.pow 2 52 && m.exponent != 0

/-- A distance that rounds back to the significand: less than half the gap to the next number, or
just half of it if the significand is even. -/
def withinGap (m : Magnitude) (twice gap : Nat) : Bool :=
  if m.significand % 2 = 0 then twice ≤ gap else twice < gap

/-- The decimal with `count` digits that stands for the magnitude, if one reads back as it. -/
def withDigits? (m : Magnitude) (count : Nat) : Option Numeral.Scaled :=
  let places : Int := count - 1 - leadingExponent m.units one
  let num := m.units * Nat.pow 10 places.toNat
  let den := one * Nat.pow 10 (-places).toNat
  let gap := Nat.pow 2 m.exponent * Nat.pow 10 places.toNat
  let below := num / den
  let down := num - below * den
  let up := (below + 1) * den - num
  let downFits := if m.startsBinade then m.withinGap (4 * down) gap else m.withinGap (2 * down) gap
  let upFits := m.withinGap (2 * up) gap
  if upFits && (!downFits || up ≤ down) then
    some ⟨below + 1, -places⟩
  else if downFits then
    some ⟨below, -places⟩
  else
    none

/-- Seventeen digits always suffice. -/
def shortest (m : Magnitude) : Numeral.Scaled :=
  ((List.range 17).findSome? fun i => m.withDigits? (i + 1)).getD ⟨m.units / one, 0⟩

end Magnitude

namespace Numeral.Scaled

/-- The digits without trailing zeros, and the power of ten of the first one. -/
def normal (s : Scaled) : List Char × Int :=
  let all := Nat.toDigits 10 s.digits
  ((all.reverse.dropWhile (· == '0')).reverse, s.exponent + (all.length - 1 : Nat))

/-- All digits in their places, with at least one after the point. -/
def positional (digits : List Char) (leading : Int) : List Char :=
  if leading < 0 then
    ['0', '.'] ++ List.replicate (-leading - 1).toNat '0' ++ digits
  else
    let places := leading.toNat + 1
    let fraction := digits.drop places
    digits.take places ++ List.replicate (places - digits.length) '0' ++ ['.'] ++
      (if fraction = [] then ['0'] else fraction)

/-- One digit before the point and the power of ten behind. -/
def scientific (digits : List Char) (leading : Int) : List Char :=
  digits.take 1 ++ (if digits.length ≤ 1 then [] else '.' :: digits.drop 1) ++ ['e'] ++
    (toString leading).toList

/-- Numbers from 0.0001 up to 10¹⁶ are written with all places. -/
def render (s : Scaled) : List Char :=
  let (digits, leading) := s.normal
  if -4 ≤ leading ∧ leading < 16 then positional digits leading else scientific digits leading

end Numeral.Scaled

namespace Binary64

def sign (negative : Bool) : List Char :=
  if negative then ['-'] else []

def renderChars : Binary64 → List Char
  | nan => ['N', 'a', 'N']
  | infinite negative => sign negative ++ ['i', 'n', 'f']
  | finite negative magnitude =>
      sign negative ++
        if magnitude.significand = 0 then ['0', '.', '0'] else magnitude.shortest.render

def render (x : Binary64) : String :=
  String.ofList x.renderChars

end Binary64

end StatementSegments
