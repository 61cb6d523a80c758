import StatementSegments.Number.Binary64

/-!
Numbers without their fraction, and the integers of 64 bits nearest to them. The digits behind the
point are cleared, which gives a binary number of 64 bits again. Whether the nearest integer is that
number itself is told by comparing it with the ends of the range.
-/
namespace StatementSegments

namespace Magnitude

/-- How many binary digits of the significand stand behind the point. -/
def fractionDigits (m : Magnitude) : Nat :=
  1074 - m.exponent

theorem le_clear {n k digits : Nat} (hdigits : digits ≤ k) (hn : Nat.pow 2 k ≤ n) :
    Nat.pow 2 k ≤ n / Nat.pow 2 digits * Nat.pow 2 digits := by
  have hsplit : Nat.pow 2 (k - digits) * Nat.pow 2 digits = Nat.pow 2 k :=
    Nat.pow_sub_mul_pow 2 hdigits
  rw [← hsplit] at hn ⊢
  exact Nat.mul_le_mul_right _ ((Nat.le_div_iff_mul_le (Nat.two_pow_pos digits)).mpr hn)

/-- The magnitude with the digits behind the point cleared. -/
def wholePart (m : Magnitude) : Magnitude :=
  if h : m.fractionDigits ≤ 52 then
    { significand := m.significand / Nat.pow 2 m.fractionDigits * Nat.pow 2 m.fractionDigits
      exponent := m.exponent
      significand_lt := Nat.lt_of_le_of_lt (Nat.div_mul_le_self _ _) m.significand_lt
      exponent_lt := m.exponent_lt
      normal := m.normal.imp_right (le_clear h) }
  else
    zero

/-- The magnitude with an exponent of which only the leading one of its 53 digits is set. -/
def powerOfTwo (exponent : Nat) (h : exponent < 2046) : Magnitude :=
  ⟨Nat.pow 2 52, exponent, by decide, h, Or.inr (Nat.le_refl _)⟩

/-- Two to the power of 63. -/
def int64Bound : Magnitude :=
  powerOfTwo 1085 (by decide)

end Magnitude

namespace Binary64

/-- The number without its fraction. -/
def trunc : Binary64 → Binary64
  | finite negative magnitude => finite negative magnitude.wholePart
  | x => x

def signed (negative : Bool) (n : Nat) : Int :=
  if negative then -n else n

/-- The order of the numbers, in which both zeros are equal. The undefined number has no place in
it, not even beside itself. -/
def le : Binary64 → Binary64 → Bool
  | nan, _ | _, nan => false
  | infinite true, _ | _, infinite false => true
  | finite negative m, finite negative' m' => signed negative m.units ≤ signed negative' m'.units
  | _, _ => false

instance : LE Binary64 :=
  ⟨fun x y => x.le y = true⟩

instance : LT Binary64 :=
  ⟨fun x y => x ≤ y ∧ ¬y ≤ x⟩

instance (x y : Binary64) : Decidable (x ≤ y) :=
  inferInstanceAs (Decidable (x.le y = true))

instance (x y : Binary64) : Decidable (x < y) :=
  inferInstanceAs (Decidable (x ≤ y ∧ ¬y ≤ x))

/-- Two to the power of 63, or its negative. -/
def int64Bound (negative : Bool) : Binary64 :=
  finite negative Magnitude.int64Bound

/-- The integer of 64 bits nearest to the number without its fraction; zero for the undefined
number. -/
def saturate : Binary64 → Int64
  | nan => 0
  | infinite negative => if negative then Int64.minValue else Int64.maxValue
  | finite negative magnitude =>
      Int64.ofInt
        (max Int64.minValue.toInt (min Int64.maxValue.toInt (signed negative magnitude.floor)))

/-- The number without its fraction lies between the ends of the range, the upper one excluded. -/
def IsCastable (x : Binary64) : Prop :=
  int64Bound true ≤ x.trunc ∧ x.trunc < int64Bound false

instance (x : Binary64) : Decidable x.IsCastable :=
  inferInstanceAs (Decidable (_ ∧ _))

/-- The nearest integer, after a test that it is the number without its fraction. -/
def cast? (x : Binary64) : Option Int64 :=
  if x.IsCastable then some x.trunc.saturate else none

end Binary64

end StatementSegments
