import Mathlib.Data.Rat.Floor
import Mathlib.Tactic.NormNum
import StatementSegments.Number.Truncation
import StatementSegments.Proofs.NumberValue
import StatementSegments.Proofs.RoundedIntegers

namespace StatementSegments

/-- The integers of 64 bits. -/
def IsInt64 (n : ℤ) : Prop :=
  -2 ^ 63 ≤ n ∧ n ≤ 2 ^ 63 - 1

instance (n : ℤ) : Decidable (IsInt64 n) :=
  inferInstanceAs (Decidable (_ ∧ _))

theorem isInt64_toInt (n : Int64) : IsInt64 n.toInt :=
  ⟨n.minValue_le_toInt, n.toInt_le⟩

theorem IsInt64.toInt_ofInt {n : ℤ} (h : IsInt64 n) : (Int64.ofInt n).toInt = n :=
  Int64.toInt_ofInt_of_le h.1 (Int.lt_of_le_sub_one h.2)

theorem truncate_mono {q r : ℚ} (h : q ≤ r) : truncate q ≤ truncate r := by
  unfold truncate
  split
  · next hq =>
      rw [if_pos (hq.trans h)]
      exact Int.floor_le_floor h
  · next hq =>
      split
      · next hr =>
          have hceil : ⌈q⌉ ≤ 0 := Int.ceil_le.mpr (by exact_mod_cast (not_le.mp hq).le)
          exact hceil.trans (Int.floor_nonneg.mpr hr)
      · exact Int.ceil_le_ceil h

namespace Magnitude

/-- Clearing the digits behind the point takes a number down to a multiple of the unit of whole
numbers. -/
theorem clear_mul_two_pow (s e u : ℕ) :
    s / 2 ^ (u - e) * 2 ^ (u - e) * 2 ^ e = s * 2 ^ e / 2 ^ u * 2 ^ u := by
  rcases Nat.le_total e u with hle | hle
  · have hsplit : 2 ^ u = 2 ^ (u - e) * 2 ^ e := by
      rw [← pow_add, Nat.sub_add_cancel hle]
    rw [hsplit, Nat.mul_div_mul_right _ _ (Nat.two_pow_pos e), mul_assoc]
  · have hdvd : 2 ^ u ∣ s * 2 ^ e := Dvd.dvd.mul_left (pow_dvd_pow 2 hle) s
    rw [Nat.sub_eq_zero_of_le hle, pow_zero, Nat.div_one, mul_one, Nat.div_mul_cancel hdvd]

theorem floor_mul_one (m : Magnitude) :
    m.floor * one = m.significand / 2 ^ (unitExponent - m.exponent) *
      2 ^ (unitExponent - m.exponent) * 2 ^ m.exponent := by
  rw [floor, units, one_eq, Nat.pow_eq, clear_mul_two_pow]

/-- Without its fraction a magnitude is a whole number of ones. -/
theorem units_wholePart (m : Magnitude) : m.wholePart.units = m.floor * one := by
  rw [floor_mul_one]
  unfold wholePart
  split
  · rfl
  · next hdigits =>
      -- All digits of the significand stand behind the point.
      have hlarge : m.significand < 2 ^ (unitExponent - m.exponent) := by
        refine m.significand_lt.trans_le (Nat.pow_le_pow_right two_pos ?_)
        exact Nat.succ_le_of_lt (Nat.lt_of_not_le hdigits)
      rw [Nat.div_eq_of_lt hlarge, zero_mul, zero_mul]
      rfl

theorem cast_one_ne_zero : (one : ℚ) ≠ 0 :=
  Nat.cast_ne_zero.mpr one_pos.ne'

theorem toRat_eq_of_units {m : Magnitude} {n : ℕ} (h : m.units = n * one) : m.toRat = n := by
  rw [toRat, h, Nat.cast_mul, mul_div_cancel_right₀ _ cast_one_ne_zero]

theorem toRat_wholePart (m : Magnitude) : m.wholePart.toRat = m.floor :=
  toRat_eq_of_units m.units_wholePart

theorem floor_wholePart (m : Magnitude) : m.wholePart.floor = m.floor := by
  rw [floor, units_wholePart, Nat.mul_div_cancel _ one_pos]

theorem units_powerOfTwo (exponent : ℕ) (h : exponent < 2046) :
    (powerOfTwo exponent h).units = 2 ^ (52 + exponent) := by
  simp only [units, powerOfTwo, Nat.pow_eq]
  rw [pow_add]

theorem units_int64Bound : int64Bound.units = 2 ^ 63 * one := by
  have hexponent : 52 + 1085 = 63 + unitExponent := rfl
  rw [int64Bound, units_powerOfTwo, hexponent, pow_add, one_eq]

/-- One half. All digits of the significand stand behind the point. -/
def half : Magnitude :=
  powerOfTwo 1021 (by decide)

theorem toRat_half : half.toRat = 1 / 2 := by
  have hexponent : unitExponent = 52 + 1021 + 1 := rfl
  have hunits : one = half.units * 2 := by
    rw [half, units_powerOfTwo, one_eq, hexponent, pow_succ]
  have hdouble : (one : ℚ) = half.units * 2 := by exact_mod_cast hunits
  rw [toRat, div_eq_div_iff cast_one_ne_zero two_ne_zero, hdouble, one_mul]

end Magnitude

namespace Binary64

variable {negative : Bool} {m : Magnitude} {x : Binary64} {n : ℤ}

theorem truncate?_finite : (finite negative m).truncate? = some (signed negative m.floor) :=
  rfl

theorem signed_mul (negative : Bool) (n k : ℕ) :
    signed negative (n * k) = signed negative n * k := by
  cases negative <;> simp [signed]

/-- Losing the fraction leaves a binary number of 64 bits that is the whole number itself. -/
theorem toRat?_trunc (x : Binary64) :
    x.trunc.toRat? = x.toRat?.map fun q => (StatementSegments.truncate q : ℚ) := by
  cases x with
  | nan => rfl
  | infinite negative => rfl
  | finite negative m =>
      cases negative with
      | false => simp [trunc, toRat?, Magnitude.toRat_wholePart, Magnitude.truncate_toRat]
      | true =>
          simp [trunc, toRat?, Magnitude.toRat_wholePart, Magnitude.truncate_toRat, truncate_neg]

theorem finite_le_finite_iff {negative' : Bool} {m' : Magnitude} :
    finite negative m ≤ finite negative' m' ↔
      signed negative m.units ≤ signed negative' m'.units := by
  change decide _ = true ↔ _
  rw [decide_eq_true_iff]

theorem finite_lt_finite_iff {negative' : Bool} {m' : Magnitude} :
    finite negative m < finite negative' m' ↔
      signed negative m.units < signed negative' m'.units := by
  change (finite negative m ≤ finite negative' m' ∧ ¬finite negative' m' ≤ finite negative m) ↔ _
  rw [finite_le_finite_iff, finite_le_finite_iff]
  omega

/-- The comparison with the ends of the range, made on binary numbers, is that of whole numbers. -/
theorem isCastable_finite_iff :
    (finite negative m).IsCastable ↔ IsInt64 (signed negative m.floor) := by
  have hone : (0 : ℤ) < Magnitude.one := by exact_mod_cast Magnitude.one_pos
  have hlow : signed true (2 ^ 63) = -2 ^ 63 := rfl
  have hhigh : signed false (2 ^ 63) = 2 ^ 63 := rfl
  rw [IsCastable, trunc, int64Bound, int64Bound, finite_le_finite_iff, finite_lt_finite_iff,
    Magnitude.units_wholePart, Magnitude.units_int64Bound, signed_mul, signed_mul, signed_mul,
    mul_le_mul_iff_left₀ hone, mul_lt_mul_iff_left₀ hone, hlow, hhigh, IsInt64, Int.le_sub_one_iff]

theorem isCastable_iff : x.IsCastable ↔ ∃ n, x.truncate? = some n ∧ IsInt64 n := by
  cases x with
  | nan =>
      have hnan : ¬nan.IsCastable := by decide
      simp [hnan, truncate?]
  | infinite negative =>
      have hinfinite : ¬(infinite negative).IsCastable := by
        cases negative <;> decide
      simp [hinfinite, truncate?]
  | finite negative m =>
      rw [isCastable_finite_iff, truncate?_finite]
      simp

/-- The cast leaves a number without fraction as it is just where it lies in the range. -/
theorem toInt_saturate_trunc_iff (h : x.truncate? = some n) :
    x.trunc.saturate.toInt = n ↔ IsInt64 n := by
  constructor
  · intro hexact
    rw [← hexact]
    exact isInt64_toInt _
  · intro hrange
    cases x with
    | nan => cases h
    | infinite negative => cases h
    | finite negative m =>
        rw [truncate?_finite, Option.some.injEq] at h
        rw [trunc, saturate, Magnitude.floor_wholePart, h, minValue_eq, maxValue_eq,
          min_eq_right hrange.2, max_eq_right hrange.1, hrange.toInt_ofInt]

/-- The comparison admits just the numbers that are still the same after the cast. -/
theorem isCastable_iff_saturate_eq :
    x.IsCastable ↔ ∃ q : ℚ, x.trunc.toRat? = some q ∧ (x.trunc.saturate.toInt : ℚ) = q := by
  rw [isCastable_iff, toRat?_trunc, truncate?_eq]
  rcases hvalue : x.toRat? with _ | q
  · simp
  · have hexact : x.trunc.saturate.toInt = StatementSegments.truncate q ↔
        IsInt64 (StatementSegments.truncate q) := by
      apply toInt_saturate_trunc_iff
      rw [truncate?_eq, hvalue, Option.map_some]
    simp [← hexact, eq_comm]

theorem toInt64?_eq_cast? (x : Binary64) : x.toInt64? = x.cast? := by
  unfold cast?
  split
  · next hcastable =>
      obtain ⟨n, hn, hrange⟩ := isCastable_iff.mp hcastable
      rw [toInt64?_eq_some_iff, hn, (toInt_saturate_trunc_iff hn).mpr hrange]
  · next hcastable =>
      rw [Option.eq_none_iff_forall_ne_some]
      intro n hn
      rw [toInt64?_eq_some_iff] at hn
      exact hcastable (isCastable_iff.mpr ⟨n.toInt, hn, isInt64_toInt n⟩)

/-- The number is undefined, infinite, or no integer of 64 bits once it has lost its fraction. -/
inductive IsOutside : Binary64 → Prop where
  | nan : IsOutside nan
  | infinite (negative : Bool) : IsOutside (infinite negative)
  | finite {x : Binary64} {q : ℚ} (hvalue : x.toRat? = some q)
      (hrange : ¬IsInt64 (StatementSegments.truncate q)) : IsOutside x

theorem isOutside_iff : x.IsOutside ↔ ¬x.IsCastable := by
  rw [isCastable_iff, truncate?_eq]
  constructor
  · rintro h ⟨n, hn, hrange⟩
    cases h with
    | nan => cases hn
    | infinite negative => cases hn
    | finite hvalue houtside =>
        rw [hvalue, Option.map_some, Option.some.injEq] at hn
        exact houtside (hn ▸ hrange)
  · intro h
    cases x with
    | nan => exact .nan
    | infinite negative => exact .infinite negative
    | finite negative m => exact .finite rfl fun hrange => h ⟨_, rfl, hrange⟩

end Binary64

namespace Literal

variable {x y : Binary64} {q r : ℚ} {n k : Int64}

theorem toInt64?_decimal_eq_none_iff : (decimal x).toInt64? = none ↔ x.IsOutside := by
  rw [toInt64?, Binary64.toInt64?_eq_cast?, Binary64.cast?, Binary64.isOutside_iff]
  simp

theorem toInt64?_decimal_eq_some_iff :
    (decimal x).toInt64? = some n ↔ ∃ q, x.toRat? = some q ∧ truncate q = n.toInt := by
  rw [toInt64?_eq_some_iff]
  simp only [value?, eq_comm]

theorem toInt64?_decimal_mono (hx : x.toRat? = some q) (hy : y.toRat? = some r) (hle : q ≤ r)
    (hn : (decimal x).toInt64? = some n) (hk : (decimal y).toInt64? = some k) : n ≤ k := by
  obtain ⟨q', hq', hnInt⟩ := toInt64?_decimal_eq_some_iff.mp hn
  obtain ⟨r', hr', hkInt⟩ := toInt64?_decimal_eq_some_iff.mp hk
  obtain rfl : q = q' := Option.some.inj (hx.symm.trans hq')
  obtain rfl : r = r' := Option.some.inj (hy.symm.trans hr')
  rw [Int64.le_iff_toInt_le, ← hnInt, ← hkInt]
  exact truncate_mono hle

theorem numeric_toInt64?_eq_none_iff {l : Literal} :
    (l.isNumeric = true ∧ l.toInt64? = none) ↔ ∃ x, l = decimal x ∧ x.IsOutside := by
  cases l with
  | integer value => simp [isNumeric, toInt64?]
  | decimal x => simp [isNumeric, toInt64?_decimal_eq_none_iff]
  | string value => simp [isNumeric]
  | boolean value => simp [isNumeric]
  | null => simp [isNumeric]

/-- A decimal is an integer of 64 bits just where its value, without the fraction, is one; the
comparison before the cast admits just what the cast does not change. -/
theorem decimal_toInt64 :
    (∀ (x : Binary64) (n : Int64), (decimal x).toInt64? = some n ↔
      ∃ q, x.toRat? = some q ∧ truncate q = n.toInt) ∧
    (∀ x : Binary64, (decimal x).toInt64? = none ↔ x.IsOutside) ∧
    (∀ x : Binary64, (decimal x).toInt64? = x.cast?) ∧
    (∀ x : Binary64, x.IsCastable ↔
      ∃ q : ℚ, x.trunc.toRat? = some q ∧ (x.trunc.saturate.toInt : ℚ) = q) ∧
    (∀ (x y : Binary64) (q r : ℚ) (n k : Int64), x.toRat? = some q → y.toRat? = some r → q ≤ r →
      (decimal x).toInt64? = some n → (decimal y).toInt64? = some k → n ≤ k) ∧
    ∀ l : Literal, (l.isNumeric = true ∧ l.toInt64? = none) ↔ ∃ x, l = decimal x ∧ x.IsOutside := by
  refine ⟨fun _ _ => toInt64?_decimal_eq_some_iff, fun _ => toInt64?_decimal_eq_none_iff, ?_,
    fun _ => Binary64.isCastable_iff_saturate_eq, ?_, fun _ => numeric_toInt64?_eq_none_iff⟩
  · intro x
    exact Binary64.toInt64?_eq_cast? x
  · intro x y q r n k hx hy hle hn hk
    exact toInt64?_decimal_mono hx hy hle hn hk

/-- The least integer of 64 bits, a number that is rounded up to zero, and the first one that is too
large. -/
theorem boundaries_toInt64 :
    (Binary64.int64Bound true).toRat? = some (-2 ^ 63) ∧
      (Binary64.finite true .half).toRat? = some (-(1 / 2)) ∧
      (decimal (Binary64.int64Bound true)).toInt64? = some Int64.minValue ∧
      (decimal (Binary64.finite true .half)).toInt64? = some 0 ∧ Int64.minValue ≤ 0 ∧
      (decimal (Binary64.int64Bound false)).toInt64? = none := by
  obtain ⟨hsome, hnone, -, -, hmono, -⟩ := decimal_toInt64
  have hbound : Magnitude.int64Bound.toRat = 2 ^ 63 := by
    rw [Magnitude.toRat_eq_of_units Magnitude.units_int64Bound]
    norm_num
  have htruncate : truncate (-(1 / 2)) = 0 := by
    rw [truncate, if_neg (by norm_num), Int.ceil_eq_iff]
    norm_num
  have hleast : (Binary64.int64Bound true).toRat? = some (-2 ^ 63) := by
    rw [Binary64.int64Bound, Binary64.toRat?, if_pos rfl, hbound]
  have hhalf : (Binary64.finite true .half).toRat? = some (-(1 / 2)) := by
    rw [Binary64.toRat?, if_pos rfl, Magnitude.toRat_half]
  have hlarge : (Binary64.int64Bound false).toRat? = some (2 ^ 63) := by
    rw [Binary64.int64Bound, Binary64.toRat?, if_neg Bool.false_ne_true, hbound]
  have hminimum : (decimal (Binary64.int64Bound true)).toInt64? = some Int64.minValue :=
    (hsome _ _).mpr ⟨_, hleast, by decide⟩
  have hzero : (decimal (Binary64.finite true .half)).toInt64? = some 0 :=
    (hsome _ _).mpr ⟨_, hhalf, htruncate⟩
  refine ⟨hleast, hhalf, hminimum, hzero, ?_, ?_⟩
  · exact hmono _ _ _ _ _ _ hleast hhalf (by norm_num) hminimum hzero
  · exact (hnone _).mpr (.finite hlarge (by decide))

end Literal

end StatementSegments
