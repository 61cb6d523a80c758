import Mathlib.Tactic.Ring
import StatementSegments.Number.Binary64

/-!
Whole numbers as binary numbers of 64 bits. A whole number of more than 53 binary digits is rounded
to a multiple of a power of two. Rounding never takes it below a power of two that it has reached,
and takes it down to that power from as far as half the distance to the next number.
-/
namespace StatementSegments

namespace Magnitude

variable {n i j k num den q r : ℕ} {m : Magnitude}

theorem roundHalfEven_mul_right (num den : ℕ) {c : ℕ} (hc : 0 < c) :
    roundHalfEven (num * c) (den * c) = roundHalfEven num den := by
  have hlt : 2 * (num % den * c) < den * c ↔ 2 * (num % den) < den := by
    rw [← mul_assoc, Nat.mul_lt_mul_right hc]
  have heq : 2 * (num % den * c) = den * c ↔ 2 * (num % den) = den := by
    rw [← mul_assoc, Nat.mul_left_inj hc.ne']
  simp only [roundHalfEven, Nat.mul_div_mul_right _ _ hc, Nat.mul_mod_mul_right, hlt, heq]

theorem div_le_roundHalfEven (num den : ℕ) : num / den ≤ roundHalfEven num den := by
  unfold roundHalfEven
  dsimp only
  split <;> omega

/-- Just above an even multiple a number is taken down to it, up to half of the way to the next. -/
theorem roundHalfEven_of_le (hq : q % 2 = 0) (hden : 0 < den) (hr : 2 * r ≤ den) :
    roundHalfEven (den * q + r) den = q := by
  have hlt : r < den := by omega
  unfold roundHalfEven
  rw [Nat.mul_add_div hden, Nat.div_eq_of_lt hlt, Nat.mul_add_mod, Nat.mod_eq_of_lt hlt, if_pos]
  · rfl
  · omega

theorem lt_roundHalfEven (hden : 0 < den) (hr : den < 2 * r) :
    q < roundHalfEven (den * q + r) den := by
  unfold roundHalfEven
  dsimp only
  rw [Nat.mul_add_div hden, Nat.mul_add_mod]
  rcases Nat.eq_zero_or_pos (r / den) with hzero | hpos
  · have hlt : r < den := (Nat.div_eq_zero_iff_lt hden).mp hzero
    rw [Nat.mod_eq_of_lt hlt, if_neg (by omega)]
    omega
  · split <;> omega

theorem log2_mul_two_pow (hn : n ≠ 0) (e : ℕ) : (n * 2 ^ e).log2 = n.log2 + e := by
  rw [Nat.log2_eq_iff (Nat.mul_ne_zero hn (Nat.two_pow_pos e).ne')]
  have hlow := Nat.log2_self_le hn
  have hhigh := Nat.lt_log2_self (n := n)
  constructor
  · rw [pow_add]
    exact Nat.mul_le_mul_right _ hlow
  · rw [add_right_comm, pow_add]
    exact Nat.mul_lt_mul_of_pos_right hhigh (Nat.two_pow_pos e)

/-- The unit is two to the power of minus this number. -/
def unitExponent : ℕ :=
  1074

theorem one_eq : one = 2 ^ unitExponent := by
  have h : 1074 = unitExponent := rfl
  unfold one
  rw [h, Nat.pow_eq]

theorem one_pos : 0 < one := by
  rw [one_eq]
  exact Nat.two_pow_pos unitExponent

theorem exponentFor_mul_one (hn : n.log2 = 52 + k) :
    exponentFor (n * one) = k + unitExponent := by
  have hpos : n ≠ 0 := by
    rintro rfl
    rw [Nat.log2_zero] at hn
    omega
  have hlog : (n * one).log2 = 52 + k + unitExponent := by
    rw [one_eq, log2_mul_two_pow hpos, hn]
  have hlarge : 2 ^ 53 ≤ n * one := by
    rw [← Nat.le_log2 (Nat.mul_ne_zero hpos one_pos.ne'), hlog, unitExponent]
    omega
  rw [exponentFor, Nat.pow_eq, if_neg hlarge.not_gt, hlog]
  omega

/-- The significand of a whole number is the number rounded to 53 binary digits; a digit that is
carried beyond them goes into the exponent. -/
theorem nearest?_one (hn : n.log2 = 52 + k) :
    nearest? n 1 =
      if roundHalfEven n (2 ^ k) = Nat.pow 2 53 then ofParts? (Nat.pow 2 52) (k + unitExponent + 1)
      else ofParts? (roundHalfEven n (2 ^ k)) (k + unitExponent) := by
  have hscale : roundHalfEven (n * one) (1 * Nat.pow 2 (k + unitExponent)) =
      roundHalfEven n (2 ^ k) := by
    rw [one_mul, Nat.pow_eq, pow_add, ← one_eq]
    exact roundHalfEven_mul_right n (2 ^ k) one_pos
  unfold nearest?
  rw [Nat.div_one, exponentFor_mul_one hn]
  dsimp only
  rw [hscale]

theorem floor_of_ofParts? {significand : ℕ}
    (h : ofParts? significand (k + unitExponent) = some m) : m.floor = significand * 2 ^ k := by
  unfold ofParts? at h
  split at h
  · obtain rfl := Option.some.inj h
    rw [floor, units, Nat.pow_eq, pow_add, ← one_eq, ← mul_assoc]
    exact Nat.mul_div_cancel _ one_pos
  · cases h

theorem floor_of_nearest?_one (hn : n.log2 = 52 + k) (h : nearest? n 1 = some m) :
    m.floor = roundHalfEven n (2 ^ k) * 2 ^ k := by
  rw [nearest?_one hn] at h
  split at h
  · next hcarry =>
      have hcarried : Nat.pow 2 53 = Nat.pow 2 52 * 2 := rfl
      rw [add_right_comm k unitExponent 1] at h
      rw [floor_of_ofParts? h, hcarry, hcarried, pow_succ', mul_assoc]
  · exact floor_of_ofParts? h

/-- A whole number that has reached a power of two does not fall below it. -/
theorem two_pow_le_floor (hk : 52 ≤ k) (hn : 2 ^ k ≤ n) (h : nearest? n 1 = some m) :
    2 ^ k ≤ m.floor := by
  have hpos : n ≠ 0 := by
    rintro rfl
    exact (Nat.two_pow_pos k).not_ge hn
  have hlog : k ≤ n.log2 := (Nat.le_log2 hpos).mpr hn
  obtain ⟨i, hi⟩ := Nat.exists_eq_add_of_le (hk.trans hlog)
  have hquotient : 2 ^ 52 ≤ n / 2 ^ i := by
    rw [Nat.le_div_iff_mul_le (Nat.two_pow_pos i), ← pow_add, ← hi]
    exact Nat.log2_self_le hpos
  rw [floor_of_nearest?_one hi h]
  calc 2 ^ k ≤ 2 ^ (52 + i) := Nat.pow_le_pow_right two_pos (hi ▸ hlog)
    _ = 2 ^ 52 * 2 ^ i := pow_add 2 52 i
    _ ≤ roundHalfEven n (2 ^ i) * 2 ^ i :=
      Nat.mul_le_mul_right _ (hquotient.trans (div_le_roundHalfEven n (2 ^ i)))

theorem log2_two_pow_add {d : ℕ} (hd : d < 2 ^ k) : (2 ^ k + d).log2 = k := by
  have hpos := Nat.two_pow_pos k
  rw [Nat.log2_eq_iff (by omega), pow_succ]
  omega

theorem two_pow_eq_mul (k : ℕ) : 2 ^ (53 + k) = 2 ^ (k + 1) * 2 ^ 52 := by
  rw [← pow_add]
  congr 1
  omega

/-- Up to half of the way to the next number, a power of two is what a whole number above it is
rounded to. -/
theorem exists_nearest?_two_pow_add {d : ℕ} (hd : d ≤ 2 ^ k) (hk : k + unitExponent < 2045) :
    ∃ m, nearest? (2 ^ (53 + k) + d) 1 = some m ∧ m.floor = 2 ^ (53 + k) := by
  have hsmall : 2 ^ k < 2 ^ (53 + k) := Nat.pow_lt_pow_right one_lt_two (by omega)
  have hlog : (2 ^ (53 + k) + d).log2 = 52 + (k + 1) := by
    rw [log2_two_pow_add (hd.trans_lt hsmall)]
    omega
  have hround : roundHalfEven (2 ^ (53 + k) + d) (2 ^ (k + 1)) = Nat.pow 2 52 := by
    rw [two_pow_eq_mul]
    refine roundHalfEven_of_le (by decide) (Nat.two_pow_pos _) ?_
    rw [pow_succ]
    omega
  obtain ⟨m, hm⟩ : ∃ m, ofParts? (Nat.pow 2 52) (k + 1 + unitExponent) = some m :=
    ⟨_, dif_pos ⟨by decide, by omega, Or.inr le_rfl⟩⟩
  refine ⟨m, ?_, ?_⟩
  · rw [nearest?_one hlog, hround, if_neg (by decide), hm]
  · rw [floor_of_ofParts? hm, Nat.pow_eq, mul_comm, two_pow_eq_mul]

/-- Beyond half of the way to the next number, it is rounded to a number above the power. -/
theorem two_pow_lt_floor (hn : 2 ^ (53 + k) + 2 ^ k < n) (h : nearest? n 1 = some m) :
    2 ^ (53 + k) < m.floor := by
  obtain ⟨d, rfl⟩ := Nat.exists_eq_add_of_le (Nat.le_of_add_right_le hn.le)
  rcases Nat.lt_or_ge d (2 ^ (53 + k)) with hd | hd
  · have hlog : (2 ^ (53 + k) + d).log2 = 52 + (k + 1) := by
      rw [log2_two_pow_add hd]
      omega
    rw [floor_of_nearest?_one hlog h, mul_comm, two_pow_eq_mul]
    refine (Nat.mul_lt_mul_left (Nat.two_pow_pos (k + 1))).mpr ?_
    refine lt_roundHalfEven (Nat.two_pow_pos (k + 1)) ?_
    rw [pow_succ]
    omega
  · have hnext : 2 ^ (53 + k + 1) ≤ 2 ^ (53 + k) + d := by
      rw [pow_succ]
      omega
    calc 2 ^ (53 + k) < 2 ^ (53 + k + 1) := Nat.pow_lt_pow_right one_lt_two (Nat.lt_succ_self _)
      _ ≤ m.floor := two_pow_le_floor (by omega) hnext h

end Magnitude

namespace Binary64

variable {negative : Bool} {n : ℕ} {m : Magnitude}

-- The equation for a number and a quotient does not check: the kernel computes units before it
-- unfolds the function. Between functions it has nothing to compute.
theorem ofQuotient_eq : ofQuotient = fun negative num den =>
    match Magnitude.nearest? num den with
    | some magnitude => finite negative magnitude
    | none => infinite negative :=
  rfl

theorem ofQuotient_of_some {num den : ℕ} (h : Magnitude.nearest? num den = some m) :
    ofQuotient negative num den = finite negative m := by
  rw [ofQuotient_eq]
  simp only [h]

theorem ofQuotient_of_none {num den : ℕ} (h : Magnitude.nearest? num den = none) :
    ofQuotient negative num den = infinite negative := by
  rw [ofQuotient_eq]
  simp only [h]

theorem minValue_eq : Int64.minValue.toInt = -2 ^ 63 :=
  rfl

theorem maxValue_eq : Int64.maxValue.toInt = 2 ^ 63 - 1 :=
  rfl

theorem toInt64?_eq_none_of_floor (h : 2 ^ 63 < m.floor) :
    (finite negative m).toInt64? = none := by
  rw [toInt64?, truncate?, Option.bind_some, if_neg]
  rw [minValue_eq, maxValue_eq]
  split <;> omega

theorem toInt64?_of_floor_eq (h : m.floor = 2 ^ 63) :
    (finite negative m).toInt64? = if negative then some Int64.minValue else none := by
  cases negative <;> rw [toInt64?, truncate?, h] <;> rfl

/-- A whole number from 2⁶³ on is an integer of 64 bits only where it is rounded to -2⁶³. -/
theorem toInt64?_ofQuotient_one (negative : Bool) (hn : 2 ^ 63 ≤ n) :
    (ofQuotient negative n 1).toInt64? =
      if negative = true ∧ n ≤ 2 ^ 63 + 2 ^ 10 then some Int64.minValue else none := by
  rcases Nat.lt_or_ge (2 ^ 63 + 2 ^ 10) n with hfar | hnear
  · rw [if_neg (by omega)]
    rcases hm : Magnitude.nearest? n 1 with _ | m
    · rw [ofQuotient_of_none hm]
      rfl
    · rw [ofQuotient_of_some hm]
      exact toInt64?_eq_none_of_floor (Magnitude.two_pow_lt_floor (k := 10) hfar hm)
  · obtain ⟨d, rfl⟩ := Nat.exists_eq_add_of_le hn
    have hd : d ≤ 2 ^ 10 := by omega
    obtain ⟨m, hm, hfloor⟩ := Magnitude.exists_nearest?_two_pow_add hd (by decide)
    rw [ofQuotient_of_some hm, toInt64?_of_floor_eq hfloor]
    simp only [hnear, and_true]

end Binary64

end StatementSegments
