import Mathlib.Algebra.Order.Field.Power
import Mathlib.Tactic.Positivity
import StatementSegments.Proofs.NumberValue
import StatementSegments.Proofs.RoundedIntegers

namespace StatementSegments

/-- A whole number nearest to a fraction; of two it is the even one. -/
structure IsRounding (x : ℚ) (s : ℕ) : Prop where
  near : |(s : ℚ) - x| ≤ 1 / 2
  even : |(s : ℚ) - x| = 1 / 2 → s % 2 = 0

namespace IsRounding

variable {x : ℚ} {s k n : ℕ}

theorem le_abs_sub (h : IsRounding x s) (hk : k ≠ s) : 1 / 2 ≤ |(k : ℚ) - x| := by
  have hapart : (1 : ℚ) ≤ |(k : ℚ) - s| := by
    have hne : (k : ℤ) - s ≠ 0 := by omega
    exact_mod_cast Int.one_le_abs hne
  have hsum : |(k : ℚ) - s| ≤ |(k : ℚ) - x| + |(s : ℚ) - x| := by
    rw [abs_sub_comm (s : ℚ) x]
    exact abs_sub_le _ _ _
  linarith [h.near]

theorem abs_sub_le (h : IsRounding x s) (k : ℕ) : |(s : ℚ) - x| ≤ |(k : ℚ) - x| := by
  rcases eq_or_ne k s with rfl | hk
  · exact le_rfl
  · exact h.near.trans (h.le_abs_sub hk)

theorem mod_two_of_abs_sub_eq (h : IsRounding x s) (hk : k ≠ s)
    (heq : |(k : ℚ) - x| = |(s : ℚ) - x|) : s % 2 = 0 :=
  h.even (le_antisymm h.near (heq ▸ h.le_abs_sub hk))

/-- Rounding crosses no whole number. -/
theorem le_of_le (h : IsRounding x s) (hn : (n : ℚ) ≤ x) : n ≤ s := by
  have hlow := (abs_le.mp h.near).1
  have hlt : (n : ℚ) < s + 1 := by linarith
  exact Nat.le_of_lt_succ (by exact_mod_cast hlt)

theorem le_of_ge (h : IsRounding x s) (hn : x ≤ n) : s ≤ n := by
  have hhigh := (abs_le.mp h.near).2
  have hlt : (s : ℚ) < n + 1 := by linarith
  exact Nat.le_of_lt_succ (by exact_mod_cast hlt)

end IsRounding

namespace Magnitude

variable {m m' : Magnitude} {q u : ℚ} {num den s e : ℕ}

theorem isRounding_roundHalfEven (num : ℕ) (hden : 0 < den) :
    IsRounding ((num : ℚ) / den) (roundHalfEven num den) := by
  have hpos : (0 : ℚ) < den := by exact_mod_cast hden
  have hsplit : (num : ℚ) / den = (num / den : ℕ) + (num % den : ℕ) / (den : ℚ) := by
    have hnum : (num : ℚ) = den * (num / den : ℕ) + (num % den : ℕ) := by
      exact_mod_cast (Nat.div_add_mod num den).symm
    rw [div_eq_iff hpos.ne', add_mul, div_mul_cancel₀ _ hpos.ne']
    linarith
  have hdown : |((num / den : ℕ) : ℚ) - num / den| = (num % den : ℕ) / (den : ℚ) := by
    rw [hsplit, abs_sub_comm, add_sub_cancel_left, abs_of_nonneg (by positivity)]
  have hup : |((num / den + 1 : ℕ) : ℚ) - num / den| = 1 - (num % den : ℕ) / (den : ℚ) := by
    have hrest : ((num % den : ℕ) : ℚ) / den ≤ 1 := by
      rw [div_le_one hpos]
      exact_mod_cast (Nat.mod_lt num hden).le
    rw [hsplit, Nat.cast_add, Nat.cast_one, add_sub_add_left_eq_sub, abs_of_nonneg (by linarith)]
  have hle : ((num % den : ℕ) : ℚ) / den ≤ 1 / 2 ↔ 2 * (num % den) ≤ den := by
    rw [div_le_div_iff₀ hpos two_pos, one_mul, mul_comm]
    exact_mod_cast Iff.rfl
  have hge : 1 / 2 ≤ ((num % den : ℕ) : ℚ) / den ↔ den ≤ 2 * (num % den) := by
    rw [div_le_div_iff₀ two_pos hpos, one_mul, mul_comm]
    exact_mod_cast Iff.rfl
  unfold roundHalfEven
  dsimp only
  split
  · next hround =>
      refine ⟨?_, ?_⟩
      · rw [hdown, hle]
        omega
      · intro htie
        rw [hdown] at htie
        have := hge.mp htie.ge
        omega
  · next hround =>
      refine ⟨?_, ?_⟩
      · rw [hup]
        have := hge.mpr (by omega)
        linarith
      · intro htie
        rw [hup] at htie
        have := hle.mp (by linarith)
        omega

theorem cast_units (m : Magnitude) : (m.units : ℚ) = m.significand * 2 ^ m.exponent := by
  rw [units, Nat.pow_eq]
  push_cast
  rfl

theorem units_lt (h : m.exponent < e) : m.units < 2 ^ 52 * 2 ^ e := by
  have hsignificand : m.significand < 2 ^ 52 * 2 := m.significand_lt
  calc m.units < 2 ^ 52 * 2 * 2 ^ m.exponent :=
        Nat.mul_lt_mul_of_pos_right hsignificand (Nat.two_pow_pos _)
    _ = 2 ^ 52 * 2 ^ (m.exponent + 1) := by rw [mul_assoc, ← pow_succ']
    _ ≤ 2 ^ 52 * 2 ^ e := Nat.mul_le_mul_left _ (Nat.pow_le_pow_right two_pos h)

theorem le_units (h : m.exponent ≠ 0) : 2 ^ 52 * 2 ^ m.exponent ≤ m.units :=
  Nat.mul_le_mul_right _ (m.normal.resolve_left h)

theorem units_eq_mul (h : e ≤ m.exponent) :
    m.units = m.significand * 2 ^ (m.exponent - e) * 2 ^ e := by
  rw [units, Nat.pow_eq, mul_assoc, ← pow_add, Nat.sub_add_cancel h]

theorem exponent_le_of_units_eq (h : m.units = m'.units) : m'.exponent ≤ m.exponent := by
  by_contra hlt
  rw [not_le] at hlt
  have hlarge := le_units (m := m') (by omega)
  exact absurd (units_lt hlt) (by rw [h]; exact hlarge.not_gt)

/-- Every value has one significand and one exponent. -/
theorem eq_of_units_eq (h : m.units = m'.units) : m = m' := by
  have hexponent : m.exponent = m'.exponent :=
    (exponent_le_of_units_eq h.symm).antisymm (exponent_le_of_units_eq h)
  have hsignificand : m.significand = m'.significand := by
    rw [units, units, hexponent] at h
    exact Nat.eq_of_mul_eq_mul_right (Nat.two_pow_pos _) h
  cases m
  cases m'
  congr

/-- No magnitude is nearer, and where another one is as near the significand is even. -/
structure IsNearest (m : Magnitude) (q : ℚ) : Prop where
  le : ∀ m' : Magnitude, |m.toRat - q| ≤ |m'.toRat - q|
  even : ∀ m' : Magnitude, m' ≠ m → |m'.toRat - q| = |m.toRat - q| → m.significand % 2 = 0

theorem cast_one_pos : (0 : ℚ) < one := by
  exact_mod_cast one_pos

theorem abs_toRat_sub (m : Magnitude) (u : ℚ) : |m.toRat - u / one| = |m.units - u| / one := by
  rw [toRat, ← sub_div, abs_div, abs_of_pos cast_one_pos]

theorem isNearest_div_one_iff : m.IsNearest (u / one) ↔
    (∀ m' : Magnitude, |m.units - u| ≤ |m'.units - u|) ∧
      ∀ m' : Magnitude, m' ≠ m → |m'.units - u| = |m.units - u| → m.significand % 2 = 0 := by
  have hone := cast_one_pos
  constructor
  · rintro ⟨hle, heven⟩
    simp only [abs_toRat_sub, div_le_div_iff_of_pos_right hone, div_left_inj' hone.ne'] at hle heven
    exact ⟨hle, heven⟩
  · rintro ⟨hle, heven⟩
    constructor
    · intro m'
      rw [abs_toRat_sub, abs_toRat_sub, div_le_div_iff_of_pos_right hone]
      exact hle m'
    · intro m' hne heq
      rw [abs_toRat_sub, abs_toRat_sub, div_left_inj' hone.ne'] at heq
      exact heven m' hne heq

theorem abs_mul_two_pow_sub (k e : ℕ) (u : ℚ) :
    |((k * 2 ^ e : ℕ) : ℚ) - u| = |(k : ℚ) - u / 2 ^ e| * 2 ^ e := by
  have hpos : (0 : ℚ) < 2 ^ e := by positivity
  rw [← abs_of_pos hpos, ← abs_mul, abs_of_pos hpos, sub_mul, div_mul_cancel₀ _ hpos.ne']
  push_cast
  rfl

/-- A magnitude is nearest if its significand is rounded and holds as many digits as it can. -/
theorem isNearest_of_isRounding (hm : m.units = s * 2 ^ e) (hs : IsRounding (u / 2 ^ e) s)
    (heven : s % 2 = 0 → m.significand % 2 = 0) (hlarge : e = 0 ∨ 2 ^ 52 * 2 ^ e ≤ u) :
    m.IsNearest (u / one) := by
  have hpos : (0 : ℚ) < 2 ^ e := by positivity
  have hle : ∀ k : ℕ, |(m.units : ℚ) - u| ≤ |((k * 2 ^ e : ℕ) : ℚ) - u| := by
    intro k
    rw [hm, abs_mul_two_pow_sub, abs_mul_two_pow_sub]
    exact mul_le_mul_of_nonneg_right (hs.abs_sub_le k) hpos.le
  -- A magnitude with a smaller exponent lies below a power of two that the fraction has reached.
  have hsmall : ∀ m' : Magnitude, m'.exponent < e → |(m.units : ℚ) - u| < |(m'.units : ℚ) - u| := by
    intro m' hlt
    have hreached : ((2 ^ 52 * 2 ^ e : ℕ) : ℚ) ≤ u := by
      push_cast
      exact hlarge.resolve_left (by omega)
    have hbelow : (m'.units : ℚ) < ((2 ^ 52 * 2 ^ e : ℕ) : ℚ) := by
      exact_mod_cast units_lt hlt
    refine (hle (2 ^ 52)).trans_lt ?_
    rw [abs_of_nonpos (by linarith), abs_of_nonpos (by linarith)]
    linarith
  rw [isNearest_div_one_iff]
  constructor
  · intro m'
    rcases Nat.lt_or_ge m'.exponent e with hlt | hge
    · exact (hsmall m' hlt).le
    · rw [units_eq_mul hge]
      exact hle _
  · intro m' hne heq
    rcases Nat.lt_or_ge m'.exponent e with hlt | hge
    · exact absurd heq (hsmall m' hlt).ne'
    · rw [units_eq_mul hge, hm, abs_mul_two_pow_sub _ e, abs_mul_two_pow_sub s e,
        mul_left_inj' hpos.ne'] at heq
      refine heven (hs.mod_two_of_abs_sub_eq ?_ heq)
      intro hsame
      rw [← hsame, ← units_eq_mul hge] at hm
      exact hne (eq_of_units_eq hm.symm)

/-- Between a magnitude with an even significand and a larger one with an even one lies another. -/
theorem exists_units_between (heven : m.significand % 2 = 0) (heven' : m'.significand % 2 = 0)
    (hlt : m.units < m'.units) : ∃ k : Magnitude, m.units < k.units ∧ k.units < m'.units := by
  have hroom : m.significand + 1 < Nat.pow 2 53 := by
    have hsignificand := m.significand_lt
    have hpow : Nat.pow 2 53 = 2 * 2 ^ 52 := rfl
    omega
  refine ⟨⟨m.significand + 1, m.exponent, hroom, m.exponent_lt,
    m.normal.imp_right fun h => h.trans (Nat.le_succ _)⟩, ?_, ?_⟩
  · exact Nat.mul_lt_mul_of_pos_right (Nat.lt_succ_self _) (Nat.two_pow_pos _)
  · have hexponent : m.exponent ≤ m'.exponent := by
      by_contra hgt
      rw [not_le] at hgt
      exact absurd ((units_lt hgt).trans_le (le_units (by omega))) hlt.not_gt
    rw [units_eq_mul hexponent] at hlt ⊢
    refine Nat.mul_lt_mul_of_pos_right ?_ (Nat.two_pow_pos _)
    have hsignificand := Nat.lt_of_mul_lt_mul_right hlt
    have hdouble : m'.significand * 2 ^ (m'.exponent - m.exponent) % 2 = 0 := by
      rw [Nat.mul_mod, heven', zero_mul, Nat.zero_mod]
    dsimp only at *
    omega

theorem toRat_lt_toRat (h : m.units < m'.units) : m.toRat < m'.toRat := by
  rw [toRat, toRat, div_lt_div_iff_of_pos_right cast_one_pos]
  exact_mod_cast h

theorem IsNearest.not_units_lt (h : m.IsNearest q) (h' : m'.IsNearest q) :
    ¬m.units < m'.units := by
  intro hlt
  have hne : m ≠ m' := by
    rintro rfl
    exact hlt.false
  have heq : |m'.toRat - q| = |m.toRat - q| := le_antisymm (h'.le m) (h.le m')
  obtain ⟨k, hlow, hhigh⟩ :=
    exists_units_between (h.even m' hne.symm heq) (h'.even m hne heq.symm) hlt
  have hlow := toRat_lt_toRat hlow
  have hhigh := toRat_lt_toRat hhigh
  rcases le_total k.toRat q with hk | hk
  · have hfar := h.le k
    rw [abs_of_nonpos (by linarith), abs_of_nonpos (by linarith)] at hfar
    linarith
  · have hfar := h'.le k
    rw [abs_of_nonneg (by linarith), abs_of_nonneg (by linarith)] at hfar
    linarith

theorem IsNearest.unique (h : m.IsNearest q) (h' : m'.IsNearest q) : m = m' :=
  eq_of_units_eq ((not_lt.mp (h'.not_units_lt h)).antisymm (not_lt.mp (h.not_units_lt h')))

theorem toRat_injective : Function.Injective toRat := by
  intro m m' h
  rw [toRat, toRat, div_left_inj' cast_one_pos.ne'] at h
  exact eq_of_units_eq (by exact_mod_cast h)

theorem isNearest_toRat (m : Magnitude) : m.IsNearest m.toRat := by
  constructor
  · intro m'
    rw [sub_self, abs_zero]
    exact abs_nonneg _
  · intro m' hne heq
    rw [sub_self, abs_zero, abs_eq_zero, sub_eq_zero] at heq
    exact absurd (toRat_injective heq) hne

theorem lt_two_pow_exponentFor (n : ℕ) : n < 2 ^ 53 * 2 ^ exponentFor n := by
  unfold exponentFor
  split
  · next hsmall =>
      rw [pow_zero, mul_one]
      exact hsmall
  · next hlarge =>
      have hne : n ≠ 0 := by
        rintro rfl
        simp at hlarge
      have hlog : 53 ≤ n.log2 := (Nat.le_log2 hne).mpr (not_lt.mp hlarge)
      have hexponent : 53 + (n.log2 - 52) = n.log2 + 1 := by omega
      rw [← pow_add, hexponent]
      exact Nat.lt_log2_self

theorem two_pow_exponentFor_le {n : ℕ} (h : exponentFor n ≠ 0) :
    2 ^ 52 * 2 ^ exponentFor n ≤ n := by
  unfold exponentFor at h ⊢
  split at h
  · exact absurd rfl h
  · next hlarge =>
      have hne : n ≠ 0 := by
        rintro rfl
        simp at hlarge
      have hexponent : 52 + (n.log2 - 52) = n.log2 := by omega
      rw [if_neg hlarge, ← pow_add, hexponent]
      exact Nat.log2_self_le hne

/-- The magnitude of a rounded significand. A digit that is carried goes into the exponent. -/
def ofRounded? (significand exponent : ℕ) : Option Magnitude :=
  if significand = Nat.pow 2 53 then ofParts? (Nat.pow 2 52) (exponent + 1)
  else ofParts? significand exponent

theorem nearest?_eq (num den : ℕ) : nearest? num den =
    ofRounded? (roundHalfEven (num * one) (den * 2 ^ exponentFor (num * one / den)))
      (exponentFor (num * one / den)) := by
  unfold nearest? ofRounded?
  rfl

theorem ofParts?_eq_some_iff : ofParts? s e = some m ↔
    m.significand = s ∧ m.exponent = e := by
  unfold ofParts?
  constructor
  · intro h
    split at h
    · obtain rfl := Option.some.inj h
      exact ⟨rfl, rfl⟩
    · cases h
  · rintro ⟨rfl, rfl⟩
    rw [dif_pos ⟨m.significand_lt, m.exponent_lt, m.normal⟩]

theorem ofParts?_eq_none_iff (hs : s < 2 ^ 53) (hnormal : e = 0 ∨ 2 ^ 52 ≤ s) :
    ofParts? s e = none ↔ 2046 ≤ e := by
  unfold ofParts?
  split
  · next h => simpa using h.2.1
  · next h =>
      simp only [true_iff]
      by_contra hlt
      exact h ⟨hs, not_le.mp hlt, hnormal⟩

theorem ofRounded?_eq_some (h : ofRounded? s e = some m) :
    m.units = s * 2 ^ e ∧ (s % 2 = 0 → m.significand % 2 = 0) ∧ e ≤ 2045 ∧
      (s = 2 ^ 53 → e ≤ 2044) := by
  unfold ofRounded? at h
  split at h
  · next hcarry =>
      obtain ⟨hsignificand, hexponent⟩ := ofParts?_eq_some_iff.mp h
      have hlt := m.exponent_lt
      refine ⟨?_, ?_, by omega, by omega⟩
      · have hcarried : Nat.pow 2 53 = 2 ^ 52 * 2 := rfl
        rw [units, hsignificand, hexponent, hcarry, hcarried, mul_assoc, ← pow_succ']
        rfl
      · intro _
        rw [hsignificand]
  · next hcarry =>
      obtain ⟨rfl, rfl⟩ := ofParts?_eq_some_iff.mp h
      have hlt := m.exponent_lt
      exact ⟨rfl, id, by omega, fun hfull => absurd hfull hcarry⟩

theorem ofRounded?_eq_none (hs : s ≤ 2 ^ 53) (hnormal : e = 0 ∨ 2 ^ 52 ≤ s)
    (h : ofRounded? s e = none) : 2046 ≤ e ∨ s = 2 ^ 53 ∧ e = 2045 := by
  unfold ofRounded? at h
  split at h
  · next hcarry =>
      have hlarge := (ofParts?_eq_none_iff (s := Nat.pow 2 52) (by decide) (Or.inr le_rfl)).mp h
      rcases Nat.lt_or_ge e 2046 with hlt | hge
      · exact Or.inr ⟨hcarry, by omega⟩
      · exact Or.inl hge
  · next hcarry =>
      have hlt : s < 2 ^ 53 := lt_of_le_of_ne hs hcarry
      exact Or.inl ((ofParts?_eq_none_iff hlt hnormal).mp h)

/-- Half of the way from the largest magnitude to the power of two behind it. -/
def overflow : ℚ :=
  (2 ^ 54 - 1) * 2 ^ 970

theorem overflow_eq : overflow = (2 ^ 54 - 1) * 2 ^ 2044 / one := by
  have hexponent : 2044 = 970 + unitExponent := rfl
  rw [eq_div_iff cast_one_pos.ne', overflow, hexponent, pow_add, one_eq]
  push_cast
  rw [mul_assoc]

theorem units_lt_of_exponent_le {top : ℕ} (h : m.exponent ≤ top + 1) :
    (m.units : ℚ) < (2 ^ 54 - 1) * 2 ^ top := by
  have hsignificand : (m.significand : ℚ) + 1 ≤ 2 ^ 53 := by
    exact_mod_cast Nat.succ_le_of_lt m.significand_lt
  have hexponent : (2 : ℚ) ^ m.exponent ≤ 2 ^ (top + 1) := pow_le_pow_right₀ one_le_two h
  have hpos : (0 : ℚ) < 2 ^ top := by positivity
  calc (m.units : ℚ) = m.significand * 2 ^ m.exponent := m.cast_units
    _ ≤ (2 ^ 53 - 1) * 2 ^ (top + 1) :=
      mul_le_mul (by linarith) hexponent (by positivity) (by norm_num)
    _ = (2 ^ 54 - 2) * 2 ^ top := by ring
    _ < (2 ^ 54 - 1) * 2 ^ top := mul_lt_mul_of_pos_right (by norm_num) hpos

theorem toRat_lt_overflow (m : Magnitude) : m.toRat < overflow := by
  rw [toRat, overflow_eq, div_lt_div_iff_of_pos_right cast_one_pos]
  exact units_lt_of_exponent_le (Nat.le_of_lt_succ m.exponent_lt)

section Overflow

variable {top : ℕ} (hs : IsRounding (u / 2 ^ e) s)
include hs

theorem lt_overflow (hu : u < 2 ^ 53 * 2 ^ e) (hfits : s ≤ 2 ^ 53) (he : e ≤ top + 1)
    (hfull : s = 2 ^ 53 → e ≤ top) : u < (2 ^ 54 - 1) * 2 ^ top := by
  have hpos : (0 : ℚ) < 2 ^ top := by positivity
  rcases Nat.lt_or_ge top e with hlt | hge
  · obtain rfl : e = top + 1 := by omega
    have hsucc : s + 1 ≤ 2 ^ 53 := by omega
    have hcast : (s : ℚ) + 1 ≤ 2 ^ 53 := by exact_mod_cast hsucc
    have hlow := (abs_le.mp hs.near).1
    have hx : u / 2 ^ (top + 1) < 2 ^ 53 - 1 / 2 := by
      refine lt_of_le_of_ne (by linarith) ?_
      -- On the half the significand would have to be even.
      intro htie
      have hlast : (s : ℚ) + 1 = 2 ^ 53 := by linarith
      have heven : s % 2 = 0 := by
        apply hs.even
        rw [htie, abs_sub_comm, abs_of_nonneg] <;> linarith
      have hsignificand : s + 1 = 2 ^ 53 := by exact_mod_cast hlast
      omega
    rw [div_lt_iff₀ (by positivity), pow_succ (2 : ℚ) top] at hx
    linarith
  · have hpow : (2 : ℚ) ^ e ≤ 2 ^ top := pow_le_pow_right₀ one_le_two hge
    linarith

theorem overflow_le (hlarge : e = 0 ∨ 2 ^ 52 * 2 ^ e ≤ u)
    (h : top + 2 ≤ e ∨ s = 2 ^ 53 ∧ e = top + 1) : (2 ^ 54 - 1) * 2 ^ top ≤ u := by
  have hpos : (0 : ℚ) < 2 ^ top := by positivity
  rcases h with hge | ⟨rfl, rfl⟩
  · have hpow : (2 : ℚ) ^ (top + 2) ≤ 2 ^ e := pow_le_pow_right₀ one_le_two hge
    have hreached := hlarge.resolve_left (by omega)
    rw [pow_add] at hpow
    linarith
  · have hhigh := (abs_le.mp hs.near).2
    have hx : 2 ^ 53 - 1 / 2 ≤ u / 2 ^ (top + 1) := by
      push_cast at hhigh
      linarith
    rw [le_div_iff₀ (by positivity), pow_succ (2 : ℚ) top] at hx
    linarith

end Overflow

/-- What a quotient is rounded to, in units. -/
theorem isRounding_units (num : ℕ) (hden : 0 < den) (e : ℕ) :
    IsRounding ((num : ℚ) / den * one / 2 ^ e) (roundHalfEven (num * one) (den * 2 ^ e)) := by
  have hround := isRounding_roundHalfEven (num * one) (Nat.mul_pos hden (Nat.two_pow_pos e))
  have heq : ((num * one : ℕ) : ℚ) / (den * 2 ^ e : ℕ) = (num : ℚ) / den * one / 2 ^ e := by
    push_cast
    rw [← div_div, mul_div_right_comm]
  rwa [heq] at hround

section Quotients

variable (num : ℕ) (hden : 0 < den)
include hden

theorem div_mul_one_lt :
    (num : ℚ) / den * one < 2 ^ 53 * 2 ^ exponentFor (num * one / den) := by
  have hpos : (0 : ℚ) < den := by exact_mod_cast hden
  have hlt := (Nat.div_lt_iff_lt_mul hden).mp (lt_two_pow_exponentFor (num * one / den))
  rw [← mul_div_right_comm, div_lt_iff₀ hpos]
  exact_mod_cast hlt

theorem le_div_mul_one : exponentFor (num * one / den) = 0 ∨
    2 ^ 52 * 2 ^ exponentFor (num * one / den) ≤ (num : ℚ) / den * one := by
  have hpos : (0 : ℚ) < den := by exact_mod_cast hden
  rw [or_iff_not_imp_left]
  intro hexponent
  have hle := (Nat.le_div_iff_mul_le hden).mp (two_pow_exponentFor_le hexponent)
  rw [← mul_div_right_comm, le_div_iff₀ hpos]
  exact_mod_cast hle

theorem nearest?_spec :
    (∀ m, nearest? num den = some m → (num : ℚ) / den < overflow ∧ m.IsNearest (num / den)) ∧
      (nearest? num den = none → overflow ≤ (num : ℚ) / den) := by
  have hs := isRounding_units num hden (exponentFor (num * one / den))
  have hu := div_mul_one_lt num hden
  have hlarge := le_div_mul_one num hden
  have hq : (num : ℚ) / den = num / den * one / one :=
    (mul_div_cancel_right₀ _ cast_one_pos.ne').symm
  rw [nearest?_eq, hq]
  generalize exponentFor (num * one / den) = e at *
  generalize roundHalfEven (num * one) (den * 2 ^ e) = s at *
  generalize (num : ℚ) / den * one = u at *
  have hfits : s ≤ 2 ^ 53 := by
    apply hs.le_of_ge
    rw [div_le_iff₀ (by positivity)]
    exact_mod_cast hu.le
  have hnormal : e = 0 ∨ 2 ^ 52 ≤ s := by
    refine hlarge.imp_right fun h => hs.le_of_le ?_
    rw [le_div_iff₀ (by positivity)]
    exact_mod_cast h
  rw [overflow_eq, div_lt_div_iff_of_pos_right cast_one_pos,
    div_le_div_iff_of_pos_right cast_one_pos]
  constructor
  · intro m hm
    obtain ⟨hm, heven, he, hfull⟩ := ofRounded?_eq_some hm
    exact ⟨lt_overflow hs hu hfits he hfull, isNearest_of_isRounding hm hs heven hlarge⟩
  · intro hnone
    exact overflow_le hs hlarge (ofRounded?_eq_none hfits hnormal hnone)

end Quotients

theorem isNearest_zero (hq : 0 ≤ q) (hsmall : q * one < 1 / 2) : zero.IsNearest q := by
  have hround : IsRounding (q * one / 2 ^ 0) 0 := by
    have hnonneg : 0 ≤ q * one := mul_nonneg hq cast_one_pos.le
    rw [pow_zero, div_one]
    refine ⟨?_, fun _ => rfl⟩
    rw [Nat.cast_zero, zero_sub, abs_neg, abs_of_nonneg hnonneg]
    exact hsmall.le
  have hnearest : zero.IsNearest (q * one / one) :=
    isNearest_of_isRounding rfl hround (fun _ => rfl) (Or.inl rfl)
  rwa [mul_div_cancel_right₀ _ cast_one_pos.ne'] at hnearest

theorem one_le_overflow : 1 ≤ overflow :=
  one_le_mul_of_one_le_of_one_le (by norm_num) (one_le_pow₀ one_le_two)

end Magnitude

namespace Binary64

variable {negative : Bool} {q : ℚ} {x y : Binary64} {num den : ℕ}

/-- What a fraction with a sign is rounded to. -/
inductive IsRounded (negative : Bool) (q : ℚ) : Binary64 → Prop where
  | finite {m : Magnitude} (hrange : q < Magnitude.overflow) (hnearest : m.IsNearest q) :
      IsRounded negative q (.finite negative m)
  | infinite (hrange : Magnitude.overflow ≤ q) : IsRounded negative q (.infinite negative)

theorem IsRounded.unique (hx : IsRounded negative q x) (hy : IsRounded negative q y) : x = y := by
  cases hx with
  | finite hrange hnearest =>
      cases hy with
      | finite _ hnearest' => rw [hnearest.unique hnearest']
      | infinite hrange' => exact absurd hrange hrange'.not_gt
  | infinite hrange =>
      cases hy with
      | finite hrange' _ => exact absurd hrange' hrange.not_gt
      | infinite _ => rfl

theorem isRounded_ofQuotient (negative : Bool) (num : ℕ) (hden : 0 < den) :
    IsRounded negative (num / den) (ofQuotient negative num den) := by
  obtain ⟨hsome, hnone⟩ := Magnitude.nearest?_spec num hden
  rcases hm : Magnitude.nearest? num den with _ | m
  · rw [ofQuotient_of_none hm]
    exact .infinite (hnone hm)
  · rw [ofQuotient_of_some hm]
    exact .finite (hsome m hm).1 (hsome m hm).2

/-- A number that is exact is rounded to itself. -/
theorem isRounded_toRat (negative : Bool) (m : Magnitude) :
    IsRounded negative m.toRat (.finite negative m) :=
  .finite m.toRat_lt_overflow m.isNearest_toRat

end Binary64

end StatementSegments
