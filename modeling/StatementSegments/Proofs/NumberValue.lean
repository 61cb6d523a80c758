import Mathlib.Data.Rat.Floor
import StatementSegments.Segment.Literal

namespace StatementSegments

/-- A rational number without its fraction. -/
def truncate (q : ℚ) : ℤ :=
  if 0 ≤ q then ⌊q⌋ else ⌈q⌉

theorem truncate_natCast_div (n d : ℕ) : truncate ((n : ℚ) / d) = n / d := by
  have hnonneg : (0 : ℚ) ≤ (n : ℚ) / d := by positivity
  rw [truncate, if_pos hnonneg, Rat.floor_natCast_div_natCast]

theorem truncate_neg (q : ℚ) : truncate (-q) = -truncate q := by
  unfold truncate
  rcases lt_trichotomy 0 q with hpos | rfl | hneg
  · rw [if_neg (by linarith), if_pos hpos.le, Int.ceil_neg]
  · simp
  · rw [if_pos (by linarith), if_neg (by linarith), Int.floor_neg]

/-- An integer that lies in the range of 64 bits is kept as it is. -/
theorem bind_int64_eq_some_iff {o : Option ℤ} {n : Int64} :
    (o.bind fun k => if Int64.minValue.toInt ≤ k ∧ k ≤ Int64.maxValue.toInt then
      some (Int64.ofInt k) else none) = some n ↔ o = some n.toInt := by
  rw [Option.bind_eq_some_iff]
  constructor
  · rintro ⟨k, hk, hn⟩
    split at hn
    · next hrange =>
        obtain rfl := Option.some.inj hn
        have hlt : k < 2 ^ 63 := Int.lt_of_le_sub_one hrange.2
        rw [hk, Int64.toInt_ofInt_of_le hrange.1 hlt]
    · cases hn
  · intro h
    refine ⟨n.toInt, h, ?_⟩
    rw [if_pos ⟨n.minValue_le_toInt, n.toInt_le⟩, Int64.ofInt_toInt]

namespace Magnitude

def toRat (m : Magnitude) : ℚ :=
  m.units / one

theorem truncate_toRat (m : Magnitude) : truncate m.toRat = m.floor := by
  rw [toRat, truncate_natCast_div, floor]
  rfl

end Magnitude

namespace Binary64

/-- The value of a finite number. -/
def toRat? : Binary64 → Option ℚ
  | finite negative magnitude => some (if negative then -magnitude.toRat else magnitude.toRat)
  | _ => none

theorem truncate?_eq (x : Binary64) : x.truncate? = x.toRat?.map StatementSegments.truncate := by
  cases x with
  | nan => rfl
  | infinite negative => rfl
  | finite negative magnitude =>
      cases negative <;> simp [truncate?, toRat?, truncate_neg, Magnitude.truncate_toRat]

theorem toInt64?_eq_some_iff {x : Binary64} {n : Int64} :
    x.toInt64? = some n ↔ x.truncate? = some n.toInt := by
  rw [toInt64?, bind_int64_eq_some_iff]

end Binary64

namespace Literal

/-- The value of a number; other literals have none. -/
def value? : Literal → Option ℚ
  | integer value => some value.toInt
  | decimal value => value.toRat?
  | _ => none

theorem toInt64?_eq_some_iff {x : Literal} {n : Int64} :
    x.toInt64? = some n ↔ ∃ q, x.value? = some q ∧ n.toInt = truncate q := by
  cases x with
  | integer value => simp [toInt64?, value?, truncate, ← Int64.toInt_inj, eq_comm]
  | decimal value =>
      rw [toInt64?, value?, Binary64.toInt64?_eq_some_iff, Binary64.truncate?_eq,
        Option.map_eq_some_iff]
      simp only [eq_comm]
  | string value => simp [toInt64?, value?]
  | boolean value => simp [toInt64?, value?]
  | null => simp [toInt64?, value?]

end Literal

end StatementSegments
