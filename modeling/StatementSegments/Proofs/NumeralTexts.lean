import Mathlib.Data.List.TakeWhile
import Mathlib.Data.Nat.Digits.Defs
import StatementSegments.Proofs.NearestMagnitudes

namespace StatementSegments

section Runs

variable {α : Type} {p : α → Bool} {as bs : List α}

/-- A run of elements ends with the first one that is none of them. -/
theorem span_append (has : ∀ a ∈ as, p a = true) (hbs : ∀ b ∈ bs.head?, p b = false) :
    (as ++ bs).span p = (as, bs) := by
  rw [List.span_eq_takeWhile_dropWhile, List.takeWhile_append_of_pos has,
    List.dropWhile_append_of_pos has]
  rcases bs with _ | ⟨b, bs⟩
  · simp
  · have hb := hbs b rfl
    simp [hb]

theorem exists_span (p : α → Bool) (cs : List α) :
    ∃ as bs, cs.span p = (as, bs) ∧ cs = as ++ bs ∧ ∀ a ∈ as, p a = true :=
  ⟨cs.takeWhile p, cs.dropWhile p, List.span_eq_takeWhile_dropWhile .., by simp,
    fun _ ha => List.mem_takeWhile_imp ha⟩

end Runs

namespace Numeral

variable {cs digits rest : List Char} {v e : ℤ} {q : ℚ} {x : Binary64} {negative : Bool}

/-- The number that digits denote in base ten, the last one being the units. -/
def ofDigits (digits : List Char) : ℕ :=
  Nat.ofDigits 10 (digits.reverse.map digitValue)

def IsDigits (digits : List Char) : Prop :=
  digits ≠ [] ∧ ∀ c ∈ digits, c.isDigit = true

/-- One or more digits after an optional sign write an integer. -/
inductive Writes : List Char → ℤ → Prop where
  | unsigned {digits : List Char} (hdigits : IsDigits digits) : Writes digits (ofDigits digits)
  | plus {digits : List Char} (hdigits : IsDigits digits) :
      Writes ('+' :: digits) (ofDigits digits)
  | minus {digits : List Char} (hdigits : IsDigits digits) :
      Writes ('-' :: digits) (-ofDigits digits)

/-- Digits, with a point before, between or after them or without one, write a fraction. -/
inductive WritesFraction : List Char → ℚ → Prop where
  | whole {digits : List Char} (hdigits : IsDigits digits) :
      WritesFraction digits (ofDigits digits)
  | pointed {before after : List Char} (hdigits : IsDigits (before ++ after)) :
      WritesFraction (before ++ '.' :: after) (ofDigits (before ++ after) / 10 ^ after.length)

/-- A power of ten is left out or written as an integer after the letter e. -/
inductive WritesExponent : List Char → ℤ → Prop where
  | absent : WritesExponent [] 0
  | present {letter : Char} {cs : List Char} {e : ℤ} (hletter : letter = 'e' ∨ letter = 'E')
      (hinteger : Writes cs e) : WritesExponent (letter :: cs) e

/-- A binary number is written as a decimal that is rounded to it, or by its name. -/
inductive WritesUnsigned (negative : Bool) : List Char → Binary64 → Prop where
  | number {fraction exponent : List Char} {q : ℚ} {e : ℤ} {x : Binary64}
      (hfraction : WritesFraction fraction q) (hexponent : WritesExponent exponent e)
      (hround : Binary64.IsRounded negative (q * 10 ^ e) x) :
      WritesUnsigned negative (fraction ++ exponent) x
  | infinite {word : List Char} (hword : word.map Char.toLower = "inf".toList ∨
      word.map Char.toLower = "infinity".toList) : WritesUnsigned negative word (.infinite negative)
  | undefined {word : List Char} (hword : word.map Char.toLower = "nan".toList) :
      WritesUnsigned negative word .nan

/-- A sign may come before what a binary number is written with. -/
inductive WritesBinary64 : List Char → Binary64 → Prop where
  | unsigned {cs : List Char} {x : Binary64} (h : WritesUnsigned false cs x) : WritesBinary64 cs x
  | plus {cs : List Char} {x : Binary64} (h : WritesUnsigned false cs x) :
      WritesBinary64 ('+' :: cs) x
  | minus {cs : List Char} {x : Binary64} (h : WritesUnsigned true cs x) :
      WritesBinary64 ('-' :: cs) x

theorem valueOf_eq_ofDigits (digits : List Char) : valueOf digits = ofDigits digits := by
  rw [valueOf, ofDigits, List.foldl_eq_foldr_reverse, Nat.ofDigits_eq_foldr, List.foldr_map]
  simp only [Nat.cast_id, Nat.add_comm]

section Integers

theorem splitSign_cons {c : Char} (hminus : c ≠ '-') (hplus : c ≠ '+') (cs : List Char) :
    splitSign (c :: cs) = (false, c :: cs) := by
  unfold splitSign
  split
  · next heq => exact absurd (List.cons.inj heq).1 hminus
  · next heq => exact absurd (List.cons.inj heq).1 hplus
  · rfl

theorem splitSign_of_isDigits (h : IsDigits digits) : splitSign digits = (false, digits) := by
  rcases digits with _ | ⟨c, cs⟩
  · rfl
  · have hc := h.2 c List.mem_cons_self
    refine splitSign_cons ?_ ?_ cs
    · rintro rfl
      cases hc
    · rintro rfl
      cases hc

/-- A minus, a plus or nothing is split off. -/
theorem splitSign_cases (cs : List Char) :
    (∃ rest, cs = '-' :: rest ∧ splitSign cs = (true, rest)) ∨
      (∃ rest, cs = '+' :: rest ∧ splitSign cs = (false, rest)) ∨ splitSign cs = (false, cs) := by
  rcases cs with _ | ⟨c, cs⟩
  · exact Or.inr (Or.inr rfl)
  · by_cases hminus : c = '-'
    · subst hminus
      exact Or.inl ⟨cs, rfl, rfl⟩
    · by_cases hplus : c = '+'
      · subst hplus
        exact Or.inr (Or.inl ⟨cs, rfl, rfl⟩)
      · exact Or.inr (Or.inr (splitSign_cons hminus hplus cs))

theorem isDigits_iff :
    digits ≠ [] ∧ digits.all Char.isDigit = true ↔ IsDigits digits := by
  rw [List.all_eq_true, IsDigits]

instance (digits : List Char) : Decidable (IsDigits digits) :=
  decidable_of_iff _ isDigits_iff

theorem integer?_of_splitSign (h : splitSign cs = (negative, digits)) :
    integer? cs = some v ↔
      IsDigits digits ∧ v = if negative then -(ofDigits digits : ℤ) else ofDigits digits := by
  simp only [integer?, h, valueOf_eq_ofDigits, isDigits_iff, Option.ite_none_right_eq_some,
    Option.some.injEq]
  exact and_congr_right fun _ => eq_comm

theorem integer?_eq_some_iff : integer? cs = some v ↔ Writes cs v := by
  constructor
  · intro h
    rcases splitSign_cases cs with ⟨rest, rfl, hsplit⟩ | ⟨rest, rfl, hsplit⟩ | hsplit
    · obtain ⟨hdigits, rfl⟩ := (integer?_of_splitSign hsplit).mp h
      exact .minus hdigits
    · obtain ⟨hdigits, rfl⟩ := (integer?_of_splitSign hsplit).mp h
      exact .plus hdigits
    · obtain ⟨hdigits, rfl⟩ := (integer?_of_splitSign hsplit).mp h
      exact .unsigned hdigits
  · intro h
    cases h with
    | unsigned hdigits =>
        exact (integer?_of_splitSign (splitSign_of_isDigits hdigits)).mpr ⟨hdigits, rfl⟩
    | plus hdigits => exact (integer?_of_splitSign rfl).mpr ⟨hdigits, rfl⟩
    | minus hdigits => exact (integer?_of_splitSign rfl).mpr ⟨hdigits, rfl⟩

theorem Writes.unique {w : ℤ} (hv : Writes cs v) (hw : Writes cs w) : v = w := by
  rw [← integer?_eq_some_iff] at hv hw
  exact Option.some.inj (hv.symm.trans hw)

theorem int64?_eq_some_iff {n : Int64} : int64? cs = some n ↔ Writes cs n.toInt := by
  rw [int64?, bind_int64_eq_some_iff, integer?_eq_some_iff]

end Integers

section Decimals

variable {s : Scaled}

def Scaled.toRat (s : Scaled) : ℚ :=
  s.digits * 10 ^ s.exponent

theorem Scaled.toRat_nonneg (s : Scaled) : 0 ≤ s.toRat := by
  unfold toRat
  positivity

/-- The digits by a power of ten, both whole. -/
theorem Scaled.toRat_eq (s : Scaled) : s.toRat =
    (s.digits * 10 ^ s.exponent.toNat : ℕ) / (10 ^ (-s.exponent).toNat : ℕ) := by
  rw [toRat]
  obtain ⟨n, hn | hn⟩ := s.exponent.eq_nat_or_neg
  · rw [hn]
    simp
  · rw [hn]
    simp [div_eq_mul_inv]

/-- The powers of ten on both sides of all binary numbers but zero. -/
theorem two_pow_lt_ten_pow :
    2 ^ (Magnitude.unitExponent + 2) < 10 ^ 331 ∧ 2 ^ (54 + 970) ≤ 10 ^ 310 := by
  decide +kernel

/-- A decimal with so small an exponent lies below half a unit. -/
theorem Scaled.toRat_mul_one_lt (h : s.exponent + s.digits.log2 < -330) :
    s.toRat * Magnitude.one < 1 / 2 := by
  obtain ⟨n, hn⟩ := Int.exists_eq_neg_ofNat (a := s.exponent) (by omega)
  obtain ⟨k, rfl⟩ := Nat.exists_eq_add_of_le (show 331 + s.digits.log2 ≤ n by omega)
  have hdigits : s.digits < 2 ^ (s.digits.log2 + 1) := Nat.lt_log2_self
  have hlt : s.digits * Magnitude.one * 2 < 10 ^ (331 + s.digits.log2 + k) := by
    rw [Magnitude.one_eq]
    calc s.digits * 2 ^ Magnitude.unitExponent * 2
        = s.digits * 2 ^ (Magnitude.unitExponent + 1) := by rw [mul_assoc, ← pow_succ]
      _ < 2 ^ (s.digits.log2 + 1) * 2 ^ (Magnitude.unitExponent + 1) :=
        Nat.mul_lt_mul_of_pos_right hdigits (Nat.two_pow_pos _)
      _ = 2 ^ (Magnitude.unitExponent + 2) * 2 ^ s.digits.log2 := by
        rw [← pow_add, ← pow_add]
        congr 1
        omega
      _ ≤ 10 ^ 331 * 10 ^ s.digits.log2 :=
        Nat.mul_le_mul two_pow_lt_ten_pow.1.le (Nat.pow_le_pow_left (by omega) _)
      _ ≤ 10 ^ (331 + s.digits.log2 + k) := by
        rw [← pow_add]
        exact Nat.pow_le_pow_right (by omega) (Nat.le_add_right _ _)
  rw [toRat, hn, zpow_neg, zpow_natCast, ← div_eq_mul_inv, div_mul_eq_mul_div,
    div_lt_div_iff₀ (by positivity) two_pos, one_mul]
  exact_mod_cast hlt

theorem Scaled.isRounded_zero (h : s.digits = 0 ∨ s.exponent + s.digits.log2 < -330) :
    Binary64.IsRounded negative s.toRat (.finite negative .zero) := by
  have hsmall : s.toRat * Magnitude.one < 1 / 2 := by
    rcases h with h | h
    · rw [toRat, h, Nat.cast_zero, zero_mul, zero_mul]
      exact one_half_pos
    · exact toRat_mul_one_lt h
  have hone : (1 : ℚ) ≤ Magnitude.one := by exact_mod_cast Magnitude.one_pos
  refine .finite ?_ (Magnitude.isNearest_zero s.toRat_nonneg hsmall)
  calc s.toRat ≤ s.toRat * Magnitude.one := le_mul_of_one_le_right s.toRat_nonneg hone
    _ < 1 := by linarith
    _ ≤ Magnitude.overflow := Magnitude.one_le_overflow

theorem Scaled.overflow_le (hdigits : s.digits ≠ 0) (h : 310 ≤ s.exponent) :
    Magnitude.overflow ≤ s.toRat := by
  have hone : (1 : ℚ) ≤ s.digits := by exact_mod_cast Nat.one_le_iff_ne_zero.mpr hdigits
  calc Magnitude.overflow ≤ 2 ^ 54 * 2 ^ 970 :=
        mul_le_mul_of_nonneg_right (by linarith) (by positivity)
    _ = 2 ^ (54 + 970) := (pow_add _ _ _).symm
    _ ≤ 10 ^ 310 := by exact_mod_cast two_pow_lt_ten_pow.2
    _ = (10 : ℚ) ^ (310 : ℤ) := (zpow_natCast _ _).symm
    _ ≤ 10 ^ s.exponent := zpow_le_zpow_right₀ (by norm_num) h
    _ ≤ s.digits * 10 ^ s.exponent := le_mul_of_one_le_left (by positivity) hone

theorem Scaled.isRounded_toBinary64 (negative : Bool) (s : Scaled) :
    Binary64.IsRounded negative s.toRat (s.toBinary64 negative) := by
  unfold toBinary64
  split
  · next hzero => exact isRounded_zero hzero
  · next hzero =>
      rw [not_or] at hzero
      split
      · next hlarge => exact .infinite (overflow_le hzero.1 hlarge)
      · rw [toRat_eq]
        exact Binary64.isRounded_ofQuotient _ _ (Nat.pow_pos (by omega))

theorem exponentPart?_eq_some_iff : exponentPart? cs = some e ↔ WritesExponent cs e := by
  constructor
  · intro h
    rcases cs with _ | ⟨letter, cs⟩
    · cases h
      exact .absent
    · rw [exponentPart?, Option.ite_none_right_eq_some, integer?_eq_some_iff] at h
      exact .present h.1 h.2
  · intro h
    cases h with
    | absent => rfl
    | present hletter hinteger =>
        rw [exponentPart?, if_pos hletter]
        exact integer?_eq_some_iff.mpr hinteger

theorem WritesExponent.head?_isDigit (h : WritesExponent cs e) :
    ∀ c ∈ cs.head?, c.isDigit = false ∧ c ≠ '.' := by
  cases h with
  | absent => simp
  | present hletter _ =>
      rintro _ ⟨⟩
      rcases hletter with rfl | rfl <;> decide

theorem fractionPart_of_ne (h : ∀ c ∈ cs.head?, c ≠ '.') : fractionPart cs = ([], cs) := by
  unfold fractionPart
  split
  · exact absurd rfl (h '.' rfl)
  · rfl

theorem toRat_of_parts (before after : List Char) (e : ℤ) :
    Scaled.toRat ⟨valueOf (before ++ after), e - after.length⟩ =
      ofDigits (before ++ after) / 10 ^ after.length * 10 ^ e := by
  rw [Scaled.toRat, valueOf_eq_ofDigits, zpow_sub₀ (by norm_num), zpow_natCast, div_mul_comm,
    mul_comm]

/-- What is read as a decimal is written as a fraction and an exponent. -/
theorem exists_writes_of_scaled? (h : scaled? cs = some s) :
    ∃ fraction exponent q e, cs = fraction ++ exponent ∧ WritesFraction fraction q ∧
      WritesExponent exponent e ∧ q * 10 ^ e = s.toRat := by
  obtain ⟨before, rest, hspan, rfl, hbefore⟩ := exists_span Char.isDigit cs
  by_cases hpoint : ∃ tail, rest = '.' :: tail
  · obtain ⟨tail, rfl⟩ := hpoint
    obtain ⟨after, exponent, htail, rfl, hafter⟩ := exists_span Char.isDigit tail
    simp only [scaled?, hspan, fractionPart, htail, Option.ite_none_left_eq_some,
      Option.map_eq_some_iff, exponentPart?_eq_some_iff] at h
    obtain ⟨hdigits, e, hexponent, rfl⟩ := h
    refine ⟨before ++ '.' :: after, exponent, _, e, by simp, .pointed ⟨hdigits, ?_⟩, hexponent,
      (toRat_of_parts before after e).symm⟩
    exact List.forall_mem_append.mpr ⟨hbefore, hafter⟩
  · have hpart : fractionPart rest = ([], rest) := by
      apply fractionPart_of_ne
      rintro c hc rfl
      exact hpoint ⟨rest.tail, List.eq_cons_of_mem_head? hc⟩
    simp only [scaled?, hspan, hpart, Option.ite_none_left_eq_some, Option.map_eq_some_iff,
      exponentPart?_eq_some_iff, List.append_nil] at h
    obtain ⟨hdigits, e, hexponent, rfl⟩ := h
    refine ⟨before, rest, ofDigits before, e, rfl, .whole ⟨hdigits, hbefore⟩, hexponent, ?_⟩
    simpa using (toRat_of_parts before [] e).symm

theorem scaled?_of_writes {fraction exponent : List Char} (hfraction : WritesFraction fraction q)
    (hexponent : WritesExponent exponent e) :
    ∃ s, scaled? (fraction ++ exponent) = some s ∧ s.toRat = q * 10 ^ e := by
  have hend : ∀ c ∈ exponent.head?, c.isDigit = false := fun c hc =>
    (hexponent.head?_isDigit c hc).1
  have hread := exponentPart?_eq_some_iff.mpr hexponent
  cases hfraction with
  | whole hdigits =>
      have hpart : fractionPart exponent = ([], exponent) :=
        fractionPart_of_ne fun c hc => (hexponent.head?_isDigit c hc).2
      refine ⟨⟨valueOf (fraction ++ []), e - ([] : List Char).length⟩, ?_, ?_⟩
      · rw [scaled?, span_append hdigits.2 hend]
        simp only [hpart, List.append_nil, if_neg hdigits.1, hread, Option.map_some]
      · simpa using toRat_of_parts fraction [] e
  | @pointed before after hdigits =>
      obtain ⟨hbefore, hafter⟩ := List.forall_mem_append.mp hdigits.2
      have hpoint : ∀ c ∈ ('.' :: (after ++ exponent)).head?, c.isDigit = false := by
        rintro _ ⟨⟩
        rfl
      refine ⟨⟨valueOf (before ++ after), e - after.length⟩, ?_, toRat_of_parts before after e⟩
      rw [List.append_assoc, List.cons_append, scaled?, span_append hbefore hpoint]
      simp only [fractionPart, span_append hafter hend, if_neg hdigits.1, hread, Option.map_some]

theorem toLower_of_isDigit {c : Char} (h : c.isDigit = true) : c.toLower = c := by
  simp only [Char.isDigit, Bool.and_eq_true, decide_eq_true_eq] at h
  unfold Char.toLower
  rw [dif_neg]
  rintro ⟨hupper, -⟩
  exact absurd (UInt32.le_trans hupper h.2) (by decide)

/-- A fraction begins with a digit or a point. -/
theorem WritesFraction.exists_cons (h : WritesFraction cs q) :
    ∃ c rest, cs = c :: rest ∧ (c.isDigit = true ∨ c = '.') := by
  cases h with
  | whole hdigits =>
      obtain ⟨c, rest, rfl⟩ := List.exists_cons_of_ne_nil hdigits.1
      exact ⟨c, rest, rfl, Or.inl (hdigits.2 c List.mem_cons_self)⟩
  | @pointed before after hdigits =>
      rcases before with _ | ⟨c, before⟩
      · exact ⟨'.', after, rfl, Or.inr rfl⟩
      · exact ⟨c, _, rfl, Or.inl (hdigits.2 c List.mem_cons_self)⟩

theorem WritesFraction.toLower_ne (h : WritesFraction digits q) {c : Char} {word : List Char}
    (hdigit : c.isDigit = false) (hpoint : c ≠ '.') :
    (digits ++ rest).map Char.toLower ≠ c :: word := by
  obtain ⟨d, tail, rfl, hd⟩ := h.exists_cons
  have hlower : d.toLower = d := by
    rcases hd with hd | rfl
    · exact toLower_of_isDigit hd
    · rfl
  intro heq
  rw [List.cons_append, List.map_cons, hlower] at heq
  obtain ⟨rfl, -⟩ := List.cons.inj heq
  rcases hd with hd | hd
  · simp [hdigit] at hd
  · exact hpoint hd

theorem unsigned?_eq_some_iff : unsigned? negative cs = some x ↔ WritesUnsigned negative cs x := by
  constructor
  · intro h
    unfold unsigned? at h
    dsimp only at h
    split at h
    · next hword =>
        cases h
        exact .infinite hword
    · split at h
      · next hword =>
          cases h
          exact .undefined hword
      · obtain ⟨s, hs, rfl⟩ := Option.map_eq_some_iff.mp h
        obtain ⟨fraction, exponent, q, e, rfl, hfraction, hexponent, hvalue⟩ :=
          exists_writes_of_scaled? hs
        exact .number hfraction hexponent (hvalue ▸ s.isRounded_toBinary64 negative)
  · intro h
    unfold unsigned?
    dsimp only
    cases h with
    | number hfraction hexponent hround =>
        obtain ⟨s, hs, hvalue⟩ := scaled?_of_writes hfraction hexponent
        rw [if_neg, if_neg, hs, Option.map_some]
        · rw [← hvalue] at hround
          exact congrArg some ((s.isRounded_toBinary64 negative).unique hround)
        · exact hfraction.toLower_ne (c := 'n') rfl (by decide)
        · rintro (hword | hword)
          · exact hfraction.toLower_ne (c := 'i') rfl (by decide) hword
          · exact hfraction.toLower_ne (c := 'i') rfl (by decide) hword
    | infinite hword => rw [if_pos hword]
    | undefined hword =>
        rw [if_neg, if_pos hword]
        rw [hword]
        decide

theorem WritesUnsigned.splitSign_eq (h : WritesUnsigned negative cs x) :
    splitSign cs = (false, cs) := by
  have hname : ∀ {c : Char} {word : List Char}, cs.map Char.toLower = c :: word →
      c ≠ '-' → c ≠ '+' → splitSign cs = (false, cs) := by
    intro c word hword hminus hplus
    obtain ⟨d, tail, rfl, rfl, -⟩ := List.map_eq_cons_iff.mp hword
    refine splitSign_cons ?_ ?_ tail
    · rintro rfl
      exact hminus rfl
    · rintro rfl
      exact hplus rfl
  cases h with
  | number hfraction _ _ =>
      obtain ⟨c, tail, rfl, hc⟩ := hfraction.exists_cons
      refine splitSign_cons ?_ ?_ _ <;> rintro rfl <;> revert hc <;> decide
  | infinite hword =>
      rcases hword with hword | hword
      · exact hname hword (by decide) (by decide)
      · exact hname hword (by decide) (by decide)
  | undefined hword => exact hname hword (by decide) (by decide)

theorem binary64?_eq_some_iff : binary64? cs = some x ↔ WritesBinary64 cs x := by
  unfold binary64?
  constructor
  · intro h
    rcases splitSign_cases cs with ⟨rest, rfl, hsplit⟩ | ⟨rest, rfl, hsplit⟩ | hsplit
    · exact .minus (unsigned?_eq_some_iff.mp h)
    · exact .plus (unsigned?_eq_some_iff.mp h)
    · rw [hsplit] at h
      exact .unsigned (unsigned?_eq_some_iff.mp h)
  · intro h
    cases h with
    | unsigned h =>
        rw [h.splitSign_eq]
        exact unsigned?_eq_some_iff.mpr h
    | plus h => exact unsigned?_eq_some_iff.mpr h
    | minus h => exact unsigned?_eq_some_iff.mpr h

theorem WritesFraction.writesUnsigned (h : WritesFraction cs q)
    (hround : Binary64.IsRounded negative q x) : WritesUnsigned negative cs x := by
  rw [← List.append_nil cs]
  refine .number h .absent ?_
  rw [zpow_zero, mul_one]
  exact hround

/-- An integer is written as the binary number nearest to it as well. -/
theorem Writes.writesBinary64 (h : Writes cs v) :
    ∃ (negative : Bool) (n : ℕ), (v = if negative then -(n : ℤ) else n) ∧
      WritesBinary64 cs (.ofQuotient negative n 1) := by
  have hunsigned : ∀ {digits : List Char}, IsDigits digits → ∀ negative : Bool,
      WritesUnsigned negative digits (.ofQuotient negative (ofDigits digits) 1) := by
    intro digits hdigits negative
    have hround := Binary64.isRounded_ofQuotient negative (ofDigits digits) Nat.one_pos
    rw [Nat.cast_one, div_one] at hround
    exact (WritesFraction.whole hdigits).writesUnsigned hround
  cases h with
  | unsigned hdigits => exact ⟨false, _, rfl, .unsigned (hunsigned hdigits false)⟩
  | plus hdigits => exact ⟨false, _, rfl, .plus (hunsigned hdigits false)⟩
  | minus hdigits => exact ⟨true, _, rfl, .minus (hunsigned hdigits true)⟩

end Decimals

end Numeral

end StatementSegments
