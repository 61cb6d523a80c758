import StatementSegments.Proofs.NumeralTexts
import StatementSegments.Proofs.QuotedStrings
import StatementSegments.Toml.Reader
import StatementSegments.Toml.Writer

namespace StatementSegments.Toml

open Numeral (IsDigits splitSign_of_isDigits)

/-! Runs of digits -/

section Digits

variable {digits : List Char}

theorem separated?_of_isDigits (h : IsDigits digits) :
    separated? Char.isDigit digits = some digits := by
  obtain ⟨hne, hdigits⟩ := h
  induction digits with
  | nil => exact absurd rfl hne
  | cons c cs ih =>
      obtain ⟨hc, hcs⟩ := List.forall_mem_cons.mp hdigits
      rcases cs with _ | ⟨d, cs⟩
      · rw [separated?, if_pos hc]
      · have hd : d ≠ '_' := by
          rintro rfl
          exact absurd (hcs '_' List.mem_cons_self) (by decide)
        rw [separated?, if_pos hc, ih (List.cons_ne_nil d cs) hcs]
        · rfl
        all_goals grind

theorem afterDate?_of_isDigits (h : IsDigits digits) : afterDate? digits = none := by
  unfold afterDate?
  split
  · exact absurd (h.2 '-' (by simp)) (by decide)
  · rfl

theorem afterTime?_of_isDigits (h : IsDigits digits) : afterTime? digits = none := by
  unfold afterTime? afterClock?
  split
  · exact absurd (h.2 ':' (by simp)) (by decide)
  · rfl

theorem isDateTime_of_isDigits (h : IsDigits digits) : isDateTime digits = false := by
  rw [isDateTime, afterDate?_of_isDigits h]
  simp only [afterTime?_of_isDigits h]
  rfl

theorem radixValue_ten (h : IsDigits digits) :
    radixValue 10 digits = Nat.ofDigitChars 10 digits 0 := by
  rw [radixValue, Nat.ofDigitChars_eq_foldl]
  refine List.foldl_ext _ _ 0 fun n c hc => ?_
  rw [hexValue, if_pos (h.2 c hc)]

theorem decimalInteger?_of_isDigits (h : IsDigits digits)
    (hzero : digits.length = 1 ∨ digits.head? ≠ some '0') :
    decimalInteger? digits = some (ofInteger (Nat.ofDigitChars 10 digits 0)) := by
  rw [decimalInteger?, splitSign_of_isDigits h]
  simp only [decimalDigits?, separated?_of_isDigits h, Option.bind_some, if_pos hzero,
    radixValue_ten h]
  rfl

/-- No letter among digits tells another base. -/
theorem integer?_of_isDigits (h : IsDigits digits) : integer? digits = decimalInteger? digits := by
  unfold integer?
  split
  · exact absurd (h.2 'x' (by simp)) (by decide)
  · exact absurd (h.2 'o' (by simp)) (by decide)
  · exact absurd (h.2 'b' (by simp)) (by decide)
  · rfl

theorem scalarOf?_of_isDigits (h : IsDigits digits)
    (hzero : digits.length = 1 ∨ digits.head? ≠ some '0') :
    scalarOf? digits = some (ofInteger (Nat.ofDigitChars 10 digits 0)) := by
  have htrue : digits ≠ ['t', 'r', 'u', 'e'] := by
    rintro rfl
    exact absurd (h.2 't' (by simp)) (by decide)
  have hfalse : digits ≠ ['f', 'a', 'l', 's', 'e'] := by
    rintro rfl
    exact absurd (h.2 'f' (by simp)) (by decide)
  rw [scalarOf?, if_neg htrue, if_neg hfalse, isDateTime_of_isDigits h,
    if_neg Bool.false_ne_true, integer?_of_isDigits h, decimalInteger?_of_isDigits h hzero]
  rfl

end Digits

/-! Natural numbers -/

theorem isDigits_toDigits (n : ℕ) : IsDigits (Nat.toDigits 10 n) :=
  ⟨Nat.toDigits_ne_nil, fun _ hc => Nat.isDigit_of_mem_toDigits (by decide) (by decide) hc⟩

theorem head?_toDigits_ne {n : ℕ} (h : n ≠ 0) : (Nat.toDigits 10 n).head? ≠ some '0' := by
  induction n using Nat.strongRecOn with
  | ind n ih =>
      rw [Nat.toDigits_eq_if (by decide)]
      split
      · next hn => interval_cases n <;> simp_all
      · next hn =>
          rw [List.head?_append_of_ne_nil _ Nat.toDigits_ne_nil]
          exact ih (n / 10) (by omega) (by omega)

/-- No zero is written before other digits. -/
theorem length_toDigits_or_head? (n : ℕ) :
    (Nat.toDigits 10 n).length = 1 ∨ (Nat.toDigits 10 n).head? ≠ some '0' := by
  rcases eq_or_ne n 0 with rfl | hn
  · exact Or.inl rfl
  · exact Or.inr (head?_toDigits_ne hn)

/-- Integers of 128 bits can be held. -/
theorem ofInteger_natCast {n : ℕ} (h : n < 2 ^ 128) : ofInteger n = .integer n := by
  have hlow : -((Nat.pow 2 127 : ℕ) : ℤ) ≤ n := by omega
  have hhigh : (n : ℤ) < (Nat.pow 2 128 : ℕ) := Int.ofNat_lt.mpr h
  rw [ofInteger, if_pos ⟨hlow, hhigh⟩]

theorem scalarOf?_toDigits {n : ℕ} (h : n < 2 ^ 128) :
    scalarOf? (Nat.toDigits 10 n) = some (.integer n) := by
  rw [scalarOf?_of_isDigits (isDigits_toDigits n) (length_toDigits_or_head? n),
    Nat.ofDigitChars_ten_toDigits, ofInteger_natCast h]

/-! Scalars -/

theorem scalarSpan_append {word : List Char} (hword : ∀ c ∈ word, isWordChar c = true)
    (rest : List Char) : scalarSpan (word ++ '\n' :: rest) = (word, '\n' :: rest) := by
  induction word with
  | nil =>
      rw [List.nil_append, scalarSpan]
      rfl
  | cons c word ih =>
      obtain ⟨hc, hword⟩ := List.forall_mem_cons.mp hword
      rw [List.cons_append, scalarSpan, hc, ih hword]
      rfl

/-- A word that is a scalar ends where its line ends. -/
theorem readScalar_word {word : List Char} (hword : ∀ c ∈ word, isWordChar c = true) {v : Value}
    (hv : scalarOf? word = some v) (rest : List Char) :
    readScalar (word ++ '\n' :: rest) = some (v, '\n' :: rest) := by
  rw [readScalar, scalarSpan_append hword]
  simp only [hv, Option.map_some]

theorem isWordChar_of_isBareKeyChar {c : Char} (h : isBareKeyChar c = true) :
    isWordChar c = true := by
  rw [isWordChar, decide_eq_true_eq]
  intro hc
  simp only [List.mem_cons, List.not_mem_nil, or_false] at hc
  rcases hc with rfl | rfl | rfl | rfl | rfl | rfl | rfl | rfl | rfl | rfl | rfl <;> nomatch h

theorem isWordChar_of_isDigit {c : Char} (h : c.isDigit = true) : isWordChar c = true := by
  apply isWordChar_of_isBareKeyChar
  rw [isBareKeyChar, Char.isAlphanum, h, Bool.or_true, Bool.true_or, Bool.true_or]

/-! Values -/

theorem readPlain_quoted {quote : Char} (h : quote = '"' ∨ quote = '\'') (cs : List Char) :
    readPlain (quote :: cs) =
      (readString (quote :: cs)).map fun (text, rest) => (.string (.ofList text), rest) := by
  rcases h with rfl | rfl <;> rfl

/-- A word that starts with no quote is a scalar. -/
theorem readPlain_word {word : List Char} (hword : ∀ c ∈ word, isWordChar c = true)
    (hhead : ∀ c ∈ word.head?, c ≠ '"' ∧ c ≠ '\'') {v : Value} (hv : scalarOf? word = some v)
    (rest : List Char) : readPlain (word ++ '\n' :: rest) = some (v, '\n' :: rest) := by
  rw [← readScalar_word hword hv rest, readPlain]
  all_goals
    intro cs heq
    rcases word with _ | ⟨c, word⟩
    · exact absurd (List.cons.inj heq).1 (by decide)
    · obtain ⟨rfl, -⟩ := List.cons.inj heq
      simp at hhead

theorem readValue_plain {c : Char} (h : isWordChar c = true) (cs : List Char) :
    readValue (c :: cs) = readPlain (c :: cs) := by
  have hlist : c ≠ '[' := by
    rintro rfl
    nomatch h
  have htable : c ≠ '\x7b' := by
    rintro rfl
    nomatch h
  rw [readValue, readValueWithin]
  all_goals grind

namespace Plain

def toValue : Plain → Value
  | string text => .string text
  | natural n => .integer n
  | boolean b => .boolean b

/-- A number that a reader can hold. -/
def IsHeld : Plain → Prop
  | natural n => n < 2 ^ 128
  | string _ | boolean _ => True

/-- A value starts with no blank, no bracket and no comment. -/
theorem exists_write_eq (p : Plain) : ∃ c cs, p.write = c :: cs ∧ isWordChar c = true := by
  cases p with
  | string text =>
      obtain ⟨quote, cs, hwrite, hquote⟩ := exists_writeString_eq text.toList
      refine ⟨quote, cs, hwrite, ?_⟩
      rcases hquote with rfl | rfl <;> rfl
  | natural n =>
      obtain ⟨c, cs, hwrite⟩ := List.exists_cons_of_ne_nil (isDigits_toDigits n).1
      refine ⟨c, cs, hwrite, isWordChar_of_isDigit ((isDigits_toDigits n).2 c ?_)⟩
      rw [hwrite]
      exact List.mem_cons_self
  | boolean b => cases b <;> exact ⟨_, _, rfl, rfl⟩

theorem readPlain_write {p : Plain} (h : p.IsHeld) (rest : List Char) :
    readPlain (p.write ++ '\n' :: rest) = some (p.toValue, '\n' :: rest) := by
  cases p with
  | string text =>
      have hread := @readString_writeString text.toList ('\n' :: rest) (by simp)
      obtain ⟨quote, cs, hwrite, hquote⟩ := exists_writeString_eq text.toList
      rw [hwrite, List.cons_append] at hread
      rw [write, hwrite, List.cons_append, readPlain_quoted hquote, hread]
      simp only [Option.map_some, String.ofList_toList, toValue]
  | natural n =>
      have hdigits := isDigits_toDigits n
      have hword : ∀ c ∈ Nat.toDigits 10 n, isWordChar c = true :=
        fun c hc => isWordChar_of_isDigit (hdigits.2 c hc)
      refine readPlain_word hword (fun c hc => ?_) (scalarOf?_toDigits h) rest
      have hdigit := hdigits.2 c (List.mem_of_mem_head? hc)
      constructor <;> rintro rfl <;> nomatch hdigit
  | boolean b =>
      have hscalar : scalarOf? (boolean b).write = some (boolean b).toValue := by
        cases b
        · rw [write, scalarOf?, if_neg (by decide), if_pos rfl, toValue]
        · rw [write, scalarOf?, if_pos rfl, toValue]
      have hword : ∀ c ∈ (boolean b).write, isWordChar c = true := by
        cases b <;> simp [write, isWordChar]
      have hhead : ∀ c ∈ (boolean b).write.head?, c ≠ '"' ∧ c ≠ '\'' := by
        cases b <;> simp [write]
      exact readPlain_word hword hhead hscalar rest

/-- What is written for a value is read back as the value, up to the end of the line. -/
theorem readValue_write {p : Plain} (h : p.IsHeld) (rest : List Char) :
    readValue (p.write ++ '\n' :: rest) = some (p.toValue, '\n' :: rest) := by
  obtain ⟨c, cs, hwrite, hc⟩ := p.exists_write_eq
  have hread := readPlain_write h rest
  rw [hwrite, List.cons_append] at hread
  rw [hwrite, List.cons_append, readValue_plain hc, hread]

end Plain

end StatementSegments.Toml
