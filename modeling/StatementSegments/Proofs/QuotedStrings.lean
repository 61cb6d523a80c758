import Mathlib.Data.List.Basic
import Mathlib.Tactic.IntervalCases
import StatementSegments.Toml.Quoted

namespace StatementSegments.Toml

theorem ne_lineEnd_of_isText {c : Char} (h : isText c = true) : c ≠ '\n' := by
  rintro rfl
  exact absurd h (by decide)

theorem ne_return_of_isText {c : Char} (h : isText c = true ∨ c = '\n') : c ≠ '\r' := by
  rintro rfl
  exact absurd h (by decide)

/-! Escapes -/

/-- The character that an escape comes to with the last of its characters. -/
def Escape.decode? : Escape → List Char → Option Char
  | _, [] => none
  | e, c :: cs =>
      match e.next? c with
      | some (.inl d) => if cs = [] then some d else none
      | some (.inr e') => e'.decode? cs
      | none => none

/-- A reader that goes on with an escape character by character comes to what the escape means. -/
theorem read_of_decode? {read : Escape → List Char → Option (List Char × List Char)}
    {after : List Char → Option (List Char × List Char)}
    (hread : ∀ {e : Escape} {c : Char} {next : Char ⊕ Escape}, e.next? c = some next → ∀ cs,
      read e (c :: cs) = next.elim (fun d => prepend d (after cs)) fun e' => read e' cs)
    {e : Escape} {code : List Char} {d : Char} (h : e.decode? code = some d) (rest : List Char) :
    read e (code ++ rest) = prepend d (after rest) := by
  induction code generalizing e with
  | nil => nomatch h
  | cons c cs ih =>
      rw [Escape.decode?] at h
      rcases hnext : e.next? c with _ | d' | e' <;> simp only [hnext] at h
      · nomatch h
      · obtain ⟨rfl, hd⟩ := Option.ite_none_right_eq_some.mp h
        rw [List.cons_append, hread hnext, Sum.elim_inl, Option.some.inj hd, List.nil_append]
      · rw [List.cons_append, hread hnext, Sum.elim_inr, ih h]

theorem readBasic_escape {e : Escape} {c : Char} {next : Char ⊕ Escape}
    (h : e.next? c = some next) (cs : List Char) :
    readBasic (some e) (c :: cs) =
      next.elim (fun d => prepend d (readBasic none cs)) fun e' => readBasic (some e') cs := by
  rw [readBasic, h]
  cases next <;> rfl

/-- A character that goes on with an escape ends no line and folds none. -/
theorem readBasicLines_escape {e : Escape} {c : Char} {next : Char ⊕ Escape}
    (h : e.next? c = some next) (cs : List Char) :
    readBasicLines (.escape e) (c :: cs) =
      next.elim (fun d => prepend d (readBasicLines .text cs))
        fun e' => readBasicLines (.escape e') cs := by
  have hc : e = .begun → c ≠ '\n' ∧ c ≠ ' ' ∧ c ≠ '\t' ∧ c ≠ '\r' := by
    rintro rfl
    refine ⟨?_, ?_, ?_, ?_⟩ <;> rintro rfl <;> nomatch h
  rw [readBasicLines, h]
  · cases next <;> rfl
  all_goals grind

/-- Four digits hold every code point below 128, so every control character. -/
theorem decode?_codeDigits_ofNat :
    ∀ n < 128, Escape.begun.decode? ('u' :: codeDigits (Char.ofNat n)) = some (Char.ofNat n) := by
  decide

theorem decode?_codeDigits {c : Char} (h : isText c = false) :
    Escape.begun.decode? ('u' :: codeDigits c) = some c := by
  have hcode : c.toNat < 128 := by
    simp only [isText, Bool.or_eq_false_iff, Bool.and_eq_false_iff, decide_eq_false_iff_not,
      bne_eq_false_iff_eq] at h
    omega
  have := decode?_codeDigits_ofNat c.toNat hcode
  rwa [Char.ofNat_toNat] at this

/-- What is written for a character in a basic form: the character where it can stand for itself,
else an escape that comes to it. -/
inductive IsWrittenAs (lines : Bool) (run : Nat) (c : Char) : List Char → Prop where
  | plain (htext : isText c ∨ lines ∧ c = '\n') (hslash : c ≠ '\\')
      (hquote : c = '"' → lines ∧ run < 2) : IsWrittenAs lines run c [c]
  | escaped (code : List Char) (hcode : Escape.begun.decode? code = some c) :
      IsWrittenAs lines run c ('\\' :: code)

theorem isWrittenAs_encodeChar (lines : Bool) (run : Nat) (c : Char) :
    IsWrittenAs lines run c (encodeChar lines run c) := by
  unfold encodeChar
  split
  -- A line end, a quote or what has no escape of its own may stand for itself.
  case h_3 =>
    split
    · exact .plain (Or.inr ⟨‹_›, rfl⟩) (by decide) fun h => absurd h (by decide)
    · exact .escaped _ rfl
  case h_7 =>
    split
    · exact .plain (Or.inl rfl) (by decide) fun _ => by simp_all
    · exact .escaped _ rfl
  case h_8 =>
    split
    · exact .plain (Or.inl ‹_›) ‹_› fun h => absurd h ‹_›
    · exact .escaped _ (decode?_codeDigits (Bool.eq_false_iff.mpr ‹_›))
  all_goals exact .escaped _ rfl

/-- What is written first for a text is a character of a line, or the line end that the text starts
with; it is a quote over several lines only. -/
theorem exists_encodeText_eq (lines : Bool) (c : Char) (text : List Char) :
    ∃ d ds, encodeText lines 0 (c :: text) = d :: ds ∧ (isText d = true ∨ c = '\n') ∧
      (d = '"' → lines = true) := by
  have hwritten := isWrittenAs_encodeChar lines 0 c
  rw [encodeText]
  generalize encodeChar lines 0 c = written at hwritten
  cases hwritten with
  | plain htext hslash hquote =>
      exact ⟨c, _, rfl, htext.imp_right And.right, fun hc => (hquote hc).1⟩
  | escaped code hcode => exact ⟨'\\', _, rfl, Or.inl rfl, fun hc => absurd hc (by decide)⟩

/-! Basic strings -/

theorem readBasic_of_isWrittenAs {run : Nat} {c : Char} {written : List Char}
    (h : IsWrittenAs false run c written) (rest : List Char) :
    readBasic none (written ++ rest) = prepend c (readBasic none rest) := by
  cases h with
  | plain htext hslash hquote =>
      have hnot : c ≠ '"' := fun hc => nomatch (hquote hc).1
      have htext : isText c = true := by simpa using htext
      rw [List.cons_append, List.nil_append, readBasic, if_neg hnot, if_neg hslash, if_pos htext]
  | escaped code hcode =>
      rw [List.cons_append, readBasic, if_neg (by decide), if_pos rfl,
        read_of_decode? readBasic_escape hcode]

theorem readBasic_encodeText (run : Nat) (text rest : List Char) :
    readBasic none (encodeText false run text ++ '"' :: rest) = some (text, rest) := by
  induction text generalizing run with
  | nil => rw [encodeText, List.nil_append, readBasic, if_pos rfl]
  | cons c text ih =>
      rw [encodeText, List.append_assoc,
        readBasic_of_isWrittenAs (isWrittenAs_encodeChar false run c), ih]
      rfl

/-! Runs of quotes -/

/-- Up to two quotes that no third one follows belong to the text that is read after them. -/
theorem read_replicate {read : List Char → Option (List Char × List Char)} {quote : Char}
    (hread : ∀ {cs}, (∀ cs', cs ≠ quote :: quote :: cs') →
      read (quote :: cs) = prepend quote (read cs))
    {run : Nat} (hrun : run ≤ 2) {d : Char} (hd : d ≠ quote) {cs text rest : List Char}
    (h : read (d :: cs) = some (text, rest)) :
    read (List.replicate run quote ++ d :: cs) = some (List.replicate run quote ++ text, rest) := by
  have hone : read (quote :: d :: cs) = some (quote :: text, rest) := by
    rw [hread (by simp [hd]), h]
    rfl
  interval_cases run
  · exact h
  · exact hone
  · change read (quote :: quote :: d :: cs) = _
    rw [hread (by simp [hd]), hone]
    rfl

/-! Basic strings over several lines -/

/-- A quote that is not the first of three belongs to the text. -/
theorem readBasicLines_quote {cs : List Char} (h : ∀ cs', cs ≠ '"' :: '"' :: cs') :
    readBasicLines .text ('"' :: cs) = prepend '"' (readBasicLines .text cs) := by
  rw [readBasicLines]
  · rfl
  all_goals grind

/-- Up to two quotes may stand before the closing ones. -/
theorem readBasicLines_closing {run : Nat} (hrun : run ≤ 2) {rest : List Char}
    (h : ∀ c ∈ rest.head?, c ≠ '"') :
    readBasicLines .text (List.replicate run '"' ++ '"' :: '"' :: '"' :: rest) =
      some (List.replicate run '"', rest) := by
  interval_cases run <;> simp only [List.replicate, List.nil_append, List.cons_append] <;>
    rw [readBasicLines] <;> grind

theorem IsWrittenAs.quote {run : Nat} {c : Char} (h : IsWrittenAs true run c ['"']) :
    c = '"' ∧ run < 2 := by
  cases h with
  | plain htext hslash hquote => exact ⟨rfl, (hquote rfl).2⟩

theorem readBasicLines_of_isWrittenAs {run : Nat} (hrun : run ≤ 2) {c : Char} {written : List Char}
    (h : IsWrittenAs true run c written) (hwritten : written ≠ ['"']) {cs text rest : List Char}
    (hcs : readBasicLines .text cs = some (text, rest)) :
    readBasicLines .text (List.replicate run '"' ++ (written ++ cs)) =
      some (List.replicate run '"' ++ c :: text, rest) := by
  cases h with
  | plain htext hslash hquote =>
      have hquote : c ≠ '"' := fun hc => hwritten (hc ▸ rfl)
      have htext : isText c ∨ c = '\n' := by simpa using htext
      have hreturn := ne_return_of_isText htext
      rw [List.cons_append, List.nil_append]
      apply read_replicate readBasicLines_quote hrun hquote
      rw [readBasicLines]
      · rw [if_neg hslash, if_pos htext, hcs]
        rfl
      all_goals grind
  | escaped code hcode =>
      rw [List.cons_append]
      apply read_replicate readBasicLines_quote hrun (by decide)
      rw [readBasicLines]
      · rw [if_pos rfl, read_of_decode? readBasicLines_escape hcode, hcs]
        rfl
      all_goals grind

/-- The quotes before a text are held back until it is clear that they close nothing. -/
theorem readBasicLines_encodeText {run : Nat} (hrun : run ≤ 2) (text : List Char)
    {rest : List Char} (h : ∀ c ∈ rest.head?, c ≠ '"') :
    readBasicLines .text
        (List.replicate run '"' ++ (encodeText true run text ++ '"' :: '"' :: '"' :: rest)) =
      some (List.replicate run '"' ++ text, rest) := by
  induction text generalizing run with
  | nil => simpa [encodeText] using readBasicLines_closing hrun h
  | cons c text ih =>
      have hc := isWrittenAs_encodeChar true run c
      rw [encodeText]
      generalize encodeChar true run c = written at hc
      by_cases hwritten : written = ['"']
      · subst hwritten
        obtain ⟨rfl, hrun'⟩ := hc.quote
        simpa [List.replicate_succ'] using ih hrun'
      · rw [if_neg hwritten, List.append_assoc]
        exact readBasicLines_of_isWrittenAs hrun hc hwritten (ih (Nat.zero_le 2))

/-! Literal strings -/

theorem readLiteral_append {text : List Char} (htext : ∀ c ∈ text, isText c ∧ c ≠ '\'')
    (rest : List Char) : readLiteral (text ++ '\'' :: rest) = some (text, rest) := by
  induction text with
  | nil => rfl
  | cons c text ih =>
      obtain ⟨⟨hc, hquote⟩, htext⟩ := List.forall_mem_cons.mp htext
      rw [List.cons_append, readLiteral, if_neg hquote, if_pos hc, ih htext]
      rfl

/-! Literal strings over several lines -/

theorem readLiteralLines_quote {cs : List Char} (h : ∀ cs', cs ≠ '\'' :: '\'' :: cs') :
    readLiteralLines ('\'' :: cs) = prepend '\'' (readLiteralLines cs) := by
  rw [readLiteralLines]
  · rfl
  all_goals grind

theorem readLiteralLines_closing {run : Nat} (hrun : run ≤ 2) {rest : List Char}
    (h : ∀ c ∈ rest.head?, c ≠ '\'') :
    readLiteralLines (List.replicate run '\'' ++ '\'' :: '\'' :: '\'' :: rest) =
      some (List.replicate run '\'', rest) := by
  interval_cases run <;> simp only [List.replicate, List.nil_append, List.cons_append] <;>
    rw [readLiteralLines] <;> grind

theorem le_longestRun (quote : Char) (run : Nat) (text : List Char) :
    run ≤ longestRun quote run text := by
  induction text generalizing run with
  | nil => exact le_rfl
  | cons c text ih =>
      rw [longestRun]
      split
      · exact Nat.le_of_succ_le (ih (run + 1))
      · exact Nat.le_max_left ..

theorem not_mem_of_longestRun_eq_zero {quote : Char} {text : List Char}
    (h : longestRun quote 0 text = 0) : quote ∉ text := by
  induction text with
  | nil => exact List.not_mem_nil
  | cons c text ih =>
      rw [longestRun] at h
      split at h
      · have := le_longestRun quote (0 + 1) text
        omega
      · rw [Nat.zero_max] at h
        simp_all [eq_comm]

theorem readLiteralLines_append {run : Nat} {text : List Char}
    (htext : ∀ c ∈ text, isText c ∨ c = '\n') (hrun : longestRun '\'' run text ≤ 2)
    {rest : List Char} (h : ∀ c ∈ rest.head?, c ≠ '\'') :
    readLiteralLines
        (List.replicate run '\'' ++ (text ++ '\'' :: '\'' :: '\'' :: rest)) =
      some (List.replicate run '\'' ++ text, rest) := by
  induction text generalizing run with
  | nil =>
      rw [longestRun] at hrun
      simpa using readLiteralLines_closing hrun h
  | cons c text ih =>
      obtain ⟨hc, hrest⟩ := List.forall_mem_cons.mp htext
      rw [longestRun] at hrun
      split at hrun
      case isTrue hquote =>
        subst hquote
        simpa [List.replicate_succ'] using ih hrest hrun
      case isFalse hquote =>
        obtain ⟨hrun, hlongest⟩ := Nat.max_le.mp hrun
        have hreturn := ne_return_of_isText hc
        have hread := ih hrest hlongest
        rw [List.replicate_zero, List.nil_append, List.nil_append] at hread
        rw [List.cons_append]
        apply read_replicate readLiteralLines_quote hrun hquote
        rw [readLiteralLines]
        · rw [if_pos hc, hread]
          rfl
        all_goals grind

/-! Forms -/

/-- A text stands in a form without loss. -/
def Form.CanHold (text : List Char) : Form → Prop
  | basic | basicLines => True
  | literal => ∀ c ∈ text, isText c ∧ c ≠ '\''
  | literalLines => (∀ c ∈ text, isText c ∨ c = '\n') ∧ longestRun '\'' 0 text ≤ 2

theorem canHold_formOf (text : List Char) : (formOf text).CanHold text := by
  have hescaped (h : text.any needsEscape = false) : ∀ c ∈ text, isText c ∨ c = '\n' := by
    intro c hc
    have := List.any_eq_false.mp h c hc
    simpa [needsEscape, Classical.or_iff_not_imp_left] using this
  have hline (h : text.contains '\n' = false) : '\n' ∉ text := by
    simpa using h
  unfold formOf
  simp only [Bool.and_eq_true, Bool.not_eq_true', beq_iff_eq, decide_eq_true_eq]
  split_ifs with _ hliteral _ hliteralLines
  · trivial
  · obtain ⟨⟨htext, hlines⟩, hsingles⟩ := hliteral
    intro c hc
    have hend : c ≠ '\n' := fun h => hline hlines (h ▸ hc)
    have hquote : c ≠ '\'' := fun h => not_mem_of_longestRun_eq_zero hsingles (h ▸ hc)
    exact ⟨(hescaped htext c hc).resolve_right hend, hquote⟩
  · trivial
  · exact ⟨hescaped hliteralLines.1, hliteralLines.2⟩
  all_goals trivial

/-- What does not start with three quotes is a string on one line. -/
theorem readString_eq_readLineString {quote : Char} {cs : List Char}
    (h : ∀ cs', cs ≠ quote :: quote :: cs') :
    readString (quote :: cs) = readLineString (quote :: cs) := by
  rw [readString]
  all_goals grind

/-- The line end that is read over after the opening quotes is the one that was written there. -/
theorem dropLineEnd_openingLineEnd {text body : List Char}
    (h : '\n' ∉ text → ∀ c ∈ body.head?, isText c) :
    dropLineEnd (openingLineEnd text ++ body) = body := by
  unfold openingLineEnd
  split
  · rfl
  · rename_i hlines
    rcases body with _ | ⟨c, body⟩
    · rfl
    · have hc := h (by simpa using hlines) c rfl
      have hend := ne_lineEnd_of_isText hc
      have hreturn := ne_return_of_isText (Or.inl hc)
      rw [List.nil_append, dropLineEnd]
      all_goals grind

theorem isText_head?_encodeText {text : List Char} (h : '\n' ∉ text) (rest : List Char) :
    ∀ c ∈ (encodeText true 0 text ++ '"' :: rest).head?, isText c := by
  rcases text with _ | ⟨c, text⟩
  · rintro _ ⟨⟩
    rfl
  · obtain ⟨d, ds, hwritten, htext, -⟩ := exists_encodeText_eq true c text
    have hc : c ≠ '\n' := fun hc => h (hc ▸ List.mem_cons_self)
    rw [hwritten]
    rintro _ ⟨⟩
    exact htext.resolve_right hc

theorem isText_head?_literal {text : List Char} (htext : ∀ c ∈ text, isText c ∨ c = '\n')
    (h : '\n' ∉ text) (rest : List Char) : ∀ c ∈ (text ++ '\'' :: rest).head?, isText c := by
  rcases text with _ | ⟨c, text⟩
  · rintro _ ⟨⟩
    rfl
  · have hc : c ≠ '\n' := fun hc => h (hc ▸ List.mem_cons_self)
    rintro _ ⟨⟩
    exact (htext c List.mem_cons_self).resolve_right hc

theorem encodeText_append_ne {text rest : List Char} (h : ∀ c ∈ rest.head?, c ≠ '"')
    (cs : List Char) : encodeText false 0 text ++ '"' :: rest ≠ '"' :: '"' :: cs := by
  rcases text with _ | ⟨c, text⟩
  · rw [encodeText]
    rintro ⟨⟩
    exact h '"' rfl rfl
  · obtain ⟨d, ds, hwritten, -, hquote⟩ := exists_encodeText_eq false c text
    rw [hwritten]
    intro heq
    nomatch hquote (List.cons.inj heq).1

theorem literal_append_ne {text rest : List Char} (htext : ∀ c ∈ text, isText c ∧ c ≠ '\'')
    (h : ∀ c ∈ rest.head?, c ≠ '\'') (cs : List Char) :
    text ++ '\'' :: rest ≠ '\'' :: '\'' :: cs := by
  rcases text with _ | ⟨c, text⟩
  · rintro ⟨⟩
    exact h '\'' rfl rfl
  · intro heq
    exact (htext c List.mem_cons_self).2 (List.cons.inj heq).1

/-! Strings -/

theorem readString_writeAs {form : Form} {text : List Char} (hform : form.CanHold text)
    {rest : List Char} (hrest : ∀ c ∈ rest.head?, c ≠ '"' ∧ c ≠ '\'') :
    readString (writeAs form text ++ rest) = some (text, rest) := by
  have hdouble : ∀ c ∈ rest.head?, c ≠ '"' := fun c hc => (hrest c hc).1
  have hsingle : ∀ c ∈ rest.head?, c ≠ '\'' := fun c hc => (hrest c hc).2
  cases form with
  | basic =>
      simp only [writeAs, List.append_assoc, List.cons_append, List.nil_append]
      rw [readString_eq_readLineString (encodeText_append_ne hdouble), readLineString,
        readBasic_encodeText]
  | literal =>
      simp only [writeAs, List.append_assoc, List.cons_append, List.nil_append]
      rw [readString_eq_readLineString (literal_append_ne hform hsingle), readLineString,
        readLiteral_append hform]
  | basicLines =>
      simp only [writeAs, List.append_assoc, List.cons_append, List.nil_append]
      rw [readString, dropLineEnd_openingLineEnd fun h => isText_head?_encodeText h _]
      simpa using readBasicLines_encodeText (Nat.zero_le 2) text hdouble
  | literalLines =>
      simp only [writeAs, List.append_assoc, List.cons_append, List.nil_append]
      rw [readString, dropLineEnd_openingLineEnd]
      · simpa using readLiteralLines_append hform.1 hform.2 hsingle
      · exact fun h => isText_head?_literal hform.1 h _

theorem exists_writeString_eq (text : List Char) :
    ∃ quote cs, writeString text = quote :: cs ∧ (quote = '"' ∨ quote = '\'') := by
  rw [writeString]
  cases formOf text
  · exact ⟨'"', _, rfl, Or.inl rfl⟩
  · exact ⟨'\'', _, rfl, Or.inr rfl⟩
  · exact ⟨'"', _, rfl, Or.inl rfl⟩
  · exact ⟨'\'', _, rfl, Or.inr rfl⟩

/-- What is written for a text is read back as the text, and all that follows is left. -/
theorem readString_writeString (text : List Char) {rest : List Char}
    (hrest : ∀ c ∈ rest.head?, c ≠ '"' ∧ c ≠ '\'') :
    readString (writeString text ++ rest) = some (text, rest) :=
  readString_writeAs (canHold_formOf text) hrest

end StatementSegments.Toml
