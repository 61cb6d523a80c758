import StatementSegments.Proofs.NumeralTexts

namespace StatementSegments

namespace StringLiteral

variable {quote : Char} {cs inner literal text : List Char}

/-- Of quotes that stand together every two are one, from the left on. -/
inductive Collapses (quote : Char) : List Char → List Char → Prop where
  | nil : Collapses quote [] []
  | pair {cs text : List Char} (h : Collapses quote cs text) :
      Collapses quote (quote :: quote :: cs) (quote :: text)
  | single {c : Char} {cs text : List Char} (hpair : c = quote → cs.head? ≠ some quote)
      (h : Collapses quote cs text) : Collapses quote (c :: cs) (c :: text)

/-- The literals with a text between quotes. The letter N may come before single quotes. -/
inductive IsQuoted : Char → List Char → List Char → Prop where
  | singleQuoted (inner : List Char) : IsQuoted '\'' inner ('\'' :: (inner ++ ['\'']))
  | national {n : Char} (hn : n = 'N' ∨ n = 'n') (inner : List Char) :
      IsQuoted '\'' inner (n :: '\'' :: (inner ++ ['\'']))
  | doubleQuoted (inner : List Char) : IsQuoted '"' inner ('"' :: (inner ++ ['"']))

/-- A literal denotes what stands between its quotes, or itself if it has none. -/
inductive Denotes (literal : List Char) : List Char → Prop where
  | quoted {quote : Char} {inner text : List Char} (hquoted : IsQuoted quote inner literal)
      (htext : Collapses quote inner text) : Denotes literal text
  | bare (hbare : ∀ quote inner, ¬IsQuoted quote inner literal) : Denotes literal literal

theorem collapse_eq_iff : collapse quote cs = text ↔ Collapses quote cs text := by
  constructor
  · rintro rfl
    induction cs using collapse.induct quote with
    | case1 c d cs hpair ih =>
        obtain ⟨rfl, rfl⟩ := hpair
        rw [collapse, if_pos ⟨rfl, rfl⟩]
        exact .pair ih
    | case2 c d cs hpair ih =>
        rw [collapse, if_neg hpair]
        refine .single ?_ ih
        rintro rfl heq
        exact hpair ⟨rfl, Option.some.inj heq⟩
    | case3 cs hshort =>
        rcases cs with _ | ⟨c, _ | ⟨d, cs⟩⟩
        · exact .nil
        · exact .single (by simp) .nil
        · exact absurd rfl (hshort c d cs)
  · intro h
    induction h with
    | nil => rfl
    | pair _ ih => rw [collapse, if_pos ⟨rfl, rfl⟩, ih]
    | @single c cs text hpair _ ih =>
        rcases cs with _ | ⟨d, cs⟩
        · rw [← ih]
          rfl
        · rw [collapse, if_neg, ih]
          rintro ⟨rfl, rfl⟩
          exact hpair rfl rfl

theorem between?_eq_some_iff :
    between? quote cs = some inner ↔ cs = quote :: (inner ++ [quote]) := by
  rcases cs with _ | ⟨c, cs⟩
  · simp [between?]
  · rw [between?, Option.ite_none_right_eq_some, List.getLast?_eq_some_iff, Option.some.injEq,
      List.cons.injEq, and_assoc]
    refine and_congr_right fun _ => ?_
    constructor
    · rintro ⟨⟨init, rfl⟩, rfl⟩
      simp
    · rintro rfl
      simp

theorem withoutNational_cases (cs : List Char) :
    (∃ n rest, (n = 'N' ∨ n = 'n') ∧ cs = n :: '\'' :: rest ∧ withoutNational cs = '\'' :: rest) ∨
      withoutNational cs = cs := by
  unfold withoutNational
  split
  · next n rest =>
      split
      · next hn => exact Or.inl ⟨n, rest, hn, rfl, rfl⟩
      · exact Or.inr rfl
  · exact Or.inr rfl

theorem withoutNational_cons {c : Char} (hc : c ≠ 'N' ∧ c ≠ 'n') (cs : List Char) :
    withoutNational (c :: cs) = c :: cs := by
  rcases withoutNational_cases (c :: cs) with ⟨n, rest, hn, heq, -⟩ | h
  · obtain ⟨rfl, -⟩ := List.cons.inj heq
    exact absurd hn (not_or.mpr hc)
  · exact h

theorem IsQuoted.unquoteChars_eq (h : IsQuoted quote inner literal) :
    unquoteChars literal = collapse quote inner := by
  unfold unquoteChars
  cases h with
  | singleQuoted => rw [withoutNational_cons (by decide), between?_eq_some_iff.mpr rfl]
  | national hn => rw [withoutNational, if_pos hn, between?_eq_some_iff.mpr rfl]
  | doubleQuoted =>
      have hsingle : between? '\'' ('"' :: (inner ++ ['"'])) = none := by simp [between?]
      rw [withoutNational_cons (by decide), hsingle, between?_eq_some_iff.mpr rfl]

theorem unquoteChars_of_bare (h : ∀ quote inner, ¬IsQuoted quote inner literal) :
    unquoteChars literal = literal := by
  have hnone : ∀ inner, withoutNational literal ≠ '\'' :: (inner ++ ['\'']) ∧
      withoutNational literal ≠ '"' :: (inner ++ ['"']) := by
    intro inner
    rcases withoutNational_cases literal with ⟨n, rest, hn, rfl, heq⟩ | heq
    · rw [heq]
      refine ⟨?_, by simp⟩
      intro hrest
      rw [(List.cons.inj hrest).2] at h
      exact h _ _ (.national hn inner)
    · rw [heq]
      constructor
      · rintro rfl
        exact h _ _ (.singleQuoted inner)
      · rintro rfl
        exact h _ _ (.doubleQuoted inner)
  have hbetween : ∀ {quote : Char},
      (∀ inner, withoutNational literal ≠ quote :: (inner ++ [quote])) →
        between? quote (withoutNational literal) = none := by
    intro quote hquote
    rw [Option.eq_none_iff_forall_ne_some]
    exact fun inner hinner => hquote inner (between?_eq_some_iff.mp hinner)
  rw [unquoteChars, hbetween fun inner => (hnone inner).1, hbetween fun inner => (hnone inner).2]

theorem unquoteChars_eq_iff : unquoteChars literal = text ↔ Denotes literal text := by
  constructor
  · rintro rfl
    by_cases hquoted : ∃ quote inner, IsQuoted quote inner literal
    · obtain ⟨quote, inner, hquoted⟩ := hquoted
      rw [hquoted.unquoteChars_eq]
      exact .quoted hquoted (collapse_eq_iff.mp rfl)
    · have hbare : ∀ quote inner, ¬IsQuoted quote inner literal := by simpa using hquoted
      rw [unquoteChars_of_bare hbare]
      exact .bare hbare
  · intro h
    cases h with
    | quoted hquoted htext => rw [hquoted.unquoteChars_eq, collapse_eq_iff.mpr htext]
    | bare hbare => exact unquoteChars_of_bare hbare

theorem unquote_eq_iff {literal text : String} :
    unquote literal = text ↔ Denotes literal.toList text.toList := by
  rw [← unquoteChars_eq_iff, unquote, ← String.toList_inj, String.toList_ofList]

end StringLiteral

namespace LiteralKind

variable {kind : LiteralKind} {text : String} {value : Literal}

/-- What a text says as a literal of a kind. A number that is no integer of 64 bits is a decimal. -/
inductive Denotes : LiteralKind → String → Literal → Prop where
  | integer {text : String} {n : Int64} (hwrites : Numeral.Writes text.toList n.toInt) :
      Denotes .number text (.integer n)
  | decimal {text : String} {x : Binary64}
      (hinteger : ∀ n : Int64, ¬Numeral.Writes text.toList n.toInt)
      (hwrites : Numeral.WritesBinary64 text.toList x) : Denotes .number text (.decimal x)
  | string {text value : String} (hvalue : StringLiteral.Denotes text.toList value.toList) :
      Denotes .string text (.string value)
  | boolean {text : String} {value : Bool} (hvalue : CaselessEq text (toString value)) :
      Denotes .boolean text (.boolean value)
  | null (text : String) : Denotes .null text .null

theorem read?_number_eq_some_iff : number.read? text = some value ↔ number.Denotes text value := by
  have hnone : Numeral.int64? text.toList = none ↔
      ∀ n : Int64, ¬Numeral.Writes text.toList n.toInt := by
    simp only [Option.eq_none_iff_forall_ne_some, ne_eq, Numeral.int64?_eq_some_iff]
  simp only [read?, Option.or_eq_some_iff, Option.map_eq_some_iff, Option.map_eq_none_iff, hnone,
    Numeral.int64?_eq_some_iff, Numeral.binary64?_eq_some_iff]
  constructor
  · rintro (⟨n, hwrites, rfl⟩ | ⟨hinteger, x, hwrites, rfl⟩)
    · exact .integer hwrites
    · exact .decimal hinteger hwrites
  · intro h
    cases h with
    | integer hwrites => exact Or.inl ⟨_, hwrites, rfl⟩
    | decimal hinteger hwrites => exact Or.inr ⟨hinteger, _, hwrites, rfl⟩

theorem read?_boolean_eq_some_iff :
    boolean.read? text = some value ↔ boolean.Denotes text value := by
  unfold read?
  constructor
  · intro h
    dsimp only at h
    split at h
    · next htrue =>
        cases h
        exact .boolean htrue
    · split at h
      · next hfalse =>
          cases h
          exact .boolean hfalse
      · cases h
  · intro h
    cases h with
    | @boolean _ b hvalue =>
        cases b with
        | true => exact if_pos hvalue
        | false =>
            have htrue : ¬CaselessEq text "true" := fun htrue =>
              absurd (hvalue.symm.trans htrue) (by decide)
            exact (if_neg htrue).trans (if_pos hvalue)

/-- What is read is what the text says. -/
theorem read?_eq_some_iff : kind.read? text = some value ↔ kind.Denotes text value := by
  cases kind with
  | number => exact read?_number_eq_some_iff
  | string =>
      rw [read?, Option.some.injEq]
      constructor
      · rintro rfl
        exact .string (StringLiteral.unquote_eq_iff.mp rfl)
      · intro h
        cases h with
        | string hvalue => rw [StringLiteral.unquote_eq_iff.mpr hvalue]
  | boolean => exact read?_boolean_eq_some_iff
  | null =>
      constructor
      · rintro ⟨⟩
        exact .null text
      · rintro ⟨⟩
        rfl

theorem read?_eq_none_iff : kind.read? text = none ↔ ∀ value, ¬kind.Denotes text value := by
  simp only [Option.eq_none_iff_forall_ne_some, ne_eq, read?_eq_some_iff]

end LiteralKind

end StatementSegments
