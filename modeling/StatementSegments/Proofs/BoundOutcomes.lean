import StatementSegments.Proofs.BoundSources

namespace StatementSegments

/-- A parameter bounds the rows, and so does a number that is an integer of 64 bits once it has lost
its fraction. -/
inductive Expression.GivesBound : Expression → BoundSource → Prop where
  | parameter (span : Span) (index : Nat) : GivesBound (.parameter span index) (.parameter index)
  | number {span : Span} {value : Literal} {q : ℚ} {k : Int64} (hvalue : value.value? = some q)
      (htruncate : k.toInt = truncate q) : GivesBound (.literal span value) (.literal k)

theorem Expression.givesBound_literal_iff {span : Span} {value : Literal} {k : Int64} :
    (literal span value).GivesBound (.literal k) ↔ value.toInt64? = some k := by
  rw [Literal.toInt64?_eq_some_iff]
  constructor
  · intro h
    cases h with
    | number hvalue htruncate => exact ⟨_, hvalue, htruncate⟩
  · rintro ⟨q, hvalue, htruncate⟩
    exact .number hvalue htruncate

/-- What is kept as it is written bounds nothing. -/
theorem Expression.not_givesBound_complex {span : Span} {text : String} (source : BoundSource) :
    ¬(complex span text).GivesBound source := by
  rintro ⟨⟩

namespace Bound

variable {construct : String} {x : Expression}

theorem ofExpression_eq_ok_iff {b : Bound} :
    ofExpression construct x = .ok b ↔ ∃ source, x.GivesBound source ∧ b = ⟨source, false⟩ := by
  constructor
  · intro h
    rcases ofExpression_eq_ok h with ⟨span, index, rfl, rfl⟩ | ⟨span, value, k, rfl, hk, rfl⟩
    · exact ⟨.parameter index, .parameter span index, rfl⟩
    · exact ⟨.literal k, Expression.givesBound_literal_iff.mpr hk, rfl⟩
  · rintro ⟨source, hsource, rfl⟩
    cases hsource with
    | parameter span index => rfl
    | number hvalue htruncate =>
        exact ofExpression_of_some (Literal.toInt64?_eq_some_iff.mpr ⟨_, hvalue, htruncate⟩)

theorem ofExpression_eq_error_iff {e : ExtractionError} :
    ofExpression construct x = .error e ↔
      (∀ source, ¬x.GivesBound source) ∧ e = .unsupported construct x.describe x.span := by
  by_cases hgives : ∃ source, x.GivesBound source
  · obtain ⟨source, hsource⟩ := hgives
    have hok : ofExpression construct x = .ok ⟨source, false⟩ :=
      ofExpression_eq_ok_iff.mpr ⟨source, hsource, rfl⟩
    simp only [hok, reduceCtorEq, false_iff]
    rintro ⟨hnone, -⟩
    exact hnone source hsource
  · have hnone : ∀ source, ¬x.GivesBound source := not_exists.mp hgives
    have herror : ofExpression construct x = .error (.unsupported construct x.describe x.span) := by
      cases x with
      | parameter span index => exact absurd (.parameter span index) (hnone _)
      | literal span value =>
          rcases hvalue : value.toInt64? with _ | k
          · simp only [ofExpression, hvalue]
            rfl
          · exact absurd (Expression.givesBound_literal_iff.mpr hvalue) (hnone _)
      | column c => rfl
      | complex span text => rfl
    rw [herror, Except.error.injEq]
    constructor
    · rintro rfl
      exact ⟨hnone, rfl⟩
    · rintro ⟨-, rfl⟩
      rfl

end Bound

namespace Statement

variable {s : Statement} {construct : String} {value : Node} {x : Expression}
  {source : BoundSource} {b : BoundSegment} {e : ExtractionError}

/-- The node resolves to a parameter, or to a number that is an integer of 64 bits. -/
def ResolvesToBound (s : Statement) (value : Node) (source : BoundSource) : Prop :=
  ∃ x, (s.expression value).outcome = .ok x ∧ x.GivesBound source

/-- Why a node gives no bound: it cannot be resolved, or it resolves to something else. -/
inductive FailsAsBound (s : Statement) (construct : String) (value : Node) :
    ExtractionError → Prop where
  | unresolved {e : ExtractionError} (he : (s.expression value).outcome = .error e) :
      FailsAsBound s construct value e
  | unsupported {x : Expression} (hx : (s.expression value).outcome = .ok x)
      (hnone : ∀ source, ¬x.GivesBound source) :
      FailsAsBound s construct value (.unsupported construct x.describe x.span)

theorem resolvesToBound_of_integer {node : Node} {k : Int64}
    (hrule : value.isRule .numberLiterals = false)
    (hmarker : value.solely? .parameterMarker = none)
    (hnode : value.solely? .numberLiterals = some node)
    (hwrites : Numeral.Writes (Blank.trim (s.tree.textOf node)).toList k.toInt) :
    s.ResolvesToBound value (.literal k) :=
  ⟨_, expression_of_number hrule hmarker hnode (.integer hwrites),
    Expression.givesBound_literal_iff.mpr rfl⟩

/-- What gives a bound stands for the whole value node. -/
theorem span_eq_of_givesBound (hx : (s.expression value).outcome = .ok x)
    (hsource : x.GivesBound source) : x.span = value.span := by
  have hresolves := s.expression_resolvesTo value
  rw [hx] at hresolves
  cases hsource with
  | parameter span index =>
      cases hresolves with
      | parameter hmarker hindex => rfl
  | number hvalue htruncate =>
      cases hresolves with
      | literal hmarker hnode hread => rfl

theorem boundAt_eq_ok_iff_resolvesToBound :
    (s.boundAt construct value).outcome = .ok b ↔
      ∃ source, s.ResolvesToBound value source ∧ b = ⟨value.span, ⟨source, false⟩⟩ := by
  simp only [boundAt_eq_ok_iff, Bound.ofExpression_eq_ok_iff]
  constructor
  · rintro ⟨x, hx, ⟨source, hsource, hbound⟩, hspan⟩
    refine ⟨source, ⟨x, hx, hsource⟩, ?_⟩
    rw [← span_eq_of_givesBound hx hsource, ← hspan, ← hbound]
  · rintro ⟨source, ⟨x, hx, hsource⟩, rfl⟩
    exact ⟨x, hx, ⟨source, hsource, rfl⟩, (span_eq_of_givesBound hx hsource).symm⟩

theorem boundAt_eq_error_iff_failsAsBound :
    (s.boundAt construct value).outcome = .error e ↔ s.FailsAsBound construct value e := by
  simp only [boundAt, Logged.outcome_bind_eq_error_iff, Logged.outcome_reporting,
    Logged.outcome_ofExcept, Logged.outcome_pure, reduceCtorEq, and_false, exists_false, or_false,
    Bound.ofExpression_eq_error_iff]
  constructor
  · rintro (he | ⟨x, hx, hnone, rfl⟩)
    · exact .unresolved he
    · exact .unsupported hx hnone
  · intro h
    cases h with
    | unresolved he => exact Or.inl he
    | unsupported hx hnone => exact Or.inr ⟨_, hx, hnone, rfl⟩

end Statement

end StatementSegments
