import StatementSegments.Extraction.Bound
import StatementSegments.Proofs.ResolvedExpressions
import StatementSegments.Proofs.StepStreams

namespace StatementSegments

namespace Bound

variable {construct : String} {e : Expression} {b : Bound}

theorem ofExpression_eq_ok (h : ofExpression construct e = .ok b) :
    (∃ span index, e = .parameter span index ∧ b = ofParameter index) ∨
      ∃ span value n, e = .literal span value ∧ value.toInt64? = some n ∧ b = ofLiteral n := by
  cases e with
  | parameter span index =>
      cases h
      exact Or.inl ⟨span, index, rfl, rfl⟩
  | literal span value =>
      unfold ofExpression at h
      cases hn : value.toInt64? with
      | none => simp [hn] at h
      | some n =>
          simp only [hn, Except.ok.injEq] at h
          exact Or.inr ⟨span, value, n, rfl, hn, h.symm⟩
  | column c => cases h
  | complex span text => cases h

theorem ofExpression_of_some {span : Span} {x : Literal} {k : Int64} (h : x.toInt64? = some k) :
    ofExpression construct (.literal span x) = .ok (ofLiteral k) := by
  simp only [ofExpression, h]

theorem ofExpression_eq_error {error : ExtractionError}
    (h : ofExpression construct e = .error error) :
    ∃ text span, error = .unsupported construct text span := by
  cases e with
  | parameter span index => cases h
  | literal span value =>
      unfold ofExpression at h
      cases hn : value.toInt64? with
      | none =>
          simp only [hn, Except.error.injEq] at h
          exact ⟨_, span, h.symm⟩
      | some n => simp [hn] at h
  | column c =>
      cases h
      exact ⟨_, _, rfl⟩
  | complex span text =>
      cases h
      exact ⟨_, _, rfl⟩

end Bound

/-- Only the text of a number says a literal with a value. -/
theorem LiteralKind.Denotes.eq_number {kind : LiteralKind} {text : String} {value : Literal} {q : ℚ}
    (h : kind.Denotes text value) (hq : value.value? = some q) : kind = .number := by
  cases h with
  | integer | decimal => rfl
  | string | boolean | null => cases hq

namespace Statement

variable {s : Statement} {n : Node}

/-- What a marker or a number says of a bound. -/
inductive Denotes (s : Statement) (n : Node) : BoundSource → Prop where
  | parameter {index : Nat} (hrule : n.isRule .parameterMarker = true)
      (hindex : s.markers.number? n.id = some index) : Denotes s n (.parameter index)
  | literal {value : Literal} {q : ℚ} {k : Int64} (hrule : n.isRule .numberLiterals = true)
      (hdenotes : LiteralKind.number.Denotes (Blank.trim (s.tree.textOf n)) value)
      (hvalue : value.value? = some q) (htruncate : k.toInt = truncate q) :
      Denotes s n (.literal k)

/-- A bound is written at a value node, and the value node is nothing but a node that says it. -/
def IsReadFrom (s : Statement) (value : Node) (span : Span) (source : BoundSource) : Prop :=
  span = value.span ∧
    ∃ w, value.NarrowsTo w ∧ (∀ t ∈ value.nodes, t.isToken = true → t ∈ w.nodes) ∧
      s.Denotes w source

/-- The value node is neither a parameter marker nor a number. -/
def SaysNoBound (value : Node) : Prop :=
  ∀ w, value.NarrowsTo w →
    w.isRule .parameterMarker = false ∧ w.isRule .numberLiterals = false

theorem boundAt_eq_ok_iff {construct : String} {value : Node} {b : BoundSegment} :
    (s.boundAt construct value).outcome = .ok b ↔
      ∃ e, (s.expression value).outcome = .ok e ∧
        Bound.ofExpression construct e = .ok b.bound ∧ b.span = e.span := by
  simp only [boundAt, Logged.outcome_bind_eq_ok_iff, Logged.outcome_reporting,
    Logged.outcome_ofExcept, Logged.outcome_pure, Except.ok.injEq]
  constructor
  · rintro ⟨e, he, bound, hbound, rfl⟩
    exact ⟨e, he, hbound, rfl⟩
  · rintro ⟨e, he, hbound, hspan⟩
    exact ⟨e, he, b.bound, hbound, by rw [← hspan]⟩

theorem boundAt_of_number {construct : String} {value node : Node} {x : Literal} {k : Int64}
    (hrule : value.isRule .numberLiterals = false)
    (hmarker : value.solely? .parameterMarker = none)
    (hnode : value.solely? .numberLiterals = some node)
    (hx : LiteralKind.number.Denotes (Blank.trim (s.tree.textOf node)) x)
    (hk : x.toInt64? = some k) :
    (s.boundAt construct value).outcome = .ok ⟨value.span, .ofLiteral k⟩ :=
  boundAt_eq_ok_iff.mpr ⟨_, expression_of_number hrule hmarker hnode hx,
    Bound.ofExpression_of_some hk, rfl⟩

theorem boundAt_eq_error {construct : String} {value : Node} {e : ExtractionError}
    (h : (s.boundAt construct value).outcome = .error e) :
    (s.expression value).outcome = .error e ∨
      ∃ text span, e = .unsupported construct text span := by
  simp only [boundAt, Logged.outcome_bind_eq_error_iff, Logged.outcome_reporting,
    Logged.outcome_ofExcept, Logged.outcome_pure, reduceCtorEq, and_false, exists_false,
    or_false] at h
  rcases h with h | ⟨x, -, h⟩
  · exact Or.inl h
  · exact Or.inr (Bound.ofExpression_eq_error h)

theorem isReadFrom_of_boundAt {construct : String} {value : Node} {b : BoundSegment}
    (h : (s.boundAt construct value).outcome = .ok b) :
    s.IsReadFrom value b.span b.bound.source := by
  obtain ⟨e, he, hbound, hspan⟩ := boundAt_eq_ok_iff.mp h
  have hresolves := s.expression_resolvesTo value
  rw [he] at hresolves
  rcases Bound.ofExpression_eq_ok hbound with
    ⟨span, index, rfl, hb⟩ | ⟨span, literal, k, rfl, hk, hb⟩
  · cases hresolves with
    | parameter hmarker hindex =>
        obtain ⟨hnarrows, hrule⟩ := Node.solely?_eq_some hmarker
        rw [hspan, hb]
        refine ⟨rfl, _, hnarrows, ?_, .parameter hrule hindex⟩
        intro t ht htoken
        exact hnarrows.token_mem ht htoken
  · cases hresolves with
    | literal hmarker hnode hdenotes =>
        obtain ⟨q, hq, htruncate⟩ := Literal.toInt64?_eq_some_iff.mp hk
        obtain rfl := hdenotes.eq_number hq
        obtain ⟨hnarrows, hrule⟩ := Node.solely?_eq_some hnode
        rw [hspan, hb]
        refine ⟨rfl, _, hnarrows, ?_, .literal hrule hdenotes hq htruncate⟩
        intro t ht htoken
        exact hnarrows.token_mem ht htoken

theorem boundAt_error {value : Node} (h : SaysNoBound value) (construct : String) :
    ∃ e, (s.boundAt construct value).outcome = .error e := by
  rcases hb : (s.boundAt construct value).outcome with e | b
  · exact ⟨e, rfl⟩
  · obtain ⟨-, w, hnarrows, -, hdenotes⟩ := isReadFrom_of_boundAt hb
    generalize b.bound.source = source at hdenotes
    cases hdenotes with
    | parameter hrule _ => simp [(h w hnarrows).1] at hrule
    | literal hrule _ _ _ => simp [(h w hnarrows).2] at hrule

theorem scopeOf_eq_ok_iff {clause scope : Node} :
    (s.scopeOf clause).outcome = .ok scope ↔ s.tree.parent? clause.id = some scope := by
  unfold scopeOf
  cases s.tree.parent? clause.id with
  | none => simp
  | some found => simp

theorem top?_eq_some {t : Top} (h : (s.top? n).outcome = .ok (some t)) :
    ∃ clause value b, n.nearest? .top = some clause ∧ clause.nearest? .expr = some value ∧
      (s.boundAt "TOP expression" value).outcome = .ok b ∧ t.span = b.span ∧
      t.bound.source = b.bound.source := by
  unfold top? at h
  rcases hclause : n.nearest? .top with _ | clause
  · simp [hclause] at h
  · simp only [hclause, Logged.outcome_bind_eq_ok_iff, Node.required_eq_ok_iff,
      Logged.outcome_log_bind, Logged.outcome_pure, Except.ok.injEq, Option.some.injEq] at h
    obtain ⟨value, hvalue, b, hb, scope, -, aliasNode, -, rfl⟩ := h
    exact ⟨clause, value, b, rfl, hvalue, hb, rfl, rfl⟩

theorem top?_eq_none_iff :
    (s.top? n).outcome = .ok none ↔ ¬∃ m ∈ n.nodes, m.isRule .top = true := by
  rw [← Node.nearest?_eq_none_iff_not_exists]
  unfold top?
  cases n.nearest? .top with
  | none => simp
  | some clause => simp [Logged.outcome_bind_eq_ok_iff]

theorem top?_error {clause value : Node} {e : ExtractionError}
    (hclause : n.nearest? .top = some clause) (hvalue : clause.nearest? .expr = some value)
    (he : (s.boundAt "TOP expression" value).outcome = .error e) :
    (s.top? n).outcome = .error e := by
  unfold top?
  simp only [hclause]
  rw [Logged.outcome_bind_of_ok (Node.required_eq_ok_iff.mpr hvalue)]
  exact Logged.outcome_bind_of_error he

theorem limit?_eq_some_iff {l : Limit} :
    (s.limit? n).outcome = .ok (some l) ↔
      ∃ clause, n.nearest? .limitClause = some clause ∧ l.span = clause.span ∧
        ((clause.nearest? .limitOffset).mapM (s.boundAt "LIMIT offset")).outcome = .ok l.offset ∧
        ((clause.nearest? .limitRowCount).mapM (s.boundAt "LIMIT row count")).outcome =
          .ok l.rowCount := by
  unfold limit?
  rcases hclause : n.nearest? .limitClause with _ | clause
  · simp
  · simp only [Logged.outcome_bind_eq_ok_iff, Logged.outcome_pure, Except.ok.injEq,
      Option.some.injEq]
    constructor
    · rintro ⟨offset, hoffset, rowCount, hrowCount, rfl⟩
      exact ⟨clause, rfl, rfl, hoffset, hrowCount⟩
    · rintro ⟨_, rfl, hspan, hoffset, hrowCount⟩
      exact ⟨l.offset, hoffset, l.rowCount, hrowCount, by rw [← hspan]⟩

theorem limit?_eq_some {l : Limit} (h : (s.limit? n).outcome = .ok (some l)) :
    ∃ clause, n.nearest? .limitClause = some clause ∧ l.span = clause.span ∧
      (∀ b, l.offset = some b → ∃ value, clause.nearest? .limitOffset = some value ∧
        (s.boundAt "LIMIT offset" value).outcome = .ok b) ∧
      ∀ b, l.rowCount = some b → ∃ value, clause.nearest? .limitRowCount = some value ∧
        (s.boundAt "LIMIT row count" value).outcome = .ok b := by
  obtain ⟨clause, hclause, hspan, hoffset, hrowCount⟩ := limit?_eq_some_iff.mp h
  refine ⟨clause, hclause, hspan, ?_, ?_⟩
  · intro b hb
    rw [hb] at hoffset
    exact Logged.outcome_mapM_option_eq_some_iff.mp hoffset
  · intro b hb
    rw [hb] at hrowCount
    exact Logged.outcome_mapM_option_eq_some_iff.mp hrowCount

theorem limit?_eq_none_iff :
    (s.limit? n).outcome = .ok none ↔ ¬∃ m ∈ n.nodes, m.isRule .limitClause = true := by
  rw [← Node.nearest?_eq_none_iff_not_exists]
  unfold limit?
  cases n.nearest? .limitClause with
  | none => simp
  | some clause => simp [Logged.outcome_bind_eq_ok_iff]

theorem limit?_eq_error_iff {e : ExtractionError} {clause : Node}
    (hclause : n.nearest? .limitClause = some clause) :
    (s.limit? n).outcome = .error e ↔
      (∃ value, clause.nearest? .limitOffset = some value ∧
        (s.boundAt "LIMIT offset" value).outcome = .error e) ∨
      (∃ offset, ((clause.nearest? .limitOffset).mapM (s.boundAt "LIMIT offset")).outcome =
        .ok offset) ∧
        ∃ value, clause.nearest? .limitRowCount = some value ∧
          (s.boundAt "LIMIT row count" value).outcome = .error e := by
  unfold limit?
  simp [hclause, Logged.outcome_bind_eq_error_iff, Logged.outcome_mapM_option_eq_error_iff]

theorem limit?_error {clause value : Node} (hclause : n.nearest? .limitClause = some clause)
    (hvalue : clause.nearest? .limitOffset = some value ∨
      clause.nearest? .limitRowCount = some value) (hsilent : SaysNoBound value) :
    ∃ e, (s.limit? n).outcome = .error e := by
  simp only [limit?_eq_error_iff hclause]
  rcases hvalue with hvalue | hvalue
  · obtain ⟨e, he⟩ := boundAt_error hsilent "LIMIT offset"
    exact ⟨e, Or.inl ⟨value, hvalue, he⟩⟩
  · obtain ⟨e, he⟩ := boundAt_error hsilent "LIMIT row count"
    -- The offset comes first, and a failure there is a failure of the clause as well.
    rcases hoffset : ((clause.nearest? .limitOffset).mapM (s.boundAt "LIMIT offset")).outcome with
      e' | offset
    · exact ⟨e', Or.inl (Logged.outcome_mapM_option_eq_error_iff.mp hoffset)⟩
    · exact ⟨e, Or.inr ⟨⟨offset, rfl⟩, value, hvalue, he⟩⟩

/-- A bound is read from the value node of the nearest clause, and a value node that says no bound
gives no segment. -/
theorem bounds_isReadFrom (s : Statement) (n : Node) :
    (∀ t, (s.top? n).outcome = .ok (some t) →
      ∃ clause value, n.nearest? .top = some clause ∧ clause.nearest? .expr = some value ∧
        s.IsReadFrom value t.span t.bound.source) ∧
    (∀ l, (s.limit? n).outcome = .ok (some l) →
      ∃ clause, n.nearest? .limitClause = some clause ∧
        (∀ b, l.offset = some b → ∃ value, clause.nearest? .limitOffset = some value ∧
          s.IsReadFrom value b.span b.bound.source) ∧
        ∀ b, l.rowCount = some b → ∃ value, clause.nearest? .limitRowCount = some value ∧
          s.IsReadFrom value b.span b.bound.source) ∧
    (∀ clause value, n.nearest? .top = some clause → clause.nearest? .expr = some value →
      SaysNoBound value → ∃ e, (s.top? n).outcome = .error e) ∧
    ∀ clause value, n.nearest? .limitClause = some clause →
      clause.nearest? .limitOffset = some value ∨ clause.nearest? .limitRowCount = some value →
      SaysNoBound value → ∃ e, (s.limit? n).outcome = .error e := by
  refine ⟨?_, ?_, ?_, ?_⟩
  · intro t ht
    obtain ⟨clause, value, b, hclause, hvalue, hb, hspan, hsource⟩ := top?_eq_some ht
    rw [hspan, hsource]
    exact ⟨clause, value, hclause, hvalue, isReadFrom_of_boundAt hb⟩
  · intro l hl
    obtain ⟨clause, hclause, -, hoffset, hrowCount⟩ := limit?_eq_some hl
    refine ⟨clause, hclause, ?_, ?_⟩
    · intro b hb
      obtain ⟨value, hvalue, hread⟩ := hoffset b hb
      exact ⟨value, hvalue, isReadFrom_of_boundAt hread⟩
    · intro b hb
      obtain ⟨value, hvalue, hread⟩ := hrowCount b hb
      exact ⟨value, hvalue, isReadFrom_of_boundAt hread⟩
  · intro clause value hclause hvalue hsilent
    obtain ⟨e, he⟩ := boundAt_error hsilent "TOP expression"
    exact ⟨e, top?_error hclause hvalue he⟩
  · intro clause value hclause hvalue hsilent
    exact limit?_error hclause hvalue hsilent

end Statement

/-- Five halves. -/
def Magnitude.fiveHalves : Magnitude where
  significand := 5 * 2 ^ 50
  exponent := 1023
  significand_lt := by decide
  exponent_lt := by decide
  normal := Or.inr (by decide)

theorem Magnitude.toRat_fiveHalves : fiveHalves.toRat = 5 / 2 := by
  have hunits : fiveHalves.units * 2 = 5 * one := by decide +kernel
  have hone := cast_one_pos
  rw [toRat, div_eq_div_iff hone.ne' two_ne_zero]
  exact_mod_cast hunits

theorem Numeral.writesFraction_fiveHalves : WritesFraction "2.5".toList (5 / 2) := by
  have hdigits : IsDigits (['2'] ++ ['5']) := by decide
  have hvalue : ofDigits (['2'] ++ ['5']) = 25 := rfl
  have hwrites := WritesFraction.pointed hdigits
  have hquotient : (5 / 2 : ℚ) = (25 : ℕ) / 10 ^ ['5'].length := by norm_num
  rw [hvalue, ← hquotient] at hwrites
  exact hwrites

theorem LiteralKind.denotes_fiveHalves :
    number.Denotes "2.5" (.decimal (.finite false .fiveHalves)) := by
  have hround := Binary64.isRounded_toRat false .fiveHalves
  rw [Magnitude.toRat_fiveHalves] at hround
  refine .decimal ?_ (.unsigned (Numeral.writesFraction_fiveHalves.writesUnsigned hround))
  intro n hwrites
  have hnone : Numeral.integer? "2.5".toList = none := rfl
  rw [Numeral.integer?_eq_some_iff.mpr hwrites] at hnone
  cases hnone

def fractionNumber : Node :=
  .rule 9 "numberLiterals" ⟨14, 16⟩ [.token 10 "NUMBER_" ⟨14, 16⟩]

def fractionRowCount : Node :=
  .rule 8 "limitRowCount" ⟨14, 16⟩ [fractionNumber]

def markerOffset : Node :=
  .rule 12 "limitOffset" ⟨25, 25⟩
    [.rule 13 "parameterMarker" ⟨25, 25⟩ [.token 14 "QUESTION_" ⟨25, 25⟩]]

def textTopValue : Node :=
  .rule 3 "expr" ⟨4, 6⟩ [.rule 4 "stringLiterals" ⟨4, 6⟩ [.token 5 "STRING_" ⟨4, 6⟩]]

def textTop : Node :=
  .rule 1 "top" ⟨0, 6⟩ [.token 2 "TOP" ⟨0, 2⟩, textTopValue]

def fractionClause : Node :=
  .rule 6 "limitClause" ⟨8, 25⟩
    [.token 7 "LIMIT" ⟨8, 12⟩, fractionRowCount, .token 11 "OFFSET" ⟨18, 23⟩, markerOffset]

def boundsRoot : Node :=
  .rule 0 "selectClause" ⟨0, 25⟩ [textTop, fractionClause]

/-- A row count with a fraction, an offset that is a parameter, and a text where a number of rows
should be. -/
def boundsStatement : Statement where
  tree := ⟨StatementText.ofString "TOP 'a' LIMIT 2.5 OFFSET ?", boundsRoot⟩
  markers := .ofNode boundsRoot

theorem nearest?_boundsRoot : boundsRoot.nearest? .limitClause = some fractionClause := by
  with_unfolding_all rfl

theorem nearest?_limitOffset : fractionClause.nearest? .limitOffset = some markerOffset := by
  with_unfolding_all rfl

theorem nearest?_limitRowCount :
    fractionClause.nearest? .limitRowCount = some fractionRowCount := by
  with_unfolding_all rfl

theorem boundAt_markerOffset :
    (boundsStatement.boundAt "LIMIT offset" markerOffset).outcome =
      .ok ⟨⟨25, 25⟩, .ofParameter 0⟩ := by
  with_unfolding_all rfl

theorem boundAt_fractionRowCount :
    (boundsStatement.boundAt "LIMIT row count" fractionRowCount).outcome =
      .ok ⟨⟨14, 16⟩, .ofLiteral 2⟩ := by
  have htrim : Blank.trim (boundsStatement.tree.textOf fractionNumber) = "2.5" := rfl
  have hinteger : (Literal.decimal (.finite false .fiveHalves)).toInt64? = some 2 := by
    decide +kernel
  have hnode : fractionRowCount.solely? .numberLiterals = some fractionNumber := rfl
  refine Statement.boundAt_of_number (by decide) rfl hnode ?_ hinteger
  rw [htrim]
  exact LiteralKind.denotes_fiveHalves

theorem limit?_boundsRoot :
    (boundsStatement.limit? boundsRoot).outcome =
      .ok (some ⟨⟨8, 25⟩, some ⟨⟨25, 25⟩, .ofParameter 0⟩, some ⟨⟨14, 16⟩, .ofLiteral 2⟩⟩) := by
  refine Statement.limit?_eq_some_iff.mpr ⟨fractionClause, nearest?_boundsRoot, rfl, ?_, ?_⟩
  · exact Logged.outcome_mapM_option_eq_some_iff.mpr
      ⟨markerOffset, nearest?_limitOffset, boundAt_markerOffset⟩
  · exact Logged.outcome_mapM_option_eq_some_iff.mpr
      ⟨fractionRowCount, nearest?_limitRowCount, boundAt_fractionRowCount⟩

theorem saysNoBound_textTopValue : Statement.SaysNoBound textTopValue := by
  have hall : ∀ w ∈ textTopValue.nodes,
      w.isRule .parameterMarker = false ∧ w.isRule .numberLiterals = false := by
    decide
  exact fun w hw => hall w hw.mem_nodes

theorem boundsStatement_isReadFrom :
    boundsStatement.tree.IsBuilt ∧
      LiteralKind.number.Denotes "2.5" (.decimal (.finite false .fiveHalves)) ∧
      Magnitude.fiveHalves.toRat = 5 / 2 ∧
      (boundsStatement.limit? boundsRoot).outcome =
        .ok (some ⟨⟨8, 25⟩, some ⟨⟨25, 25⟩, .ofParameter 0⟩, some ⟨⟨14, 16⟩, .ofLiteral 2⟩⟩) ∧
      boundsStatement.IsReadFrom markerOffset ⟨25, 25⟩ (.parameter 0) ∧
      boundsStatement.IsReadFrom fractionRowCount ⟨14, 16⟩ (.literal 2) ∧
      Statement.SaysNoBound textTopValue ∧
      ∃ e, (boundsStatement.top? boundsRoot).outcome = .error e := by
  have hbuilt : boundsStatement.tree.IsBuilt :=
    ⟨"TOP 'a' LIMIT 2.5 OFFSET ?", boundsRoot.steps, rfl⟩
  have htop : boundsRoot.nearest? .top = some textTop := by with_unfolding_all rfl
  have htopValue : textTop.nearest? .expr = some textTopValue := by with_unfolding_all rfl
  obtain ⟨-, hreads, hrefused, -⟩ := Statement.bounds_isReadFrom boundsStatement boundsRoot
  obtain ⟨clause, hclause, hoffset, hrowCount⟩ := hreads _ limit?_boundsRoot
  obtain rfl := Option.some.inj (nearest?_boundsRoot.symm.trans hclause)
  obtain ⟨value, hvalue, hoffset⟩ := hoffset _ rfl
  obtain rfl := Option.some.inj (nearest?_limitOffset.symm.trans hvalue)
  obtain ⟨value, hvalue, hrowCount⟩ := hrowCount _ rfl
  obtain rfl := Option.some.inj (nearest?_limitRowCount.symm.trans hvalue)
  exact ⟨hbuilt, LiteralKind.denotes_fiveHalves, Magnitude.toRat_fiveHalves, limit?_boundsRoot,
    hoffset, hrowCount, saysNoBound_textTopValue,
    hrefused textTop textTopValue htop htopValue saysNoBound_textTopValue⟩

end StatementSegments
