import StatementSegments.Proofs.BoundOutcomes
import StatementSegments.Proofs.NodeLevels

namespace StatementSegments

namespace Statement

variable {s : Statement} {n clause : Node} {r : Rule} {o : Option BoundSegment}
  {e : ExtractionError}

/-- One of the two parts of a clause. There is none where the rule made no node; otherwise it is the
bound that the nearest such node gives. -/
inductive HasPart (s : Statement) (clause : Node) (r : Rule) : Option BoundSegment → Prop where
  | absent (hnone : ∀ m ∈ clause.nodes, m.isRule r = false) : HasPart s clause r none
  | present {value : Node} {source : BoundSource} (hvalue : clause.IsNearest r value)
      (hsource : s.ResolvesToBound value source) :
      HasPart s clause r (some ⟨value.span, ⟨source, false⟩⟩)

theorem HasPart.isSome_iff (h : s.HasPart clause r o) :
    o.isSome = true ↔ ∃ m ∈ clause.nodes, m.isRule r = true := by
  cases h with
  | absent hnone => simpa using hnone
  | @present value source hvalue hsource =>
      simp only [Option.isSome_some, true_iff]
      exact ⟨value, hvalue.mem_nodes, hvalue.1⟩

theorem HasPart.percent {b : BoundSegment} (h : s.HasPart clause r (some b)) :
    b.bound.percent = false := by
  cases h with
  | present hvalue hsource => rfl

theorem HasPart.encloses {b : BoundSegment} {length : Nat} (h : s.HasPart clause r (some b))
    (hnested : clause.Nested length) : clause.span.Encloses b.span := by
  cases h with
  | present hvalue hsource => exact hnested.encloses hvalue.mem_nodes

section Built

variable (hbuilt : s.tree.IsBuilt)
include hbuilt

theorem mapM_boundAt_eq_ok_iff (hclause : clause ∈ s.tree.nodes) (construct : String) :
    ((clause.nearest? r).mapM (s.boundAt construct)).outcome = .ok o ↔ s.HasPart clause r o := by
  cases o with
  | none =>
      rcases hvalue : clause.nearest? r with _ | value
      · simp only [Option.mapM_none, Logged.outcome_pure, true_iff]
        exact .absent (Node.nearest?_eq_none_iff.mp hvalue)
      · obtain ⟨hmem, hrule⟩ := Node.nearest?_eq_some hvalue
        constructor
        · intro h
          simp [map_eq_pure_bind, Logged.outcome_bind_eq_ok_iff] at h
        · intro h
          cases h with
          | absent hnone => simp [hnone value hmem] at hrule
  | some b =>
      rw [Logged.outcome_mapM_option_eq_some_iff]
      simp only [boundAt_eq_ok_iff_resolvesToBound, hbuilt.nearest?_eq_some_iff hclause]
      constructor
      · rintro ⟨value, hvalue, source, hsource, rfl⟩
        exact .present hvalue hsource
      · intro h
        cases h with
        | present hvalue hsource => exact ⟨_, hvalue, _, hsource, rfl⟩

theorem not_hasPart (hclause : clause ∈ s.tree.nodes) {value : Node}
    (hvalue : clause.IsNearest r value) (hnone : ∀ source, ¬s.ResolvesToBound value source) :
    ¬s.HasPart clause r o := by
  intro h
  cases h with
  | absent hlacks =>
      have hrule := hvalue.1
      rw [hlacks value hvalue.mem_nodes] at hrule
      cases hrule
  | present hother hsource =>
      obtain rfl := hbuilt.isNearest_unique hclause hvalue hother
      exact hnone _ hsource

variable (hn : n ∈ s.tree.nodes)
include hn

theorem limit?_eq_some_iff_hasPart {l : Limit} :
    (s.limit? n).outcome = .ok (some l) ↔
      ∃ clause, n.IsNearest .limitClause clause ∧ l.span = clause.span ∧
        s.HasPart clause .limitOffset l.offset ∧ s.HasPart clause .limitRowCount l.rowCount := by
  rw [limit?_eq_some_iff]
  refine exists_congr fun clause => ?_
  rw [hbuilt.nearest?_eq_some_iff hn]
  refine and_congr_right fun hnearest => and_congr_right fun _ => ?_
  have hclause := Node.mem_nodes_trans hnearest.mem_nodes hn
  rw [mapM_boundAt_eq_ok_iff hbuilt hclause, mapM_boundAt_eq_ok_iff hbuilt hclause]

/-- The first part that fails is what the extraction fails with. -/
theorem limit?_eq_error_iff_failsAsBound :
    (s.limit? n).outcome = .error e ↔
      ∃ clause, n.IsNearest .limitClause clause ∧
        ((∃ value, clause.IsNearest .limitOffset value ∧
            s.FailsAsBound "LIMIT offset" value e) ∨
          (∃ offset, s.HasPart clause .limitOffset offset) ∧
            ∃ value, clause.IsNearest .limitRowCount value ∧
              s.FailsAsBound "LIMIT row count" value e) := by
  rcases hclause : n.nearest? .limitClause with _ | clause
  · have hnone : (s.limit? n).outcome = .ok none := by
      rw [limit?_eq_none_iff, ← Node.nearest?_eq_none_iff_not_exists]
      exact hclause
    rw [hnone]
    simp only [reduceCtorEq, false_iff, not_exists, not_and]
    intro clause hnearest
    rw [← hbuilt.nearest?_eq_some_iff hn, hclause] at hnearest
    cases hnearest
  · have hmem := Node.mem_nodes_trans (Node.nearest?_eq_some hclause).1 hn
    rw [limit?_eq_error_iff hclause]
    simp only [boundAt_eq_error_iff_failsAsBound, hbuilt.nearest?_eq_some_iff hmem,
      mapM_boundAt_eq_ok_iff hbuilt hmem, ← hbuilt.nearest?_eq_some_iff hn, hclause,
      Option.some.injEq, exists_eq_left']

/-- A node for a part that gives no bound cannot be passed over. -/
theorem limit?_error_of_not_resolvesToBound {value : Node}
    (hclause : n.IsNearest .limitClause clause)
    (hvalue : clause.IsNearest .limitOffset value ∨ clause.IsNearest .limitRowCount value)
    (hnone : ∀ source, ¬s.ResolvesToBound value source) :
    ∃ e, (s.limit? n).outcome = .error e := by
  have hmem := Node.mem_nodes_trans hclause.mem_nodes hn
  rcases houtcome : (s.limit? n).outcome with e | _ | l
  · exact ⟨e, rfl⟩
  · rw [limit?_eq_none_iff] at houtcome
    exact absurd ⟨clause, hclause.mem_nodes, hclause.1⟩ houtcome
  · obtain ⟨other, hother, -, hoffset, hrowCount⟩ :=
      (limit?_eq_some_iff_hasPart hbuilt hn).mp houtcome
    obtain rfl := hbuilt.isNearest_unique hn hclause hother
    rcases hvalue with hvalue | hvalue
    · exact absurd hoffset (not_hasPart hbuilt hmem hvalue hnone)
    · exact absurd hrowCount (not_hasPart hbuilt hmem hvalue hnone)

end Built

end Statement

/-- A clause has each part just where there is a node for it, and a part that gives no bound makes
the extraction fail, the offset first. -/
theorem limit_never_drops {s : Statement} (hbuilt : s.tree.IsBuilt) {n : Node}
    (hn : n ∈ s.tree.nodes) :
    ((s.limit? n).outcome = .ok none ↔ ¬∃ m ∈ n.nodes, m.isRule .limitClause = true) ∧
    (∀ l, (s.limit? n).outcome = .ok (some l) ↔
      ∃ clause, n.IsNearest .limitClause clause ∧ l.span = clause.span ∧
        s.HasPart clause .limitOffset l.offset ∧ s.HasPart clause .limitRowCount l.rowCount) ∧
    (∀ l clause, (s.limit? n).outcome = .ok (some l) → n.IsNearest .limitClause clause →
      (l.offset.isSome = true ↔ ∃ m ∈ clause.nodes, m.isRule .limitOffset = true) ∧
      (l.rowCount.isSome = true ↔ ∃ m ∈ clause.nodes, m.isRule .limitRowCount = true) ∧
      ∀ b, l.offset = some b ∨ l.rowCount = some b →
        l.span.Encloses b.span ∧ b.bound.percent = false) ∧
    (∀ e, (s.limit? n).outcome = .error e ↔
      ∃ clause, n.IsNearest .limitClause clause ∧
        ((∃ value, clause.IsNearest .limitOffset value ∧
            s.FailsAsBound "LIMIT offset" value e) ∨
          (∃ offset, s.HasPart clause .limitOffset offset) ∧
            ∃ value, clause.IsNearest .limitRowCount value ∧
              s.FailsAsBound "LIMIT row count" value e)) ∧
    ∀ clause value, n.IsNearest .limitClause clause →
      clause.IsNearest .limitOffset value ∨ clause.IsNearest .limitRowCount value →
      (∀ source, ¬s.ResolvesToBound value source) → ∃ e, (s.limit? n).outcome = .error e := by
  refine ⟨Statement.limit?_eq_none_iff, ?_, ?_, ?_, ?_⟩
  · intro l
    exact Statement.limit?_eq_some_iff_hasPart hbuilt hn
  · intro l clause hl hclause
    obtain ⟨other, hother, hspan, hoffset, hrowCount⟩ :=
      (Statement.limit?_eq_some_iff_hasPart hbuilt hn).mp hl
    have hnested := hbuilt.nested.below (Node.mem_nodes_trans hother.mem_nodes hn)
    obtain rfl := hbuilt.isNearest_unique hn hclause hother
    refine ⟨hoffset.isSome_iff, hrowCount.isSome_iff, ?_⟩
    rw [hspan]
    rintro b (hb | hb)
    · rw [hb] at hoffset
      exact ⟨hoffset.encloses hnested, hoffset.percent⟩
    · rw [hb] at hrowCount
      exact ⟨hrowCount.encloses hnested, hrowCount.percent⟩
  · intro e
    exact Statement.limit?_eq_error_iff_failsAsBound hbuilt hn
  · intro clause value hclause hvalue hnone
    exact Statement.limit?_error_of_not_resolvesToBound hbuilt hn hclause hvalue hnone

def letterRowCount : Node :=
  .rule 2 "limitRowCount" ⟨6, 6⟩ [.token 3 "IDENTIFIER_" ⟨6, 6⟩]

def letterOffset : Node :=
  .rule 5 "limitOffset" ⟨15, 15⟩ [.token 6 "IDENTIFIER_" ⟨15, 15⟩]

/-- A clause of which both parts are letters, with the row count in front of the offset. -/
def letterClause : Node :=
  .rule 0 "limitClause" ⟨0, 15⟩
    [.token 1 "LIMIT" ⟨0, 4⟩, letterRowCount, .token 4 "OFFSET" ⟨8, 13⟩, letterOffset]

def letterStatement : Statement where
  tree := ⟨StatementText.ofString "LIMIT a OFFSET b", letterClause⟩
  markers := .empty

def tenNumber : Node :=
  .rule 3 "numberLiterals" ⟨6, 7⟩ [.token 4 "NUMBER_" ⟨6, 7⟩]

def tenRowCount : Node :=
  .rule 2 "limitRowCount" ⟨6, 7⟩ [tenNumber]

def tenClause : Node :=
  .rule 0 "limitClause" ⟨0, 7⟩ [.token 1 "LIMIT" ⟨0, 4⟩, tenRowCount]

def tenStatement : Statement where
  tree := ⟨StatementText.ofString "LIMIT 10", tenClause⟩
  markers := .empty

theorem tenRowCount_resolvesToBound : tenStatement.ResolvesToBound tenRowCount (.literal 10) := by
  have htrim : Blank.trim (tenStatement.tree.textOf tenNumber) = "10" := rfl
  have hdigits : Numeral.IsDigits "10".toList := by decide
  have hnode : tenRowCount.solely? .numberLiterals = some tenNumber := rfl
  refine Statement.resolvesToBound_of_integer (by decide) rfl hnode ?_
  rw [htrim]
  exact .unsigned hdigits

/-- A row count is given without an offset; of two parts that give no bound the offset is the one
that counts. -/
theorem tenStatement_letterStatement_limit :
    tenStatement.tree.IsBuilt ∧ tenClause ∈ tenStatement.tree.nodes ∧
      tenStatement.ResolvesToBound tenRowCount (.literal 10) ∧
      (tenStatement.limit? tenClause).outcome =
        .ok (some ⟨⟨0, 7⟩, none, some ⟨⟨6, 7⟩, ⟨.literal 10, false⟩⟩⟩) ∧
      letterStatement.tree.IsBuilt ∧ letterClause ∈ letterStatement.tree.nodes ∧
      letterStatement.FailsAsBound "LIMIT row count" letterRowCount
        (.unsupported "LIMIT row count" "a" ⟨6, 6⟩) ∧
      (letterStatement.limit? letterClause).outcome =
        .error (.unsupported "LIMIT offset" "b" ⟨15, 15⟩) := by
  have htenBuilt : tenStatement.tree.IsBuilt := ⟨"LIMIT 10", tenClause.steps, rfl⟩
  have hten : tenClause ∈ tenStatement.tree.nodes := tenClause.self_mem_nodes
  have htenNearest : tenClause.IsNearest .limitClause tenClause :=
    (htenBuilt.nearest?_eq_some_iff hten).mp (by with_unfolding_all rfl)
  have hrowCount : tenClause.IsNearest .limitRowCount tenRowCount :=
    (htenBuilt.nearest?_eq_some_iff hten).mp (by with_unfolding_all rfl)
  have hnoOffset : ∀ m ∈ tenClause.nodes, m.isRule .limitOffset = false := by decide
  obtain ⟨-, hsegment, -⟩ := limit_never_drops htenBuilt hten
  have hlimit := (hsegment ⟨⟨0, 7⟩, none, some ⟨⟨6, 7⟩, ⟨.literal 10, false⟩⟩⟩).mpr
    ⟨tenClause, htenNearest, rfl, .absent hnoOffset, .present hrowCount tenRowCount_resolvesToBound⟩
  have hbuilt : letterStatement.tree.IsBuilt :=
    ⟨"LIMIT a OFFSET b", letterClause.steps, rfl⟩
  have hclause : letterClause ∈ letterStatement.tree.nodes := letterClause.self_mem_nodes
  have hnearest : letterClause.IsNearest .limitClause letterClause :=
    (hbuilt.nearest?_eq_some_iff hclause).mp (by with_unfolding_all rfl)
  have hoffset : letterClause.IsNearest .limitOffset letterOffset :=
    (hbuilt.nearest?_eq_some_iff hclause).mp (by with_unfolding_all rfl)
  have hrowCountText :
      (letterStatement.expression letterRowCount).outcome = .ok (.complex ⟨6, 6⟩ "a") := by
    with_unfolding_all rfl
  have hoffsetText :
      (letterStatement.expression letterOffset).outcome = .ok (.complex ⟨15, 15⟩ "b") := by
    with_unfolding_all rfl
  obtain ⟨-, -, -, herror, -⟩ := limit_never_drops hbuilt hclause
  refine ⟨htenBuilt, hten, tenRowCount_resolvesToBound, hlimit, hbuilt, hclause,
    .unsupported hrowCountText Expression.not_givesBound_complex, ?_⟩
  exact (herror _).mpr ⟨letterClause, hnearest,
    Or.inl ⟨letterOffset, hoffset, .unsupported hoffsetText Expression.not_givesBound_complex⟩⟩

end StatementSegments
