import StatementSegments.Proofs.BoundOutcomes
import StatementSegments.Proofs.NodeLevels
import StatementSegments.Proofs.TopAliases

namespace StatementSegments

namespace Node

variable {n m : Node}

theorem childToken?_isSome_iff {r : Rule} :
    (n.childToken? r).isSome = true ↔
      ∃ c ∈ n.children, c.isToken = true ∧ c.label = r.spelling := by
  simp [childToken?, isTokenOf]

end Node

/-- A segment is told by its span, its source, the token for percent and its alias. -/
theorem Top.eq_iff {t : Top} {clause : Node} {span : Span} {source : BoundSource} {text : String} :
    t = ⟨span, Bound.withPercent ⟨source, false⟩ (clause.childToken? .percentKeyword).isSome,
        text⟩ ↔
      t.span = span ∧ t.bound.source = source ∧
        (t.bound.percent = true ↔
          ∃ c ∈ clause.children, c.isToken = true ∧ c.label = Rule.percentKeyword.spelling) ∧
        t.rowNumberAlias = text := by
  obtain ⟨topSpan, ⟨topSource, percent⟩, rowNumberAlias⟩ := t
  rw [← Node.childToken?_isSome_iff, ← Bool.eq_iff_iff]
  simp [Bound.withPercent, and_assoc]

namespace ParseTree.IsBuilt

variable {tree : ParseTree} (hbuilt : tree.IsBuilt) {n : Node} (hn : n ∈ tree.nodes)
include hbuilt hn

theorem parent?_eq_some_iff_mem_children {p : Node} :
    tree.parent? n.id = some p ↔ p ∈ tree.nodes ∧ n ∈ p.children := by
  rw [parent?_eq_some_iff hbuilt.ids_nodup]
  refine and_congr_right fun hp => ?_
  constructor
  · rintro ⟨c, hc, hid⟩
    have hcTree := Node.mem_nodes_trans (Node.mem_nodes_of_mem_children hc) hp
    rwa [← Node.eq_of_id_eq hbuilt.ids_nodup hcTree hn hid]
  · intro h
    exact ⟨n, h, rfl⟩

theorem parent?_eq_none_iff :
    tree.parent? n.id = none ↔ ∀ p ∈ tree.nodes, n ∉ p.children := by
  rw [Option.eq_none_iff_forall_ne_some]
  simp only [ne_eq, hbuilt.parent?_eq_some_iff_mem_children hn, not_and]

end ParseTree.IsBuilt

namespace Statement

variable {s : Statement} {n clause : Node} {e : ExtractionError}

/-- Why a clause is refused. Each reason counts only where those before it do not apply. -/
inductive FailsAsTop (s : Statement) (clause : Node) : ExtractionError → Prop where
  | noValue (hvalue : ∀ m ∈ clause.nodes, m.isRule .expr = false) :
      FailsAsTop s clause (.missingNode .expr clause.label clause.start)
  | noBound {value : Node} {e : ExtractionError} (hvalue : clause.IsNearest .expr value)
      (hfails : s.FailsAsBound "TOP expression" value e) : FailsAsTop s clause e
  | noParent {value : Node} {source : BoundSource} (hvalue : clause.IsNearest .expr value)
      (hsource : s.ResolvesToBound value source)
      (hparent : ∀ p ∈ s.tree.nodes, clause ∉ p.children) :
      FailsAsTop s clause (.missingNode .aliasName clause.label clause.start)
  | noAlias {value parent : Node} {source : BoundSource} (hvalue : clause.IsNearest .expr value)
      (hsource : s.ResolvesToBound value source) (hparent : parent ∈ s.tree.nodes)
      (hchild : clause ∈ parent.children)
      (halias : ∀ m ∈ parent.nodes, m.isRule .aliasName = false) :
      FailsAsTop s clause (.missingNode .aliasName parent.label parent.start)

theorem scopeOf_eq_error_iff :
    (s.scopeOf clause).outcome = .error e ↔
      s.tree.parent? clause.id = none ∧
        e = .missingNode .aliasName clause.label clause.start := by
  unfold scopeOf
  cases s.tree.parent? clause.id with
  | none => simp [eq_comm]
  | some found => simp

section Built

variable (hbuilt : s.tree.IsBuilt) (hn : n ∈ s.tree.nodes)
include hbuilt hn

/-- The first thing that is missing is what the extraction fails with. -/
theorem top?_eq_error_iff_failsAsTop :
    (s.top? n).outcome = .error e ↔
      ∃ clause, n.IsNearest .top clause ∧ s.FailsAsTop clause e := by
  simp only [← hbuilt.nearest?_eq_some_iff hn]
  unfold top?
  rcases hclause : n.nearest? .top with _ | clause
  · simp
  have hmem := Node.mem_nodes_trans (Node.nearest?_eq_some hclause).1 hn
  simp only [Logged.outcome_bind_eq_error_iff, Node.required_eq_error_iff, Node.required_eq_ok_iff,
    Node.lacks_iff, boundAt_eq_error_iff_failsAsBound, boundAt_eq_ok_iff_resolvesToBound,
    scopeOf_eq_error_iff, scopeOf_eq_ok_iff, hbuilt.nearest?_eq_some_iff hmem,
    hbuilt.parent?_eq_none_iff hmem, hbuilt.parent?_eq_some_iff_mem_children hmem,
    Logged.outcome_log_bind, Logged.outcome_pure, reduceCtorEq, and_false, exists_false, or_false,
    Option.some.injEq, exists_eq_left']
  constructor
  · rintro (⟨hvalue, rfl⟩ | ⟨value, hvalue, hfails | ⟨b, ⟨source, hsource, -⟩, hscope⟩⟩)
    · exact .noValue hvalue
    · exact .noBound hvalue hfails
    · rcases hscope with ⟨hparent, rfl⟩ | ⟨parent, ⟨hparent, hchild⟩, halias, rfl⟩
      · exact .noParent hvalue hsource hparent
      · exact .noAlias hvalue hsource hparent hchild halias
  · intro h
    cases h with
    | noValue hvalue => exact Or.inl ⟨hvalue, rfl⟩
    | noBound hvalue hfails => exact Or.inr ⟨_, hvalue, Or.inl hfails⟩
    | noParent hvalue hsource hparent =>
        exact Or.inr ⟨_, hvalue, Or.inr ⟨_, ⟨_, hsource, rfl⟩, Or.inl ⟨hparent, rfl⟩⟩⟩
    | noAlias hvalue hsource hparent hchild halias =>
        exact Or.inr ⟨_, hvalue, Or.inr ⟨_, ⟨_, hsource, rfl⟩,
          Or.inr ⟨_, ⟨hparent, hchild⟩, halias, rfl⟩⟩⟩

theorem top?_eq_some_iff_isNearest {t : Top} :
    (s.top? n).outcome = .ok (some t) ↔
      ∃ clause value source parent a, n.IsNearest .top clause ∧ clause.IsNearest .expr value ∧
        s.ResolvesToBound value source ∧ parent ∈ s.tree.nodes ∧ clause ∈ parent.children ∧
        parent.IsNearest .aliasName a ∧ t.span = value.span ∧ t.bound.source = source ∧
        (t.bound.percent = true ↔
          ∃ c ∈ clause.children, c.isToken = true ∧ c.label = Rule.percentKeyword.spelling) ∧
        t.rowNumberAlias = s.tree.textOf a := by
  rw [top?_eq_some_iff]
  constructor
  · rintro ⟨clause, value, b, parent, a, hclause, hvalue, hb, hparent, ha, ht⟩
    have hmem := Node.mem_nodes_trans (Node.nearest?_eq_some hclause).1 hn
    obtain ⟨hparent, hchild⟩ := (hbuilt.parent?_eq_some_iff_mem_children hmem).mp hparent
    rw [hbuilt.nearest?_eq_some_iff hn] at hclause
    rw [hbuilt.nearest?_eq_some_iff hmem] at hvalue
    rw [hbuilt.nearest?_eq_some_iff hparent] at ha
    obtain ⟨source, hsource, rfl⟩ := boundAt_eq_ok_iff_resolvesToBound.mp hb
    exact ⟨clause, value, source, parent, a, hclause, hvalue, hsource, hparent, hchild, ha,
      Top.eq_iff.mp ht⟩
  · rintro ⟨clause, value, source, parent, a, hclause, hvalue, hsource, hparent, hchild, ha, ht⟩
    have hmem := Node.mem_nodes_trans hclause.mem_nodes hn
    rw [← hbuilt.nearest?_eq_some_iff hn] at hclause
    rw [← hbuilt.nearest?_eq_some_iff hmem] at hvalue
    rw [← hbuilt.nearest?_eq_some_iff hparent] at ha
    have hscope := (hbuilt.parent?_eq_some_iff_mem_children hmem).mpr ⟨hparent, hchild⟩
    have hb : (s.boundAt "TOP expression" value).outcome = .ok ⟨value.span, ⟨source, false⟩⟩ :=
      boundAt_eq_ok_iff_resolvesToBound.mpr ⟨source, hsource, rfl⟩
    exact ⟨clause, value, _, parent, a, hclause, hvalue, hb, hscope, ha, Top.eq_iff.mpr ht⟩

end Built

end Statement

/-- The nearest clause gives a segment just where it has a bound and an alias is below its parent;
otherwise the first of value, bound, parent and alias that is not there is the failure. -/
theorem top_conditions {s : Statement} (hbuilt : s.tree.IsBuilt) {n : Node}
    (hn : n ∈ s.tree.nodes) :
    ((s.top? n).outcome = .ok none ↔ ¬∃ m ∈ n.nodes, m.isRule .top = true) ∧
    (∀ t, (s.top? n).outcome = .ok (some t) ↔
      ∃ clause value source parent a, n.IsNearest .top clause ∧ clause.IsNearest .expr value ∧
        s.ResolvesToBound value source ∧ parent ∈ s.tree.nodes ∧ clause ∈ parent.children ∧
        parent.IsNearest .aliasName a ∧ t.span = value.span ∧ t.bound.source = source ∧
        (t.bound.percent = true ↔ ∃ c ∈ clause.children, c.isToken = true ∧ c.label = "PERCENT") ∧
        t.rowNumberAlias = s.tree.textOf a) ∧
    ∀ e, (s.top? n).outcome = .error e ↔
      ∃ clause, n.IsNearest .top clause ∧ s.FailsAsTop clause e := by
  refine ⟨Statement.top?_eq_none_iff, ?_, ?_⟩
  · intro t
    exact Statement.top?_eq_some_iff_isNearest hbuilt hn
  · intro e
    exact Statement.top?_eq_error_iff_failsAsTop hbuilt hn

def percentNumber : Node :=
  .rule 6 "numberLiterals" ⟨11, 11⟩ [.token 7 "NUMBER_" ⟨11, 11⟩]

def percentValue : Node :=
  .rule 5 "expr" ⟨11, 11⟩ [percentNumber]

def percentClause : Node :=
  .rule 3 "top" ⟨7, 19⟩ [.token 4 "TOP" ⟨7, 9⟩, percentValue, .token 8 "PERCENT" ⟨13, 19⟩]

def itemAlias : Node :=
  .rule 13 "alias" ⟨26, 26⟩ [.token 14 "IDENTIFIER_" ⟨26, 26⟩]

def selectItem : Node :=
  .rule 2 "selectItem" ⟨7, 26⟩
    [percentClause,
      .rule 9 "columnName" ⟨21, 21⟩ [.rule 10 "name" ⟨21, 21⟩ [.token 11 "IDENTIFIER_" ⟨21, 21⟩]],
      .token 12 "AS" ⟨23, 24⟩,
      itemAlias]

/-- A clause in percent, with an alias behind it that is no part of it. -/
def percentStatement : Statement where
  tree :=
    { text := StatementText.ofString "SELECT TOP 5 PERCENT a AS x"
      root := .rule 0 "select" ⟨0, 26⟩ [.token 1 "SELECT" ⟨0, 5⟩, selectItem] }
  markers := .empty

theorem percentStatement_isBuilt : percentStatement.tree.IsBuilt := by
  refine ⟨"SELECT TOP 5 PERCENT a AS x", percentStatement.tree.root.steps, ?_⟩
  with_unfolding_all rfl

theorem percentValue_resolvesToBound :
    percentStatement.ResolvesToBound percentValue (.literal 5) := by
  have htrim : Blank.trim (percentStatement.tree.textOf percentNumber) = "5" := rfl
  have hdigits : Numeral.IsDigits "5".toList := by decide
  have hnode : percentValue.solely? .numberLiterals = some percentNumber := rfl
  refine Statement.resolvesToBound_of_integer (by decide) rfl hnode ?_
  rw [htrim]
  exact .unsigned hdigits

def rootValue : Node :=
  .rule 2 "expr" ⟨4, 6⟩
    [.token 3 "NUMBER_" ⟨4, 4⟩, .token 4 "PLUS_" ⟨5, 5⟩, .token 5 "NUMBER_" ⟨6, 6⟩]

/-- A clause without a parent, and with a value that is no bound. -/
def rootClause : Node :=
  .rule 0 "top" ⟨0, 6⟩ [.token 1 "TOP" ⟨0, 2⟩, rootValue]

def rootStatement : Statement where
  tree := ⟨StatementText.ofString "TOP 1+1", rootClause⟩
  markers := .empty

/-- The alias is found outside the clause that is asked, and of two failures the first counts. -/
theorem percentStatement_conditions :
    percentStatement.tree.IsBuilt ∧ percentClause ∈ percentStatement.tree.nodes ∧
      (percentStatement.top? percentClause).outcome =
        .ok (some ⟨⟨11, 11⟩, ⟨.literal 5, true⟩, "x"⟩) ∧
      rootStatement.tree.IsBuilt ∧ rootClause ∈ rootStatement.tree.nodes ∧
      rootStatement.tree.parent? rootClause.id = none ∧
      (rootStatement.top? rootClause).outcome =
        .error (.unsupported "TOP expression" "1+1" ⟨4, 6⟩) := by
  have hbuilt := percentStatement_isBuilt
  have hitem : selectItem ∈ percentStatement.tree.nodes := by
    simp [percentStatement, ParseTree.nodes, Node.nodes, Node.self_mem_nodes]
  have hchild : percentClause ∈ selectItem.children := List.mem_cons_self
  have hclause : percentClause ∈ percentStatement.tree.nodes :=
    Node.mem_nodes_trans (Node.mem_nodes_of_mem_children hchild) hitem
  have hrootBuilt : rootStatement.tree.IsBuilt := ⟨"TOP 1+1", rootClause.steps, rfl⟩
  have hroot : rootClause ∈ rootStatement.tree.nodes := rootClause.self_mem_nodes
  have hrootText :
      (rootStatement.expression rootValue).outcome = .ok (.complex ⟨4, 6⟩ "1+1") := by
    with_unfolding_all rfl
  obtain ⟨-, hgives, -⟩ := top_conditions hbuilt hclause
  obtain ⟨-, -, hfails⟩ := top_conditions hrootBuilt hroot
  refine ⟨hbuilt, hclause, ?_, hrootBuilt, hroot, by with_unfolding_all rfl, ?_⟩
  · have hnearest : percentClause.IsNearest .top percentClause :=
      (hbuilt.nearest?_eq_some_iff hclause).mp (by with_unfolding_all rfl)
    have hvalue : percentClause.IsNearest .expr percentValue :=
      (hbuilt.nearest?_eq_some_iff hclause).mp (by with_unfolding_all rfl)
    have halias : selectItem.IsNearest .aliasName itemAlias :=
      (hbuilt.nearest?_eq_some_iff hitem).mp (by with_unfolding_all rfl)
    have hpercent : ∃ c ∈ percentClause.children, c.isToken = true ∧ c.label = "PERCENT" := by
      decide
    exact (hgives _).mpr ⟨percentClause, percentValue, .literal 5, selectItem, itemAlias, hnearest,
      hvalue, percentValue_resolvesToBound, hitem, hchild, halias, rfl, rfl,
      by simpa using hpercent, by with_unfolding_all rfl⟩
  · have hnearest : rootClause.IsNearest .top rootClause :=
      (hrootBuilt.nearest?_eq_some_iff hroot).mp (by with_unfolding_all rfl)
    have hvalue : rootClause.IsNearest .expr rootValue :=
      (hrootBuilt.nearest?_eq_some_iff hroot).mp (by with_unfolding_all rfl)
    have hunsupported : rootStatement.FailsAsBound "TOP expression" rootValue
        (.unsupported "TOP expression" "1+1" ⟨4, 6⟩) :=
      .unsupported hrootText Expression.not_givesBound_complex
    exact (hfails _).mpr ⟨rootClause, hnearest, .noBound hvalue hunsupported⟩

end StatementSegments
