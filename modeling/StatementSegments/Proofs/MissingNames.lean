import StatementSegments.Proofs.BoundSources
import StatementSegments.Proofs.MarkerNumbers
import StatementSegments.Proofs.SelectStages

namespace StatementSegments

/-- What a clause can fail with, once the tables and the columns are in order. -/
def ExtractionError.ArisesInClause : ExtractionError → Prop
  | missingNode rule _ _ => rule = .expr ∨ rule = .aliasName
  | unindexedParameterMarker _ => False
  | ownerAlreadyBound _ => False
  | unresolvedExpression _ => True
  | invalidLiteral _ _ => True
  | unsupported _ _ _ => True

theorem ExtractionError.not_arisesInClause_name {parent : String} {start : Nat} :
    ¬(missingNode .name parent start).ArisesInClause := by
  rintro (h | h) <;> cases h

namespace Statement

/-- The columns have names, and the markers have numbers. -/
structure IsResolvable (s : Statement) : Prop where
  named : ∀ n ∈ s.tree.nodes, n.isRule .columnName = true → n.lacks .name = false
  numbered : ∀ n ∈ s.tree.nodes, n.isRule .parameterMarker = true →
    (s.markers.number? n.id).isSome = true

variable {s : Statement} {e : ExtractionError}

theorem IsResolvable.expression_error (h : s.IsResolvable) {value : Node}
    (hvalue : value ∈ s.tree.nodes) (he : (s.expression value).outcome = .error e) :
    e.ArisesInClause := by
  have hresolves := s.expression_resolvesTo value
  rw [he] at hresolves
  cases hresolves with
  | hollow hhollow => trivial
  | @unindexed marker hmarker hindex =>
      obtain ⟨hnarrows, hrule⟩ := Node.solely?_eq_some hmarker
      have hsome := h.numbered marker (Node.mem_nodes_trans hnarrows.mem_nodes hvalue) hrule
      simp [hindex] at hsome
  | invalid hmarker hnode hread => trivial
  | @nameless node hnode hname =>
      obtain ⟨hnarrows, hrule⟩ := Node.solely?_eq_some hnode
      have hnamed := h.named node (Node.mem_nodes_trans hnarrows.mem_nodes hvalue) hrule
      simp [hname] at hnamed

theorem IsResolvable.boundAt_error (h : s.IsResolvable) {construct : String} {value : Node}
    (hvalue : value ∈ s.tree.nodes) (he : (s.boundAt construct value).outcome = .error e) :
    e.ArisesInClause := by
  rcases boundAt_eq_error he with he | ⟨text, span, rfl⟩
  · exact h.expression_error hvalue he
  · trivial

theorem scopeOf_error {clause : Node} (he : (s.scopeOf clause).outcome = .error e) :
    e.ArisesInClause := by
  unfold scopeOf at he
  cases hscope : s.tree.parent? clause.id with
  | none =>
      simp only [hscope, Logged.outcome_log_bind, Logged.outcome_fail, Except.error.injEq] at he
      rw [← he]
      exact Or.inr rfl
  | some scope => simp [hscope] at he

theorem IsResolvable.top?_error (h : s.IsResolvable)
    (he : (s.top? s.tree.root).outcome = .error e) : e.ArisesInClause := by
  unfold top? at he
  rcases hclause : s.tree.root.nearest? .top with _ | clause
  · simp [hclause] at he
  simp only [hclause, Logged.outcome_bind_eq_error_iff, Node.required_eq_error_iff,
    Node.required_eq_ok_iff, Logged.outcome_log_bind, Logged.outcome_pure, reduceCtorEq, and_false,
    exists_false, or_false] at he
  rcases he with ⟨-, rfl⟩ | ⟨value, hvalue, he | ⟨b, -, he | ⟨scope, -, -, rfl⟩⟩⟩
  · exact Or.inl rfl
  · exact h.boundAt_error (Node.mem_nodes_of_nearest? hclause hvalue) he
  · exact scopeOf_error he
  · exact Or.inr rfl

theorem IsResolvable.limit?_error (h : s.IsResolvable)
    (he : (s.limit? s.tree.root).outcome = .error e) : e.ArisesInClause := by
  rcases hclause : s.tree.root.nearest? .limitClause with _ | clause
  · simp [limit?, hclause] at he
  rcases (limit?_eq_error_iff hclause).mp he with ⟨value, hvalue, he⟩ | ⟨-, value, hvalue, he⟩
  · exact h.boundAt_error (Node.mem_nodes_of_nearest? hclause hvalue) he
  · exact h.boundAt_error (Node.mem_nodes_of_nearest? hclause hvalue) he

end Statement

namespace ParseTree

/-- The table without a name that comes first, or else the column without a name that does. -/
def nameless? (tree : ParseTree) : Option Node :=
  (tree.firstNameless? .tableName).or (tree.firstNameless? .columnName)

theorem nameless?_eq_none_iff {tree : ParseTree} :
    tree.nameless? = none ↔
      ∀ n ∈ tree.nodes, n.isRule .tableName = true ∨ n.isRule .columnName = true →
        n.lacks .name = false := by
  simp only [nameless?, Option.or_eq_none_iff, firstNameless?_eq_none_iff]
  constructor
  · rintro ⟨htables, hcolumns⟩ n hn (hrule | hrule)
    · exact htables n hn hrule
    · exact hcolumns n hn hrule
  · intro h
    exact ⟨fun n hn hrule => h n hn (Or.inl hrule), fun n hn hrule => h n hn (Or.inr hrule)⟩

theorem exists_nameless?_iff {tree : ParseTree} :
    (∃ n, tree.nameless? = some n) ↔
      ∃ n ∈ tree.nodes, (n.isRule .tableName = true ∨ n.isRule .columnName = true) ∧
        n.lacks .name = true := by
  rw [← Option.ne_none_iff_exists', ne_eq, nameless?_eq_none_iff]
  simp only [not_forall, Bool.not_eq_false, exists_prop]

end ParseTree

namespace Statement

theorem isResolvable_ofNode {tree : ParseTree} (h : tree.nameless? = none) :
    (Statement.mk tree (.ofNode tree.root)).IsResolvable where
  named n hn hrule := ParseTree.nameless?_eq_none_iff.mp h n hn (Or.inr hrule)
  numbered _ hn hrule :=
    MarkerNumbering.isSome_number?_ofNode (ParseTree.mem_markers_iff.mpr ⟨hn, hrule⟩)

theorem IsResolvable.clauses_error {s : Statement} (h : s.IsResolvable) {dialect : Dialect}
    {e : ExtractionError} (he : (s.clauses dialect).outcome = .error e) : e.ArisesInClause := by
  rcases clauses_eq_error he with he | he
  · exact h.top?_error he
  · exact h.limit?_error he

theorem select_eq_error_iff_nameless? {s : Statement} {dialect : Dialect} {e : ExtractionError} :
    (s.select dialect).outcome = .error e ↔
      (∃ n, s.tree.nameless? = some n ∧ e = .missingNode .name n.label n.start) ∨
        s.tree.nameless? = none ∧ (s.clauses dialect).outcome = .error e := by
  rw [select_eq_error_iff, ParseTree.tables_eq_error_iff, ParseTree.columns_eq_error_iff,
    ParseTree.nameless?]
  rcases htables : s.tree.firstNameless? .tableName with _ | n
  · obtain ⟨tables, hok⟩ := ParseTree.exists_tables_iff.mpr htables
    rcases hcolumns : s.tree.firstNameless? .columnName with _ | m
    · obtain ⟨columns, hcolumnsOk⟩ := ParseTree.exists_columns_iff.mpr hcolumns
      simp [hok, hcolumnsOk]
    · have hnot : ∀ columns, (s.tree.columns s.tree.root).outcome ≠ .ok columns := by
        rw [← not_exists, ParseTree.exists_columns_iff, hcolumns]
        exact Option.some_ne_none m
      simp [hok, hnot]
  · have hnot : ∀ tables, (s.tree.tables s.tree.root).outcome ≠ .ok tables := by
      rw [← not_exists, ParseTree.exists_tables_iff, htables]
      exact Option.some_ne_none n
    simp [hnot]

variable {tree : ParseTree} {dialect : Dialect} {e : ExtractionError}

theorem select_error (h : ((mk tree (.ofNode tree.root)).select dialect).outcome = .error e) :
    (∃ n, tree.nameless? = some n ∧ e = .missingNode .name n.label n.start) ∨
      e.ArisesInClause := by
  rcases select_eq_error_iff_nameless?.mp h with hname | ⟨hnone, h⟩
  · exact Or.inl hname
  · exact Or.inr ((isResolvable_ofNode hnone).clauses_error h)

theorem select_missingName_iff {parent : String} {start : Nat} :
    ((mk tree (.ofNode tree.root)).select dialect).outcome =
        .error (.missingNode .name parent start) ↔
      ∃ n, tree.nameless? = some n ∧ parent = n.label ∧ start = n.start := by
  constructor
  · intro h
    rcases select_error h with ⟨n, hn, heq⟩ | harises
    · cases heq
      exact ⟨n, hn, rfl, rfl⟩
    · exact absurd harises ExtractionError.not_arisesInClause_name
  · rintro ⟨n, hn, rfl, rfl⟩
    exact select_eq_error_iff_nameless?.mpr (Or.inl ⟨n, hn, rfl⟩)

end Statement

/-- No marker lacks a number and no column gets two owners; a name is missed just where a table or
else a column has none. -/
theorem select_errors (tree : ParseTree) (dialect : Dialect) :
    (∀ start, (Statement.ofTree tree >>= Statement.select dialect).outcome ≠
      .error (.unindexedParameterMarker start)) ∧
    (∀ column, (Statement.ofTree tree >>= Statement.select dialect).outcome ≠
      .error (.ownerAlreadyBound column)) ∧
    ((∃ parent start, (Statement.ofTree tree >>= Statement.select dialect).outcome =
        .error (.missingNode .name parent start)) ↔
      ∃ n ∈ tree.nodes, (n.isRule .tableName = true ∨ n.isRule .columnName = true) ∧
        n.lacks .name = true) ∧
    (∀ parent start, (Statement.ofTree tree >>= Statement.select dialect).outcome =
        .error (.missingNode .name parent start) ↔
      ∃ n, (tree.firstNameless? .tableName).or (tree.firstNameless? .columnName) = some n ∧
        parent = n.label ∧ start = n.start) ∧
    ((∃ tables, (tree.tables tree.root).outcome = .ok tables) →
      (∃ columns, (tree.columns tree.root).outcome = .ok columns) →
      ∀ parent start,
        (Statement.top? ⟨tree, .ofNode tree.root⟩ tree.root).outcome ≠
          .error (.missingNode .name parent start) ∧
        (Statement.limit? ⟨tree, .ofNode tree.root⟩ tree.root).outcome ≠
          .error (.missingNode .name parent start)) := by
  simp only [Statement.outcome_ofTree_bind]
  refine ⟨?_, ?_, ?_, fun parent start => Statement.select_missingName_iff, ?_⟩
  · intro start h
    rcases Statement.select_error h with ⟨n, -, heq⟩ | harises
    · cases heq
    · exact harises
  · intro column h
    rcases Statement.select_error h with ⟨n, -, heq⟩ | harises
    · cases heq
    · exact harises
  · rw [← ParseTree.exists_nameless?_iff]
    simp only [Statement.select_missingName_iff]
    constructor
    · rintro ⟨parent, start, n, hn, -, -⟩
      exact ⟨n, hn⟩
    · rintro ⟨n, hn⟩
      exact ⟨n.label, n.start, n, hn, rfl, rfl⟩
  · intro htables hcolumns parent start
    have hnone : tree.nameless? = none := by
      rw [ParseTree.nameless?, ParseTree.exists_tables_iff.mp htables,
        ParseTree.exists_columns_iff.mp hcolumns]
      rfl
    have hresolvable := Statement.isResolvable_ofNode hnone
    constructor
    · intro h
      exact ExtractionError.not_arisesInClause_name (hresolvable.top?_error h)
    · intro h
      exact ExtractionError.not_arisesInClause_name (hresolvable.limit?_error h)

end StatementSegments
