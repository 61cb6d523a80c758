import StatementSegments.Proofs.NodeIntervals
import StatementSegments.Proofs.ParameterBounds
import StatementSegments.Proofs.StepStreams

namespace StatementSegments

/-- The spans of all parts: of the clauses and their bounds, the tables and the columns. -/
def Select.spans (selected : Select) : List Span :=
  selected.bounds.map BoundSegment.span ++ selected.limit.toList.map Limit.span ++
    (selected.tables.map Table.span ++ selected.columns.map Column.span)

theorem Select.mem_spans_iff {selected : Select} {span : Span} :
    span ∈ selected.spans ↔
      (∃ b ∈ selected.bounds, b.span = span) ∨ (∃ l, selected.limit = some l ∧ l.span = span) ∨
        span ∈ selected.tables.map Table.span ∨ span ∈ selected.columns.map Column.span := by
  simp [spans]

namespace Statement

variable {s : Statement} {dialect : Dialect} {selected : Select}
  (h : (s.select dialect).outcome = .ok selected)
include h

theorem select_tables_spans :
    selected.tables.map Table.span =
      (s.tree.nodes.filter (·.isRule .tableName)).map Node.span := by
  obtain ⟨columns, hselected⟩ := select_eq_ok_iff.mp h
  exact ParseTree.tables_spans hselected.tables_ok

theorem select_columns_spans :
    selected.columns.map Column.span =
      (s.tree.nodes.filter (·.isRule .columnName)).map Node.span := by
  obtain ⟨columns, hselected⟩ := select_eq_ok_iff.mp h
  rw [hselected.columns_eq, List.map_map]
  exact ParseTree.columns_spans hselected.columns_ok

theorem isSome_select_top_iff :
    selected.top.isSome = true ↔
      dialect = .sqlServer ∧ ∃ n ∈ s.tree.nodes, n.isRule .top = true := by
  obtain ⟨columns, hselected⟩ := select_eq_ok_iff.mp h
  rw [← Dialect.usesTop_iff]
  exact Logged.isSome_outcome_ite_iff top?_eq_none_iff
    (clauses_eq_ok_iff.mp hselected.clauses_ok).1

theorem isSome_select_limit_iff :
    selected.limit.isSome = true ↔
      (dialect = .mySql ∨ dialect = .postgreSql ∨ dialect = .h2) ∧
        ∃ n ∈ s.tree.nodes, n.isRule .limitClause = true := by
  obtain ⟨columns, hselected⟩ := select_eq_ok_iff.mp h
  rw [← Dialect.usesLimit_iff]
  exact Logged.isSome_outcome_ite_iff limit?_eq_none_iff
    (clauses_eq_ok_iff.mp hselected.clauses_ok).2

theorem exists_node_of_limit {l : Limit} (hl : selected.limit = some l) :
    ∃ n ∈ s.tree.nodes, l.span = n.span := by
  obtain ⟨columns, hselected⟩ := select_eq_ok_iff.mp h
  have hlimit := (clauses_eq_ok_iff.mp hselected.clauses_ok).2
  rw [hl] at hlimit
  obtain ⟨clause, hclause, hspan, -⟩ :=
    limit?_eq_some (Logged.outcome_ite_none_eq_some_iff.mp hlimit).2
  exact ⟨clause, (Node.nearest?_eq_some hclause).1, hspan⟩

theorem exists_node_of_mem_spans {span : Span} (hspan : span ∈ selected.spans) :
    ∃ n ∈ s.tree.nodes, span = n.span := by
  have hnode : ∀ r : Rule, span ∈ (s.tree.nodes.filter (·.isRule r)).map Node.span →
      ∃ n ∈ s.tree.nodes, span = n.span := by
    intro r hmem
    obtain ⟨n, hn, rfl⟩ := List.mem_map.mp hmem
    exact ⟨n, (List.mem_filter.mp hn).1, rfl⟩
  rcases Select.mem_spans_iff.mp hspan with ⟨b, hb, rfl⟩ | ⟨l, hl, rfl⟩ | htable | hcolumn
  · obtain ⟨value, hvalue, hread⟩ := isReadFrom_of_mem_bounds h hb
    exact ⟨value, hvalue, hread.1⟩
  · exact exists_node_of_limit h hl
  · exact hnode .tableName (select_tables_spans h ▸ htable)
  · exact hnode .columnName (select_columns_spans h ▸ hcolumn)

/-- The dialect decides about the clauses only. -/
theorem select_references_eq {other : Dialect} {selected' : Select}
    (h' : (s.select other).outcome = .ok selected') :
    selected.tables = selected'.tables ∧ selected.columns = selected'.columns := by
  obtain ⟨columns, hselected⟩ := select_eq_ok_iff.mp h
  obtain ⟨columns', hselected'⟩ := select_eq_ok_iff.mp h'
  have htables : selected.tables = selected'.tables :=
    Except.ok.inj (hselected.tables_ok.symm.trans hselected'.tables_ok)
  have hcolumns : columns = columns' :=
    Except.ok.inj (hselected.columns_ok.symm.trans hselected'.columns_ok)
  exact ⟨htables, by rw [hselected.columns_eq, hselected'.columns_eq, htables, hcolumns]⟩

end Statement

theorem Statement.outcome_select_congr (s : Statement) (dialect other : Dialect)
    (htop : dialect.usesTop = other.usesTop) (hlimit : dialect.usesLimit = other.usesLimit) :
    (s.select dialect).outcome = (s.select other).outcome := by
  have hclauses : s.clauses dialect = s.clauses other := by
    unfold Statement.clauses
    rw [htop, hlimit]
  rw [outcome_select, outcome_select, hclauses]

/-- A selection has one part for every table and every column, and the clause of its dialect just
where the tree has one; parts are nested or apart. -/
theorem select_parts {tree : ParseTree} (hbuilt : tree.IsBuilt) (markers : MarkerNumbering) :
    (∀ dialect selected, (Statement.select dialect ⟨tree, markers⟩).outcome = .ok selected →
      selected.tables.map Table.span =
        (tree.nodes.filter (·.isRule .tableName)).map Node.span ∧
      selected.columns.map Column.span =
        (tree.nodes.filter (·.isRule .columnName)).map Node.span ∧
      (selected.top.isSome = true ↔
        dialect = .sqlServer ∧ ∃ n ∈ tree.nodes, n.isRule .top = true) ∧
      (selected.limit.isSome = true ↔
        (dialect = .mySql ∨ dialect = .postgreSql ∨ dialect = .h2) ∧
          ∃ n ∈ tree.nodes, n.isRule .limitClause = true) ∧
      (∀ span ∈ selected.spans, (∃ n ∈ tree.nodes, span = n.span) ∧
        span.start ≤ span.stop ∧ span.stop < tree.text.content.length) ∧
      ∀ a ∈ selected.spans, ∀ b ∈ selected.spans,
        a.Encloses b ∨ b.Encloses a ∨ a.Disjoint b) ∧
    (∀ dialect other selected selected',
      (Statement.select dialect ⟨tree, markers⟩).outcome = .ok selected →
      (Statement.select other ⟨tree, markers⟩).outcome = .ok selected' →
      selected.tables = selected'.tables ∧ selected.columns = selected'.columns) ∧
    (Statement.select .mySql ⟨tree, markers⟩).outcome =
      (Statement.select .postgreSql ⟨tree, markers⟩).outcome ∧
    (Statement.select .mySql ⟨tree, markers⟩).outcome =
      (Statement.select .h2 ⟨tree, markers⟩).outcome := by
  refine ⟨?_, ?_, ?_, ?_⟩
  · intro dialect selected h
    refine ⟨Statement.select_tables_spans h, Statement.select_columns_spans h,
      Statement.isSome_select_top_iff h, Statement.isSome_select_limit_iff h, ?_, ?_⟩
    · intro span hspan
      obtain ⟨n, hn, rfl⟩ := Statement.exists_node_of_mem_spans h hspan
      exact ⟨⟨n, hn, rfl⟩, hbuilt.wellFormed.span n hn⟩
    · intro a ha b hb
      obtain ⟨n, hn, rfl⟩ := Statement.exists_node_of_mem_spans h ha
      obtain ⟨m, hm, rfl⟩ := Statement.exists_node_of_mem_spans h hb
      exact hbuilt.encloses_or_disjoint hn hm
  · intro dialect other selected selected' h h'
    exact Statement.select_references_eq h h'
  · exact Statement.outcome_select_congr ⟨tree, markers⟩ .mySql .postgreSql rfl rfl
  · exact Statement.outcome_select_congr ⟨tree, markers⟩ .mySql .h2 rfl rfl

/-- A rule node made of one token. -/
def Node.ofToken (id : Nat) (name : String) (span : Span) : Node :=
  .rule id name span [.token (id + 1) "IDENTIFIER_" span]

def ordersTree : ParseTree where
  text := StatementText.ofString "SELECT o.c, d FROM orders o, u LIMIT ?"
  root :=
    .rule 0 "select" ⟨0, 37⟩
      [.token 1 "SELECT" ⟨0, 5⟩,
        .rule 2 "columnName" ⟨7, 9⟩ [.ofToken 3 "owner" ⟨7, 7⟩, .ofToken 5 "name" ⟨9, 9⟩],
        .rule 7 "columnName" ⟨12, 12⟩ [.ofToken 8 "name" ⟨12, 12⟩],
        .rule 10 "tableFactor" ⟨19, 26⟩
          [.rule 11 "tableName" ⟨19, 24⟩ [.ofToken 12 "name" ⟨19, 24⟩],
            .ofToken 14 "alias" ⟨26, 26⟩],
        .rule 16 "tableFactor" ⟨29, 29⟩
          [.rule 17 "tableName" ⟨29, 29⟩ [.ofToken 18 "name" ⟨29, 29⟩]],
        .rule 20 "limitClause" ⟨31, 37⟩
          [.rule 21 "limitRowCount" ⟨37, 37⟩ [.ofToken 22 "parameterMarker" ⟨37, 37⟩]]]

theorem ordersTree_isBuilt : ordersTree.IsBuilt :=
  ⟨"SELECT o.c, d FROM orders o, u LIMIT ?", ordersTree.root.steps, rfl⟩

def ordersTables : List Table :=
  [⟨⟨19, 24⟩, "orders", none, some "o"⟩, ⟨⟨29, 29⟩, "u", none, none⟩]

def ordersColumns : List Column :=
  [⟨⟨7, 9⟩, "c", some "o", some ⟨"orders", 19⟩⟩, ⟨⟨12, 12⟩, "d", none, none⟩]

def ordersSelect : Select where
  top := none
  limit := some ⟨⟨31, 37⟩, none, some ⟨⟨37, 37⟩, .ofParameter 7⟩⟩
  tables := ordersTables
  columns := ordersColumns

theorem select_ordersTree :
    (Statement.select .mySql ⟨ordersTree, ⟨[(22, 7)]⟩⟩).outcome = .ok ordersSelect := by
  rw [Statement.outcome_select]
  with_unfolding_all rfl

theorem select_ordersTree_oracle :
    (Statement.select .oracle ⟨ordersTree, ⟨[(22, 7)]⟩⟩).outcome =
      .ok { ordersSelect with limit := none } := by
  rw [Statement.outcome_select]
  with_unfolding_all rfl

theorem ordersTree_parts :
    ordersTree.IsBuilt ∧
      (Statement.select .mySql ⟨ordersTree, ⟨[(22, 7)]⟩⟩).outcome = .ok ordersSelect ∧
      (ordersTree.nodes.filter (·.isRule .tableName)).map Node.span = [⟨19, 24⟩, ⟨29, 29⟩] ∧
      (ordersTree.nodes.filter (·.isRule .columnName)).map Node.span = [⟨7, 9⟩, ⟨12, 12⟩] ∧
      (∃ n ∈ ordersTree.nodes, n.isRule .limitClause = true) ∧
      37 < ordersTree.text.content.length ∧
      (Statement.select .h2 ⟨ordersTree, ⟨[(22, 7)]⟩⟩).outcome = .ok ordersSelect ∧
      { ordersSelect with limit := none }.columns = ordersColumns := by
  obtain ⟨hparts, hreferences, -, hh2⟩ := select_parts ordersTree_isBuilt ⟨[(22, 7)]⟩
  obtain ⟨htables, hcolumns, -, hlimit, hspans, -⟩ := hparts _ _ select_ordersTree
  have hrows : (⟨37, 37⟩ : Span) ∈ ordersSelect.spans := by decide
  exact ⟨ordersTree_isBuilt, select_ordersTree, htables.symm, hcolumns.symm,
    (hlimit.mp rfl).2, (hspans _ hrows).2.2, hh2.symm.trans select_ordersTree,
    (hreferences _ _ _ _ select_ordersTree_oracle select_ordersTree).2⟩

end StatementSegments
