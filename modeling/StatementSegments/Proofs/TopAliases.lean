import StatementSegments.Proofs.MissingNames
import StatementSegments.Proofs.StepStreams

namespace StatementSegments

namespace Node

variable {n a : Node} {r : Rule}

/-- Children of one node come in their order, level by level: what is found first among those that
are waiting or below them is the first child of its kind. -/
theorem find?_breadthFirst {ns : List Node}
    (h : (breadthFirst ns).find? (·.isRule r) = some a) :
    ns.find? (·.isRule r) = some a ∨ ∃ p ∈ ns.flatMap nodes, p.childRule? r = some a := by
  induction ns using breadthFirst.induct with
  | case1 =>
      rw [breadthFirst] at h
      exact Or.inl h
  | case2 n rest ih =>
      rw [breadthFirst, List.find?_cons] at h
      rw [List.find?_cons, List.flatMap_cons]
      cases hn : n.isRule r with
      | true =>
          rw [hn] at h
          exact Or.inl h
      | false =>
          rw [hn] at h
          dsimp only at h ⊢
          rcases ih h with hwaiting | ⟨p, hp, hchild⟩
          · rw [List.find?_append, Option.or_eq_some_iff] at hwaiting
            rcases hwaiting with hrest | ⟨-, hchild⟩
            · exact Or.inl hrest
            · exact Or.inr ⟨n, List.mem_append_left _ n.self_mem_nodes, hchild⟩
          · refine Or.inr ⟨p, ?_, hchild⟩
            rw [List.flatMap_append, List.mem_append] at hp
            rcases hp with hrest | hbelow
            · exact List.mem_append_right _ hrest
            · obtain ⟨c, hc, hmem⟩ := List.mem_flatMap.mp hbelow
              exact List.mem_append_left _
                (mem_nodes_iff.mpr (Or.inr ⟨c, List.mem_of_mem_filter hc, hmem⟩))

/-- What is nearest below a node is the first of its kind among the children of some node. -/
theorem exists_childRule?_of_nearest? (hn : n.isRule r = false) (h : n.nearest? r = some a) :
    ∃ p ∈ n.nodes, p.childRule? r = some a := by
  rcases find?_breadthFirst h with hself | hbelow
  · rw [List.find?_singleton, hn] at hself
    cases hself
  · rwa [List.flatMap_singleton] at hbelow

/-- The name of a table is among the children. -/
def HoldsTable (p : Node) : Prop :=
  ∃ table ∈ p.children, table.isRule .tableName = true

end Node

namespace ParseTree

variable {tree : ParseTree} {a : Node}

/-- The node is what some table has as its alias. -/
def IsTableAlias (tree : ParseTree) (a : Node) : Prop :=
  ∃ table ∈ tree.nodes, table.isRule .tableName = true ∧ tree.aliasBeside? table = some a

theorem isTableAlias_iff (hids : (tree.nodes.map Node.id).Nodup) :
    tree.IsTableAlias a ↔
      ∃ p ∈ tree.nodes, p.HoldsTable ∧ p.childRule? .aliasName = some a := by
  constructor
  · rintro ⟨table, htable, hrule, halias⟩
    obtain ⟨p, hp, hchild⟩ := Option.bind_eq_some_iff.mp halias
    obtain ⟨hmem, c, hc, hid⟩ := parent?_eq_some hp
    have hcMem : c ∈ tree.nodes := Node.mem_nodes_trans (Node.mem_nodes_of_mem_children hc) hmem
    obtain rfl := Node.eq_of_id_eq hids hcMem htable hid
    exact ⟨p, hmem, ⟨c, hc, hrule⟩, hchild⟩
  · rintro ⟨p, hp, ⟨table, htable, hrule⟩, hchild⟩
    have hparent : tree.parent? table.id = some p :=
      (parent?_eq_some_iff hids).mpr ⟨hp, table, htable, rfl⟩
    refine ⟨table, Node.mem_nodes_trans (Node.mem_nodes_of_mem_children htable) hp, hrule, ?_⟩
    rw [aliasBeside?, hparent, Option.bind_some, hchild]

/-- The alias nearest to a node that is none itself belongs to a table just where it stands beside
the name of one. -/
theorem isTableAlias_of_nearest? {scope : Node} (hids : (tree.nodes.map Node.id).Nodup)
    (hscope : scope ∈ tree.nodes) (hrule : scope.isRule .aliasName = false)
    (ha : scope.nearest? .aliasName = some a) :
    tree.IsTableAlias a ↔ ∃ p ∈ scope.nodes, a ∈ p.children ∧ p.HoldsTable := by
  obtain ⟨q, hq, hfirst⟩ := Node.exists_childRule?_of_nearest? hrule ha
  have hqMem : q ∈ tree.nodes := Node.mem_nodes_trans hq hscope
  have haMem : a ∈ q.children := (Node.childRule?_eq_some hfirst).1
  rw [isTableAlias_iff hids]
  constructor
  · rintro ⟨p, hp, htable, hchild⟩
    obtain rfl := Node.parent_eq hids hp hqMem (Node.childRule?_eq_some hchild).1 haMem rfl
    exact ⟨p, hq, haMem, htable⟩
  · rintro ⟨p, hp, hchild, htable⟩
    have hpMem : p ∈ tree.nodes := Node.mem_nodes_trans hp hscope
    obtain rfl := Node.parent_eq hids hpMem hqMem hchild haMem rfl
    exact ⟨p, hpMem, htable, hfirst⟩

end ParseTree

namespace Statement

variable {s : Statement} {n : Node}

theorem top?_eq_some_iff {t : Top} :
    (s.top? n).outcome = .ok (some t) ↔
      ∃ clause value b scope a, n.nearest? .top = some clause ∧
        clause.nearest? .expr = some value ∧
        (s.boundAt "TOP expression" value).outcome = .ok b ∧
        s.tree.parent? clause.id = some scope ∧ scope.nearest? .aliasName = some a ∧
        t = ⟨b.span, b.bound.withPercent (clause.childToken? .percentKeyword).isSome,
          s.tree.textOf a⟩ := by
  unfold top?
  rcases hclause : n.nearest? .top with _ | clause
  · simp
  · simp only [Logged.outcome_bind_eq_ok_iff, Node.required_eq_ok_iff, scopeOf_eq_ok_iff,
      Logged.outcome_log_bind, Logged.outcome_pure, Except.ok.injEq, Option.some.injEq]
    constructor
    · rintro ⟨value, hvalue, b, hb, scope, hscope, a, ha, rfl⟩
      exact ⟨clause, value, b, scope, a, rfl, hvalue, hb, hscope, ha, rfl⟩
    · rintro ⟨_, value, b, scope, a, rfl, hvalue, hb, hscope, ha, rfl⟩
      exact ⟨value, hvalue, b, hb, scope, hscope, a, ha, rfl⟩

/-- All else in order, a clause is refused just where no alias at all is below its scope. -/
theorem top?_eq_error_iff {clause value scope : Node} {b : BoundSegment} {e : ExtractionError}
    (hclause : n.nearest? .top = some clause) (hvalue : clause.nearest? .expr = some value)
    (hb : (s.boundAt "TOP expression" value).outcome = .ok b)
    (hscope : s.tree.parent? clause.id = some scope) :
    (s.top? n).outcome = .error e ↔
      scope.lacks .aliasName = true ∧ e = .missingNode .aliasName scope.label scope.start := by
  unfold top?
  rw [hclause]
  dsimp only
  rw [Logged.outcome_bind_of_ok (Node.required_eq_ok_iff.mpr hvalue), Logged.outcome_bind_of_ok hb,
    Logged.outcome_bind_of_ok (scopeOf_eq_ok_iff.mpr hscope), Logged.outcome_bind_eq_error_iff,
    Node.required_eq_error_iff]
  simp

end Statement

/-- A TOP clause takes the nearest alias below the node around it, be it that of a table, and is
refused just where there is none. -/
theorem top_aliases {tree : ParseTree} (hbuilt : tree.IsBuilt) (markers : MarkerNumbering) :
    (∀ t, (Statement.top? ⟨tree, markers⟩ tree.root).outcome = .ok (some t) →
      ∃ clause scope a, tree.root.nearest? .top = some clause ∧
        tree.parent? clause.id = some scope ∧ scope.nearest? .aliasName = some a ∧
        t.rowNumberAlias = tree.textOf a ∧
        (scope.isRule .aliasName = false →
          (tree.IsTableAlias a ↔ ∃ p ∈ scope.nodes, a ∈ p.children ∧ p.HoldsTable))) ∧
    ∀ clause value b scope e, tree.root.nearest? .top = some clause →
      clause.nearest? .expr = some value →
      (Statement.boundAt ⟨tree, markers⟩ "TOP expression" value).outcome = .ok b →
      tree.parent? clause.id = some scope →
        ((Statement.top? ⟨tree, markers⟩ tree.root).outcome = .error e ↔
          (∀ a ∈ scope.nodes, a.isRule .aliasName = false) ∧
            e = .missingNode .aliasName scope.label scope.start) := by
  refine ⟨?_, ?_⟩
  · intro t ht
    obtain ⟨clause, value, b, scope, a, hclause, -, -, hscope, ha, rfl⟩ :=
      Statement.top?_eq_some_iff.mp ht
    refine ⟨clause, scope, a, hclause, hscope, ha, rfl, ?_⟩
    intro hrule
    exact ParseTree.isTableAlias_of_nearest? hbuilt.ids_nodup (ParseTree.parent?_eq_some hscope).1
      hrule ha
  · intro clause value b scope e hclause hvalue hb hscope
    rw [← Node.lacks_iff]
    exact Statement.top?_eq_error_iff hclause hvalue hb hscope

def topNumber : Node :=
  .rule 5 "numberLiterals" ⟨11, 12⟩ [.token 6 "NUMBER_" ⟨11, 12⟩]

def topValue : Node :=
  .rule 4 "expr" ⟨11, 12⟩ [topNumber]

def topClause : Node :=
  .rule 2 "top" ⟨7, 12⟩ [.token 3 "TOP" ⟨7, 9⟩, topValue]

def tableNode : Node :=
  .rule 13 "tableName" ⟨21, 21⟩ [.rule 14 "name" ⟨21, 21⟩ [.token 15 "IDENTIFIER_" ⟨21, 21⟩]]

def tableAlias : Node :=
  .rule 16 "alias" ⟨23, 23⟩ [.token 17 "IDENTIFIER_" ⟨23, 23⟩]

def tableFactor (aliases : List Node) : Node :=
  .rule 12 "tableFactor" ⟨21, 23⟩ (tableNode :: aliases)

def topRoot (aliases : List Node) : Node :=
  .rule 0 "select" ⟨0, 23⟩
    [.token 1 "SELECT" ⟨0, 5⟩,
      topClause,
      .rule 7 "selectItems" ⟨14, 14⟩
        [.rule 8 "unqualifiedShorthand" ⟨14, 14⟩ [.token 9 "ASTERISK_" ⟨14, 14⟩]],
      .rule 10 "fromClause" ⟨16, 23⟩ [.token 11 "FROM" ⟨16, 19⟩, tableFactor aliases]]

/-- A statement that gives its row number no alias, but may give one to its table. -/
def topTree (aliases : List Node) : ParseTree :=
  ⟨StatementText.ofString "SELECT TOP 10 * FROM t o", topRoot aliases⟩

theorem topTree_isBuilt : (topTree [tableAlias]).IsBuilt :=
  ⟨"SELECT TOP 10 * FROM t o", (topRoot [tableAlias]).steps, rfl⟩

theorem topTree_nil_isBuilt : (topTree []).IsBuilt :=
  ⟨"SELECT TOP 10 * FROM t o", (topRoot []).steps, rfl⟩

theorem boundAt_topTree (aliases : List Node) (markers : MarkerNumbering) :
    (Statement.boundAt ⟨topTree aliases, markers⟩ "TOP expression" topValue).outcome =
      .ok ⟨⟨11, 12⟩, .ofLiteral 10⟩ := by
  have htrim : Blank.trim ((topTree aliases).textOf topNumber) = "10" := by
    show Blank.trim ((topTree []).textOf topNumber) = "10"
    rfl
  have hdigits : Numeral.IsDigits "10".toList := by decide
  have hnode : topValue.solely? .numberLiterals = some topNumber := rfl
  refine Statement.boundAt_of_number (by decide) rfl hnode (.integer ?_) rfl
  rw [htrim]
  exact .unsigned hdigits

theorem nearest?_topRoot : (topRoot [tableAlias]).nearest? .top = some topClause := by
  with_unfolding_all rfl

theorem parent?_topClause :
    (topTree [tableAlias]).parent? topClause.id = some (topRoot [tableAlias]) := by
  rfl

theorem nearest?_tableAlias : (topRoot [tableAlias]).nearest? .aliasName = some tableAlias := by
  with_unfolding_all rfl

theorem top?_topTree (markers : MarkerNumbering) :
    (Statement.top? ⟨topTree [tableAlias], markers⟩ (topTree [tableAlias]).root).outcome =
      .ok (some ⟨⟨11, 12⟩, .ofLiteral 10, "o"⟩) := by
  refine Statement.top?_eq_some_iff.mpr ⟨topClause, topValue, ⟨⟨11, 12⟩, .ofLiteral 10⟩,
    topRoot [tableAlias], tableAlias, nearest?_topRoot, ?_, boundAt_topTree _ _,
    parent?_topClause, nearest?_tableAlias, ?_⟩
  · with_unfolding_all rfl
  · have htext : (topTree [tableAlias]).textOf tableAlias = "o" := rfl
    dsimp only
    rw [htext]
    rfl

theorem topTree_aliases :
    (topTree [tableAlias]).IsBuilt ∧ (topTree []).IsBuilt ∧
      (∃ a, (topTree [tableAlias]).textOf a = "o" ∧ (topTree [tableAlias]).IsTableAlias a) ∧
      (Statement.top? ⟨topTree [], .empty⟩ (topTree []).root).outcome =
        .error (.missingNode .aliasName "select" 0) := by
  refine ⟨topTree_isBuilt, topTree_nil_isBuilt, ?_, ?_⟩
  · obtain ⟨htaken, -⟩ := top_aliases topTree_isBuilt .empty
    obtain ⟨clause, scope, a, hclause, hscope, ha, htext, hiff⟩ := htaken _ (top?_topTree .empty)
    obtain rfl := Option.some.inj (nearest?_topRoot.symm.trans hclause)
    obtain rfl := Option.some.inj (parent?_topClause.symm.trans hscope)
    obtain rfl := Option.some.inj (nearest?_tableAlias.symm.trans ha)
    have hmem : tableFactor [tableAlias] ∈ (topRoot [tableAlias]).nodes := by
      simp [topRoot, Node.nodes, Node.self_mem_nodes]
    refine ⟨tableAlias, htext.symm, (hiff (by decide)).mpr ⟨_, hmem, ?_, tableNode, ?_, by decide⟩⟩
    · exact List.mem_cons_of_mem _ List.mem_cons_self
    · exact List.mem_cons_self
  · obtain ⟨-, hrefused⟩ := top_aliases topTree_nil_isBuilt .empty
    have hnone : ∀ a ∈ (topRoot []).nodes, a.isRule .aliasName = false := by decide
    have hclause : (topRoot []).nearest? .top = some topClause := by with_unfolding_all rfl
    have hvalue : topClause.nearest? .expr = some topValue := by with_unfolding_all rfl
    exact (hrefused topClause topValue ⟨⟨11, 12⟩, .ofLiteral 10⟩ (topRoot []) _ hclause hvalue
      (boundAt_topTree _ _) rfl).mpr ⟨hnone, rfl⟩

/-- The alias that is taken may be that of a table. -/
theorem not_forall_alias_not_of_table :
    ¬∀ (tree : ParseTree) (markers : MarkerNumbering) (t : Top) (clause scope a : Node),
      tree.IsBuilt → (Statement.top? ⟨tree, markers⟩ tree.root).outcome = .ok (some t) →
      tree.root.nearest? .top = some clause → tree.parent? clause.id = some scope →
      scope.nearest? .aliasName = some a → ¬tree.IsTableAlias a := by
  intro h
  have hmem : tableNode ∈ (topTree [tableAlias]).nodes := by
    simp [topTree, topRoot, tableFactor, ParseTree.nodes, Node.nodes, Node.self_mem_nodes]
  have halias : (topTree [tableAlias]).aliasBeside? tableNode = some tableAlias := rfl
  exact h (topTree [tableAlias]) .empty _ topClause (topRoot [tableAlias]) tableAlias
    topTree_isBuilt (top?_topTree .empty) nearest?_topRoot parent?_topClause nearest?_tableAlias
    ⟨tableNode, hmem, by decide, halias⟩

end StatementSegments
