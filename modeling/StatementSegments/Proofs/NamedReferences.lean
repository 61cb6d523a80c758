import StatementSegments.Extraction.Reference
import StatementSegments.Proofs.Outcome
import StatementSegments.Proofs.VisitOrder

namespace StatementSegments

namespace Node

/-- No rule node made by `r` is the node or below it. -/
def lacks (n : Node) (r : Rule) : Bool :=
  n.nodes.all fun m => !m.isRule r

variable {n m : Node} {r : Rule} {e : ExtractionError}

theorem lacks_iff : n.lacks r = true ↔ ∀ m ∈ n.nodes, m.isRule r = false := by
  simp [lacks]

theorem nearest?_eq_none_iff_lacks : n.nearest? r = none ↔ n.lacks r = true := by
  rw [nearest?_eq_none_iff, lacks_iff]

/-- A look-up that starts where it ends finds the node it starts from. -/
theorem nearest?_self (h : n.isRule r = true) : n.nearest? r = some n := by
  rw [nearest?, breadthFirst]
  exact List.find?_cons_of_pos h

theorem required_eq_ok_iff : (n.required r).outcome = .ok m ↔ n.nearest? r = some m := by
  unfold required
  cases n.nearest? r with
  | none => simp
  | some found => simp

theorem mem_nodes_of_required (h : (n.required r).outcome = .ok m) : m ∈ n.nodes :=
  (nearest?_eq_some (required_eq_ok_iff.mp h)).1

theorem required_eq_error_iff :
    (n.required r).outcome = .error e ↔ n.lacks r = true ∧ e = .missingNode r n.label n.start := by
  rw [← nearest?_eq_none_iff_lacks]
  unfold required
  cases n.nearest? r with
  | none => simp [eq_comm]
  | some found => simp

end Node

namespace ParseTree

variable {tree : ParseTree} {n : Node} {e : ExtractionError}

theorem columnAt_eq_error_iff :
    (tree.columnAt n).outcome = .error e ↔
      n.lacks .name = true ∧ e = .missingNode .name n.label n.start := by
  simp [columnAt, Logged.outcome_bind_eq_error_iff, Node.required_eq_error_iff]

theorem columnAt_unbound {c : Column} (h : (tree.columnAt n).outcome = .ok c) :
    c.owner = none := by
  obtain ⟨name, -, hc⟩ := Logged.outcome_bind_eq_ok_iff.mp h
  cases hc
  rfl

theorem columnAt_span {c : Column} (h : (tree.columnAt n).outcome = .ok c) : c.span = n.span := by
  obtain ⟨name, -, hc⟩ := Logged.outcome_bind_eq_ok_iff.mp h
  cases hc
  rfl

/-- From a column the column itself is found, so that the look-up never comes back empty. -/
theorem column?_of_isRule (h : n.isRule .columnName = true) :
    tree.column? n = tree.columnAt n >>= fun c => pure (some c) := by
  rw [column?, Node.nearest?_self h, Option.mapM_some, map_eq_pure_bind]

theorem column?_bind_of_isRule {α : Type} (h : n.isRule .columnName = true)
    (f : Option Column → Extraction α) :
    (tree.column? n >>= f) = tree.columnAt n >>= fun c => f (some c) := by
  rw [column?_of_isRule h, bind_assoc]
  simp only [pure_bind]

theorem column?_eq_some_iff {c : Column} (h : n.isRule .columnName = true) :
    (tree.column? n).outcome = .ok (some c) ↔ (tree.columnAt n).outcome = .ok c := by
  simp [column?_of_isRule h, Logged.outcome_bind_eq_ok_iff]

theorem tableAt_span {t : Table} (h : (tree.tableAt n).outcome = .ok t) : t.span = n.span := by
  obtain ⟨name, -, ht⟩ := Logged.outcome_bind_eq_ok_iff.mp h
  cases ht
  rfl

theorem tableAt_eq_error_iff :
    (tree.tableAt n).outcome = .error e ↔
      n.lacks .name = true ∧ e = .missingNode .name n.label n.start := by
  simp [tableAt, Logged.outcome_bind_eq_error_iff, Node.required_eq_error_iff]

/-- The first node of a rule, in the order of the text, that has no name. -/
def firstNameless? (tree : ParseTree) (r : Rule) : Option Node :=
  tree.nodes.find? fun n => n.isRule r && n.lacks .name

theorem firstNameless?_eq (r : Rule) :
    tree.firstNameless? r = (tree.root.allOf r).find? (·.lacks .name) := by
  rw [Node.allOf_eq, List.find?_filter]
  simp [firstNameless?, nodes]

theorem columns_eq_error_iff :
    (tree.columns tree.root).outcome = .error e ↔
      ∃ n, tree.firstNameless? .columnName = some n ∧
        e = .missingNode .name n.label n.start := by
  rw [firstNameless?_eq]
  exact Logged.outcome_mapM_eq_error_iff fun _ _ => columnAt_eq_error_iff

theorem tables_eq_error_iff :
    (tree.tables tree.root).outcome = .error e ↔
      ∃ n, tree.firstNameless? .tableName = some n ∧
        e = .missingNode .name n.label n.start := by
  rw [firstNameless?_eq]
  exact Logged.outcome_mapM_eq_error_iff fun _ _ => tableAt_eq_error_iff

theorem exists_columns_iff :
    (∃ columns, (tree.columns tree.root).outcome = .ok columns) ↔
      tree.firstNameless? .columnName = none :=
  Logged.exists_outcome_ok_iff fun _ => columns_eq_error_iff

theorem exists_tables_iff :
    (∃ tables, (tree.tables tree.root).outcome = .ok tables) ↔
      tree.firstNameless? .tableName = none :=
  Logged.exists_outcome_ok_iff fun _ => tables_eq_error_iff

theorem firstNameless?_eq_none_iff {r : Rule} :
    tree.firstNameless? r = none ↔
      ∀ n ∈ tree.nodes, n.isRule r = true → n.lacks .name = false := by
  simp [firstNameless?]

theorem columns_spans {columns : List Column} (h : (tree.columns n).outcome = .ok columns) :
    columns.map Column.span = (n.nodes.filter (·.isRule .columnName)).map Node.span := by
  rw [← Node.allOf_eq]
  exact Logged.map_eq_map_of_outcome_mapM (fun _ _ => columnAt_span) h

theorem tables_spans {tables : List Table} (h : (tree.tables n).outcome = .ok tables) :
    tables.map Table.span = (n.nodes.filter (·.isRule .tableName)).map Node.span := by
  rw [← Node.allOf_eq]
  exact Logged.map_eq_map_of_outcome_mapM (fun _ _ => tableAt_span) h

theorem columns_unbound {columns : List Column}
    (h : (tree.columns n).outcome = .ok columns) : ∀ c ∈ columns, c.owner = none := by
  intro c hc
  obtain ⟨m, -, hm⟩ := Logged.exists_of_mem_outcome_mapM h hc
  exact columnAt_unbound hm

end ParseTree

end StatementSegments
