import StatementSegments.Extraction.Reference
import StatementSegments.Proofs.NodeLevels
import StatementSegments.Proofs.Outcome
import StatementSegments.Proofs.SelectedParts
import StatementSegments.Proofs.SubtreeNodes

namespace StatementSegments

namespace Node

variable {α : Type} {n m : Node} {r : Rule} {build : Node → Extraction α}

/-- What is made from the nearest node of a rule stands at the place of that node among what is made
from all of them. -/
structure AgreesWithAll (n : Node) (r : Rule) (build : Node → Extraction α)
    (single : Extraction (Option α)) (all : Extraction (List α)) : Prop where
  none_iff : single.outcome = .ok none ↔ all.outcome = .ok []
  nearest : ∀ items, all.outcome = .ok items → items ≠ [] →
    ∃ (m : Node) (i : Nat) (item : α), n.IsNearest r m ∧
      (n.nodes.filter (·.isRule r))[i]? = some m ∧ items[i]? = some item ∧
      (build m).outcome = .ok item ∧ single.outcome = .ok (some item)
  fails : ∀ e, single.outcome = .error e → ∃ e', all.outcome = .error e'

theorem allOf_eq_nil_iff : n.allOf r = [] ↔ n.nearest? r = none := by
  rw [allOf_eq, List.filter_eq_nil_iff, nearest?_eq_none_iff]
  simp only [Bool.not_eq_true]

theorem mem_allOf_of_nearest? (h : n.nearest? r = some m) : m ∈ n.allOf r :=
  mem_allOf_iff.mpr (nearest?_eq_some h)

theorem outcome_single_eq_none_iff :
    ((n.nearest? r).mapM build).outcome = .ok none ↔ n.nearest? r = none := by
  cases n.nearest? r with
  | none => simp
  | some m => simp [map_eq_pure_bind, Logged.outcome_bind_eq_ok_iff]

/-- What is made from all nodes is made from the nearest one as well. -/
theorem outcome_single_of_all {items : List α} (hm : n.nearest? r = some m)
    (h : ((n.allOf r).mapM build).outcome = .ok items) :
    ∃ (i : Nat) (item : α), (n.allOf r)[i]? = some m ∧ items[i]? = some item ∧
      (build m).outcome = .ok item ∧ ((n.nearest? r).mapM build).outcome = .ok (some item) := by
  obtain ⟨i, hi⟩ := List.mem_iff_getElem?.mp (mem_allOf_of_nearest? hm)
  obtain ⟨item, hitem, hbuild⟩ := Logged.exists_getElem?_of_outcome_mapM h hi
  exact ⟨i, item, hi, hitem, hbuild, Logged.outcome_mapM_option_eq_some_iff.mpr ⟨m, hm, hbuild⟩⟩

theorem agreesWithAll (hsorted : n.nodes.Pairwise fun a b => a.id < b.id) (r : Rule)
    (build : Node → Extraction α) :
    n.AgreesWithAll r build ((n.nearest? r).mapM build) ((n.allOf r).mapM build) where
  none_iff := by
    rw [outcome_single_eq_none_iff, Logged.outcome_mapM_eq_ok_nil_iff, allOf_eq_nil_iff]
  nearest items hall hne := by
    have hsome : n.nearest? r ≠ none := by
      rw [ne_eq, ← allOf_eq_nil_iff]
      intro hnil
      rw [hnil] at hall
      cases hall
      exact hne rfl
    obtain ⟨m, hm⟩ := Option.ne_none_iff_exists'.mp hsome
    obtain ⟨i, item, hi, hitem, hbuild, hsingle⟩ := outcome_single_of_all hm hall
    rw [allOf_eq] at hi
    exact ⟨m, i, item, (nearest?_eq_some_iff hsorted).mp hm, hi, hitem, hbuild, hsingle⟩
  fails e hsingle := by
    rcases hall : ((n.allOf r).mapM build).outcome with e' | items
    · exact ⟨e', rfl⟩
    · obtain ⟨m, hm, -⟩ := Logged.outcome_mapM_option_eq_error_iff.mp hsingle
      obtain ⟨-, item, -, -, -, hok⟩ := outcome_single_of_all hm hall
      rw [hsingle] at hok
      cases hok

end Node

/-- One table is found just where all tables are not none, and it is in the list at the place of the
nearest node. The same holds of columns. -/
theorem single_agrees_with_all {tree : ParseTree} (hbuilt : tree.IsBuilt) {n : Node}
    (hn : n ∈ tree.nodes) :
    n.AgreesWithAll .tableName tree.tableAt (tree.table? n) (tree.tables n) ∧
      n.AgreesWithAll .columnName tree.columnAt (tree.column? n) (tree.columns n) := by
  have hsorted := hbuilt.subtree_ids_pairwise hn
  exact ⟨Node.agreesWithAll hsorted .tableName tree.tableAt,
    Node.agreesWithAll hsorted .columnName tree.columnAt⟩

def deepTable : Node :=
  .rule 3 "tableName" ⟨1, 1⟩ [.ofToken 4 "name" ⟨1, 1⟩]

def shallowTable : Node :=
  .rule 8 "tableName" ⟨5, 5⟩ [.ofToken 9 "name" ⟨5, 5⟩]

/-- A table in brackets, and behind it one that is less deep. -/
def tablesTree : ParseTree where
  text := StatementText.ofString "(a), b"
  root :=
    .rule 0 "tableReferences" ⟨0, 5⟩
      [.rule 1 "tableFactor" ⟨0, 2⟩
          [.token 2 "LP_" ⟨0, 0⟩, deepTable, .token 6 "RP_" ⟨2, 2⟩],
        .token 7 "COMMA_" ⟨3, 3⟩, shallowTable]

theorem tablesTree_isBuilt : tablesTree.IsBuilt :=
  ⟨"(a), b", tablesTree.root.steps, rfl⟩

theorem tablesTree_agrees :
    tablesTree.IsBuilt ∧ tablesTree.root ∈ tablesTree.nodes ∧
      (tablesTree.tables tablesTree.root).outcome =
        .ok [⟨⟨1, 1⟩, "a", none, none⟩, ⟨⟨5, 5⟩, "b", none, none⟩] ∧
      (tablesTree.table? tablesTree.root).outcome = .ok (some ⟨⟨5, 5⟩, "b", none, none⟩) ∧
      (tablesTree.column? tablesTree.root).outcome = .ok none := by
  have hroot := tablesTree.root.self_mem_nodes
  obtain ⟨htable, hcolumn⟩ := single_agrees_with_all tablesTree_isBuilt hroot
  have htables : (tablesTree.tables tablesTree.root).outcome =
      .ok [⟨⟨1, 1⟩, "a", none, none⟩, ⟨⟨5, 5⟩, "b", none, none⟩] := by with_unfolding_all rfl
  have hcolumns : (tablesTree.columns tablesTree.root).outcome = .ok [] := by with_unfolding_all rfl
  have hshallow : tablesTree.root.nearest? .tableName = some shallowTable := by
    with_unfolding_all rfl
  have hat : (tablesTree.tableAt shallowTable).outcome = .ok ⟨⟨5, 5⟩, "b", none, none⟩ := by
    with_unfolding_all rfl
  obtain ⟨m, i, item, hm, -, -, hbuild, hsingle⟩ := htable.nearest _ htables (by simp)
  rw [← tablesTree_isBuilt.nearest?_eq_some_iff hroot, hshallow] at hm
  cases hm
  rw [hat] at hbuild
  cases hbuild
  exact ⟨tablesTree_isBuilt, hroot, htables, hsingle, hcolumn.none_iff.mpr hcolumns⟩

end StatementSegments
