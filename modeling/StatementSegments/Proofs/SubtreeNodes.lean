import StatementSegments.Proofs.NodeIntervals
import StatementSegments.Proofs.StepStreams
import StatementSegments.Proofs.VisitOrder

namespace StatementSegments

namespace Node

variable {n m : Node} {r : Rule}

theorem mem_allOf_iff : m ∈ n.allOf r ↔ m ∈ n.nodes ∧ m.isRule r = true := by
  rw [allOf_eq, List.mem_filter]

theorem allOf_sublist : (n.allOf r).Sublist n.nodes := by
  rw [allOf_eq]
  exact List.filter_sublist

/-- Lists in the order of the numbers are the same if they have the same members. -/
theorem eq_of_ids_pairwise {ns ms : List Node} (hns : ns.Pairwise fun a b => a.id < b.id)
    (hms : ms.Pairwise fun a b => a.id < b.id) (hmem : ∀ m, m ∈ ns ↔ m ∈ ms) : ns = ms := by
  have hperm : ns.Perm ms := (List.perm_ext_iff_of_nodup (nodup_of_ids_pairwise hns)
    (nodup_of_ids_pairwise hms)).mpr hmem
  refine List.Perm.eq_of_pairwise ?_ hns hms hperm
  intro a b _ _ hlt hgt
  exact absurd hgt (Nat.lt_asymm hlt)

end Node

namespace ParseTree

namespace IsBuilt

variable {tree : ParseTree} (hbuilt : tree.IsBuilt) {n : Node} (hn : n ∈ tree.nodes)
include hbuilt hn

theorem mem_subtree_iff {m : Node} (hm : m ∈ tree.nodes) :
    m ∈ n.nodes ↔ n.id ≤ m.id ∧ m.id < n.id + n.nodes.length := by
  have hids : m.id ∈ n.nodes.map Node.id ↔ n.id ≤ m.id ∧ m.id < n.id + n.nodes.length := by
    rw [hbuilt.ids_subtree hn, List.mem_range'_1]
  rw [← hids, List.mem_map]
  constructor
  · intro h
    exact ⟨m, h, rfl⟩
  · rintro ⟨k, hk, hid⟩
    rwa [← Node.eq_of_id_eq hbuilt.ids_nodup (Node.mem_nodes_trans hk hn) hm hid]

/-- The nodes with numbers in the interval are those of the subtree, in the same order. -/
theorem filter_interval :
    tree.nodes.filter (fun m => decide (n.id ≤ m.id ∧ m.id < n.id + n.nodes.length)) =
      n.nodes := by
  refine Node.eq_of_ids_pairwise (hbuilt.ids_pairwise.filter _) (hbuilt.subtree_ids_pairwise hn) ?_
  intro m
  rw [List.mem_filter, decide_eq_true_iff]
  constructor
  · rintro ⟨hm, hinterval⟩
    exact (hbuilt.mem_subtree_iff hn hm).mpr hinterval
  · intro h
    have hm := Node.mem_nodes_trans h hn
    exact ⟨hm, (hbuilt.mem_subtree_iff hn hm).mp h⟩

theorem allOf_eq_filter (r : Rule) :
    n.allOf r = tree.nodes.filter fun m =>
      m.isRule r && decide (n.id ≤ m.id ∧ m.id < n.id + n.nodes.length) := by
  rw [Node.allOf_eq, ← List.filter_filter, hbuilt.filter_interval hn]

theorem allOf_ids_pairwise (r : Rule) : (n.allOf r).Pairwise fun a b => a.id < b.id :=
  (hbuilt.subtree_ids_pairwise hn).sublist Node.allOf_sublist

theorem allOf_below_or_behind (r : Rule) :
    (n.allOf r).Pairwise fun a b =>
      (b ∈ a.nodes ∧ a.span.Encloses b.span) ∨ (b ∉ a.nodes ∧ a.stop < b.start) := by
  refine (hbuilt.allOf_ids_pairwise hn r).imp_of_mem ?_
  intro a b ha hb hlt
  have haTree := Node.mem_nodes_trans (Node.mem_allOf_iff.mp ha).1 hn
  have hbTree := Node.mem_nodes_trans (Node.mem_allOf_iff.mp hb).1 hn
  exact hbuilt.below_or_behind haTree hbTree hlt

end IsBuilt

/-- The nodes that a rule made below a node are those of the tree with numbers in one interval, in
the order of their numbers. -/
theorem allOf_in_interval {tree : ParseTree} (hbuilt : tree.IsBuilt) {n : Node}
    (hn : n ∈ tree.nodes) (r : Rule) :
    (∀ m ∈ tree.nodes, m ∈ n.nodes ↔ n.id ≤ m.id ∧ m.id < n.id + n.nodes.length) ∧
    (n.allOf r = tree.nodes.filter fun m =>
      m.isRule r && decide (n.id ≤ m.id ∧ m.id < n.id + n.nodes.length)) ∧
    (n.allOf r).Pairwise (fun a b => a.id < b.id) ∧ (n.allOf r).Nodup ∧
    ∀ before a b after, n.allOf r = before ++ a :: b :: after →
      (b ∈ a.nodes ∧ a.span.Encloses b.span) ∨ (b ∉ a.nodes ∧ a.stop < b.start) := by
  refine ⟨?_, ?_, ?_, ?_, ?_⟩
  · intro m hm
    exact hbuilt.mem_subtree_iff hn hm
  · exact hbuilt.allOf_eq_filter hn r
  · exact hbuilt.allOf_ids_pairwise hn r
  · exact Node.nodup_of_ids_pairwise (hbuilt.allOf_ids_pairwise hn r)
  · intro before a b after hsplit
    have hpairs := hbuilt.allOf_below_or_behind hn r
    rw [hsplit, List.pairwise_append, List.pairwise_cons] at hpairs
    exact hpairs.2.1.1 b List.mem_cons_self

def bracketExpression : Node :=
  .rule 1 "expr" ⟨0, 2⟩
    [.token 2 "LP_" ⟨0, 0⟩,
      .rule 3 "expr" ⟨1, 1⟩ [.token 4 "NUMBER_" ⟨1, 1⟩],
      .token 5 "RP_" ⟨2, 2⟩]

/-- An expression that holds another one, and a third one behind it. -/
def sumTree : ParseTree where
  text := StatementText.ofString "(1)+2"
  root :=
    .rule 0 "select" ⟨0, 4⟩
      [bracketExpression,
        .token 6 "PLUS_" ⟨3, 3⟩,
        .rule 7 "expr" ⟨4, 4⟩ [.token 8 "NUMBER_" ⟨4, 4⟩]]

theorem sumTree_in_interval :
    sumTree.IsBuilt ∧ bracketExpression ∈ sumTree.nodes ∧
      (bracketExpression.allOf .expr).map Node.id = [1, 3] := by
  have hbuilt : sumTree.IsBuilt := ⟨"(1)+2", sumTree.root.steps, rfl⟩
  have hmem : bracketExpression ∈ sumTree.nodes := by
    simp [sumTree, nodes, Node.nodes, Node.self_mem_nodes]
  obtain ⟨-, hfilter, -⟩ := allOf_in_interval hbuilt hmem .expr
  refine ⟨hbuilt, hmem, ?_⟩
  rw [hfilter]
  rfl

end ParseTree

end StatementSegments
