import Mathlib.Data.List.Basic
import StatementSegments.Proofs.BuiltTree

/-!
Numbers and spans of the nodes of a built tree. The numbers are the positions in the order of the
tree, so those of a node and of all below it follow one another, and of two nodes the one with the
larger number is below the other or behind it in the text.
-/
namespace StatementSegments

theorem eq_range'_of_append_eq_range {before l after : List Nat} {n : Nat}
    (h : before ++ (l ++ after) = List.range n) : l = List.range' before.length l.length := by
  rw [List.range_eq_range', eq_comm, List.range'_eq_append_iff] at h
  obtain ⟨k, -, hbefore, hrest⟩ := h
  rw [eq_comm, List.range'_eq_append_iff] at hrest
  obtain ⟨m, -, hl, -⟩ := hrest
  rw [hbefore, hl]
  simp

namespace Span

theorem Encloses.not_stop_lt_start {a b : Span} (h : a.Encloses b) (hb : b.start ≤ b.stop) :
    ¬ a.stop < b.start :=
  Nat.not_lt_of_le (Nat.le_trans hb h.2)

end Span

theorem Node.nodup_of_ids_pairwise {ns : List Node} (h : ns.Pairwise fun a b => a.id < b.id) :
    ns.Nodup :=
  h.imp fun hlt heq => Nat.ne_of_lt hlt (congrArg Node.id heq)

namespace ParseTree.IsBuilt

variable {tree : ParseTree} (hbuilt : tree.IsBuilt)
include hbuilt

/-- The number of a node is its position. -/
theorem getElem?_nodes_iff {id : Nat} {n : Node} :
    tree.nodes[id]? = some n ↔ n ∈ tree.nodes ∧ n.id = id := by
  have hid : ∀ (i : Nat) (m : Node), tree.nodes[i]? = some m → m.id = i := by
    intro i m hm
    have hget : (tree.nodes.map Node.id)[i]? = some m.id := by rw [List.getElem?_map, hm]; rfl
    rw [hbuilt.ids_eq_range, List.getElem?_eq_some_iff] at hget
    obtain ⟨hi, hget⟩ := hget
    rw [← hget, List.getElem_range]
  constructor
  · intro h
    exact ⟨List.mem_of_getElem? h, hid id n h⟩
  · rintro ⟨hn, rfl⟩
    obtain ⟨i, hi⟩ := List.mem_iff_getElem?.mp hn
    rw [hid i n hi]
    exact hi

theorem pairwise_of_id_lt {R : Node → Node → Prop} (h : tree.nodes.Pairwise R) {a b : Node}
    (ha : a ∈ tree.nodes) (hb : b ∈ tree.nodes) (hlt : a.id < b.id) : R a b := by
  obtain ⟨hi, hgeta⟩ := List.getElem?_eq_some_iff.mp (hbuilt.getElem?_nodes_iff.mpr ⟨ha, rfl⟩)
  obtain ⟨hj, hgetb⟩ := List.getElem?_eq_some_iff.mp (hbuilt.getElem?_nodes_iff.mpr ⟨hb, rfl⟩)
  rw [← hgeta, ← hgetb]
  exact List.pairwise_iff_getElem.mp h _ _ hi hj hlt

theorem below_or_behind {a b : Node} (ha : a ∈ tree.nodes) (hb : b ∈ tree.nodes)
    (hlt : a.id < b.id) :
    (b ∈ a.nodes ∧ a.span.Encloses b.span) ∨ (b ∉ a.nodes ∧ a.stop < b.start) := by
  rcases hbuilt.pairwise_of_id_lt hbuilt.nested.nodes_pairwise ha hb hlt with hbelow | hbehind
  · exact Or.inl hbelow
  · refine Or.inr ⟨?_, hbehind⟩
    intro hmem
    have hencloses := (hbuilt.nested.below ha).encloses hmem
    exact hencloses.not_stop_lt_start (hbuilt.nested b hb).start_le_stop hbehind

theorem stop_lt_start_of_not_mem {a b : Node} (ha : a ∈ tree.nodes) (hb : b ∈ tree.nodes)
    (hlt : a.id < b.id) (hapart : b ∉ a.nodes) : a.stop < b.start := by
  rcases hbuilt.below_or_behind ha hb hlt with ⟨hbelow, -⟩ | ⟨-, hbehind⟩
  · exact absurd hbelow hapart
  · exact hbehind

theorem subtree_ids_pairwise {n : Node} (hn : n ∈ tree.nodes) :
    n.nodes.Pairwise fun a b => a.id < b.id :=
  hbuilt.ids_pairwise.sublist (Node.nodes_isInfix hn).sublist

/-- The numbers of a node and of all below it follow one another. -/
theorem ids_subtree {a : Node} (ha : a ∈ tree.nodes) :
    a.nodes.map Node.id = List.range' a.id a.nodes.length := by
  obtain ⟨before, after, hsplit⟩ := Node.nodes_isInfix ha
  have hids := hbuilt.ids_eq_range
  rw [nodes, ← hsplit, List.append_assoc, List.map_append, List.map_append] at hids
  have hrange := eq_range'_of_append_eq_range hids
  -- The node itself is the first of them, so its number is where they start.
  have hstart : a.id = (before.map Node.id).length := by
    rw [Node.nodes_eq_cons a, List.map_cons, List.length_cons, List.range'_succ] at hrange
    exact (List.cons.inj hrange).1
  rw [hrange, hstart]
  simp only [List.length_map]

theorem start_le_of_id_le {a b : Node} (ha : a ∈ tree.nodes) (hb : b ∈ tree.nodes)
    (hle : a.id ≤ b.id) : a.start ≤ b.start := by
  rcases Nat.lt_or_eq_of_le hle with hlt | heq
  · exact hbuilt.pairwise_of_id_lt hbuilt.nested.starts_pairwise ha hb hlt
  · exact Nat.le_of_eq (congrArg Node.start (Node.eq_of_id_eq hbuilt.ids_nodup ha hb heq))

theorem encloses_or_disjoint {a b : Node} (ha : a ∈ tree.nodes) (hb : b ∈ tree.nodes) :
    a.span.Encloses b.span ∨ b.span.Encloses a.span ∨ a.span.Disjoint b.span := by
  rcases Nat.lt_trichotomy a.id b.id with hlt | heq | hgt
  · rcases hbuilt.below_or_behind ha hb hlt with ⟨-, hencloses⟩ | ⟨-, hbehind⟩
    · exact Or.inl hencloses
    · exact Or.inr (Or.inr (Span.disjoint_of_stop_lt_start hbehind))
  · rw [Node.eq_of_id_eq hbuilt.ids_nodup ha hb heq]
    exact Or.inl (Span.Encloses.refl _)
  · rcases hbuilt.below_or_behind hb ha hgt with ⟨-, hencloses⟩ | ⟨-, hbehind⟩
    · exact Or.inr (Or.inl hencloses)
    · exact Or.inr (Or.inr (Span.disjoint_of_stop_lt_start hbehind).symm)

end ParseTree.IsBuilt

namespace ParseTree

/-- Of two nodes the one with the larger number is below the other and within its span, or it starts
behind it. -/
theorem ids_order_spans {tree : ParseTree} (hbuilt : tree.IsBuilt) :
    (∀ a ∈ tree.nodes, ∀ b ∈ tree.nodes, a.id < b.id →
      (b ∈ a.nodes ∧ a.span.Encloses b.span) ∨ (b ∉ a.nodes ∧ a.stop < b.start)) ∧
    (∀ id n, tree.nodes[id]? = some n ↔ n ∈ tree.nodes ∧ n.id = id) ∧
    (∀ a ∈ tree.nodes, a.nodes.map Node.id = List.range' a.id a.nodes.length) ∧
    (∀ a ∈ tree.nodes, ∀ b ∈ tree.nodes, a.id ≤ b.id → a.start ≤ b.start) ∧
    ∀ a ∈ tree.nodes, ∀ b ∈ tree.nodes,
      a.span.Encloses b.span ∨ b.span.Encloses a.span ∨ a.span.Disjoint b.span := by
  refine ⟨?_, ?_, ?_, ?_, ?_⟩
  · intro a ha b hb hlt
    exact hbuilt.below_or_behind ha hb hlt
  · intro id n
    exact hbuilt.getElem?_nodes_iff
  · intro a ha
    exact hbuilt.ids_subtree ha
  · intro a ha b hb hle
    exact hbuilt.start_le_of_id_le ha hb hle
  · intro a ha b hb
    exact hbuilt.encloses_or_disjoint ha hb

/-- The comma of the clause comes between its two bounds. -/
theorem limitTree_ids_order_spans :
    limitTree.IsBuilt ∧
      (∀ a ∈ limitTree.nodes, a.id < 7 → 7 ∈ a.nodes.map Node.id ∨ a.stop < 9) ∧
      ∀ b ∈ limitTree.nodes, 7 < b.id → 9 < b.start := by
  have hbuilt : limitTree.IsBuilt := ⟨_, _, finish_limitSteps⟩
  obtain ⟨horder, -⟩ := ids_order_spans hbuilt
  have hcomma : Node.token 7 "COMMA_" ⟨9, 9⟩ ∈ limitTree.nodes := by
    simp [limitTree, nodes, Node.nodes]
  refine ⟨hbuilt, ?_, ?_⟩
  · intro a ha hlt
    rcases horder a ha _ hcomma hlt with ⟨hbelow, -⟩ | ⟨-, hbehind⟩
    · exact Or.inl (List.mem_map_of_mem hbelow)
    · exact Or.inr hbehind
  · intro b hb hlt
    rcases horder _ hcomma b hb hlt with ⟨hbelow, -⟩ | ⟨-, hbehind⟩
    · rw [List.mem_singleton.mp hbelow] at hlt
      exact absurd hlt (Nat.lt_irrefl 7)
    · exact hbehind

end ParseTree

end StatementSegments
