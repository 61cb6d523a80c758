import Mathlib.Data.List.Lattice
import Mathlib.Data.List.Nodup
import Mathlib.Data.List.Pairwise
import Mathlib.Data.List.Perm.Basic
import StatementSegments.Tree.ParseTree

namespace StatementSegments

namespace Node

theorem nodesOfAll_eq_flatMap (ns : List Node) : nodesOfAll ns = ns.flatMap nodes := by
  induction ns with
  | nil => rfl
  | cons n ns ih => rw [nodesOfAll_cons, List.flatMap_cons, ih]

theorem nodes_eq_cons (n : Node) : n.nodes = n :: n.children.flatMap nodes := by
  rw [nodes_eq, nodesOfAll_eq_flatMap]

theorem sizeOf_lt_of_mem_children {n c : Node} (h : c ∈ n.children) : sizeOf c < sizeOf n := by
  cases n with
  | token id type span => cases h
  | rule id name span children =>
      have hlt : sizeOf c < sizeOf children := List.sizeOf_lt_of_mem h
      rw [rule.sizeOf_spec]
      omega

/-- What a node has once all its children have it, every node has. -/
theorem induction_children {motive : Node → Prop}
    (step : ∀ n, (∀ c ∈ n.children, motive c) → motive n) (n : Node) : motive n :=
  step n fun c _ => induction_children step c
  termination_by n
  decreasing_by exact sizeOf_lt_of_mem_children ‹_›

theorem mem_nodes_iff {m n : Node} : m ∈ n.nodes ↔ m = n ∨ ∃ c ∈ n.children, m ∈ c.nodes := by
  rw [nodes_eq_cons, List.mem_cons, List.mem_flatMap]

theorem self_mem_nodes (n : Node) : n ∈ n.nodes :=
  mem_nodes_iff.mpr (Or.inl rfl)

theorem mem_nodes_of_mem_children {n c : Node} (h : c ∈ n.children) : c ∈ n.nodes :=
  mem_nodes_iff.mpr (Or.inr ⟨c, h, c.self_mem_nodes⟩)

/-- The nodes below a node stand together. -/
theorem nodes_isInfix {m n : Node} (h : m ∈ n.nodes) : m.nodes <:+: n.nodes := by
  induction n using induction_children with
  | step n ih =>
      rcases mem_nodes_iff.mp h with rfl | ⟨c, hc, hm⟩
      · exact List.infix_rfl
      · have hflat : c.nodes <:+: n.children.flatMap nodes :=
          List.infix_of_mem_flatten (List.mem_map_of_mem hc)
        rw [nodes_eq_cons n]
        exact (ih c hc hm).trans (hflat.trans (List.suffix_cons n _).isInfix)

theorem mem_nodes_trans {k m n : Node} (hk : k ∈ m.nodes) (hm : m ∈ n.nodes) : k ∈ n.nodes :=
  (nodes_isInfix hm).subset hk

theorem sublist_flatMap_nodes (ns : List Node) : ns.Sublist (ns.flatMap nodes) := by
  induction ns with
  | nil => exact List.Sublist.slnil
  | cons n ns ih =>
      rw [List.flatMap_cons, nodes_eq_cons, List.cons_append]
      exact (ih.trans (List.sublist_append_right _ _)).cons_cons n

theorem cons_children_sublist (n : Node) : (n :: n.children).Sublist n.nodes := by
  rw [nodes_eq_cons]
  exact (sublist_flatMap_nodes n.children).cons_cons n

/-- The root and the children of all nodes are all nodes, each as often as it occurs. -/
theorem cons_flatMap_children_perm (n : Node) :
    (n :: n.nodes.flatMap children).Perm n.nodes := by
  induction n using induction_children with
  | step n ih =>
      have hbelow : (n.children.flatMap fun c => c :: c.nodes.flatMap children).Perm
          (n.children.flatMap nodes) := List.Perm.flatMap_left _ ih
      have hsplit : (n.children ++ n.children.flatMap fun c => c.nodes.flatMap children).Perm
          (n.children.flatMap fun c => c :: c.nodes.flatMap children) := by
        simpa using List.map_append_flatMap_perm n.children (fun c => c)
          fun c => c.nodes.flatMap children
      rw [nodes_eq_cons n, List.flatMap_cons, List.flatMap_assoc]
      exact (hsplit.trans hbelow).cons n

theorem exists_parent {m n : Node} (hm : m ∈ n.nodes) (hne : m ≠ n) :
    ∃ p ∈ n.nodes, m ∈ p.children := by
  have hmem := (cons_flatMap_children_perm n).mem_iff.mpr hm
  exact List.mem_flatMap.mp ((List.mem_cons.mp hmem).resolve_left hne)

variable {root : Node} (hids : (root.nodes.map id).Nodup)
include hids

theorem eq_of_id_eq {m n : Node} (hm : m ∈ root.nodes) (hn : n ∈ root.nodes)
    (h : m.id = n.id) : m = n :=
  List.inj_on_of_nodup_map hids hm hn h

theorem children_ids_nodup : ((root.nodes.flatMap children).map id).Nodup := by
  have hperm := (cons_flatMap_children_perm root).map id
  exact (List.nodup_cons.mp (hperm.nodup_iff.mpr hids)).2

theorem root_id_ne {p c : Node} (hp : p ∈ root.nodes) (hc : c ∈ p.children) : c.id ≠ root.id := by
  have hperm := (cons_flatMap_children_perm root).map id
  have hnot := (List.nodup_cons.mp (hperm.nodup_iff.mpr hids)).1
  intro h
  exact hnot (h ▸ List.mem_map_of_mem (List.mem_flatMap_of_mem hp hc))

theorem parent_eq {p q c d : Node} (hp : p ∈ root.nodes) (hq : q ∈ root.nodes)
    (hc : c ∈ p.children) (hd : d ∈ q.children) (h : c.id = d.id) : p = q := by
  have hnodup := children_ids_nodup hids
  rw [List.map_flatMap, List.nodup_flatMap] at hnodup
  have : Std.Symm (Function.onFun List.Disjoint fun n => (children n).map id) :=
    ⟨fun _ _ hdisjoint => List.Disjoint.symm hdisjoint⟩
  by_contra hne
  exact hnodup.2.forall hp hq hne (List.mem_map_of_mem hc) (h ▸ List.mem_map_of_mem hd)

end Node

namespace ParseTree

variable {tree : ParseTree}

theorem parent?_eq_some {id : Nat} {p : Node} (h : tree.parent? id = some p) :
    p ∈ tree.nodes ∧ ∃ c ∈ p.children, c.id = id :=
  ⟨List.mem_of_find?_eq_some h, by simpa using List.find?_some h⟩

variable (hids : (tree.nodes.map Node.id).Nodup)
include hids

theorem node?_eq_some_iff {id : Nat} {n : Node} :
    tree.node? id = some n ↔ n ∈ tree.nodes ∧ n.id = id := by
  constructor
  · intro h
    refine ⟨List.mem_of_find?_eq_some h, ?_⟩
    simpa using List.find?_some h
  · rintro ⟨hn, rfl⟩
    obtain ⟨m, hm⟩ : ∃ m, tree.node? n.id = some m :=
      Option.isSome_iff_exists.mp (List.find?_isSome.mpr ⟨n, hn, by simp⟩)
    have hid : m.id = n.id := by simpa using List.find?_some hm
    rw [hm, Node.eq_of_id_eq hids (List.mem_of_find?_eq_some hm) hn hid]

theorem parent?_eq_some_iff {id : Nat} {p : Node} :
    tree.parent? id = some p ↔ p ∈ tree.nodes ∧ ∃ c ∈ p.children, c.id = id := by
  constructor
  · exact parent?_eq_some
  · rintro ⟨hp, c, hc, rfl⟩
    obtain ⟨q, hq⟩ : ∃ q, tree.parent? c.id = some q :=
      Option.isSome_iff_exists.mp (List.find?_isSome.mpr ⟨p, hp, by simpa using ⟨c, hc, rfl⟩⟩)
    obtain ⟨d, hd, hid⟩ : ∃ d ∈ q.children, d.id = c.id := by simpa using List.find?_some hq
    rw [hq, Node.parent_eq hids (List.mem_of_find?_eq_some hq) hp hd hc hid]

end ParseTree

end StatementSegments
