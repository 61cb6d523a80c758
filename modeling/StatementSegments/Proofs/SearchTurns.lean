import Mathlib.Data.List.Flatten
import Mathlib.Data.List.Perm.Subperm
import StatementSegments.Proofs.NodeTexts
import StatementSegments.Tree.ArenaSearch

/-!
Turns of a search. In an arena that is no tree a search may go on for ever. In that of a built tree
it ends, as long as only children join in the turn of a node: no node is below two others, so the
nodes below those that wait become fewer with every turn, however many join.
-/
namespace StatementSegments

namespace WaitingOrder

variable {α β : Type}

theorem join_perm (order : WaitingOrder) (waiting joining : List α) :
    (order.join waiting joining).Perm (waiting ++ joining) := by
  cases order with
  | queue => exact List.Perm.refl _
  | stack => exact List.perm_append_comm

theorem map_join (order : WaitingOrder) (f : α → β) (waiting joining : List α) :
    (order.join waiting joining).map f = order.join (waiting.map f) (joining.map f) := by
  cases order <;> exact List.map_append

end WaitingOrder

/-- The nodes that ever wait: those at the beginning, and those that join in some turn. -/
def everWaiting (waiting : List Nat) (visits : List Visit) : List Nat :=
  waiting ++ visits.flatMap Visit.joining

theorem everWaiting_cons_perm (order : WaitingOrder) (id : Nat) (rest joining : List Nat)
    (visits : List Visit) :
    (everWaiting (id :: rest) (⟨id, joining⟩ :: visits)).Perm
      (id :: everWaiting (order.join rest joining) visits) := by
  unfold everWaiting
  rw [List.flatMap_cons, List.cons_append, ← List.append_assoc]
  exact ((order.join_perm rest joining).symm.append_right _).cons id

/-- No node waits twice and none has two turns, and there are no more turns than nodes. -/
structure IsOrderly (tree : ParseTree) (start : Nat) (visits : List Visit) : Prop where
  waiting_nodup : (everWaiting [start] visits).Nodup
  turns_nodup : (visits.map Visit.id).Nodup
  length_le : visits.length ≤ tree.size

theorem nodup_of_subperm {l m : List Nat} (h : l.Subperm m) (hm : m.Nodup) : l.Nodup := by
  obtain ⟨k, hperm, hsub⟩ := h
  exact hperm.nodup_iff.mp (hm.sublist hsub)

namespace Node

variable {n : Node} {rest cs : List Node} {visits : List Visit}

/-- The numbers of some nodes and of all below them. -/
def idsBelow (ns : List Node) : List Nat :=
  (ns.flatMap nodes).map id

/-- In the turn of a node, the node itself drops out of what is below the waiting nodes. -/
theorem idsBelow_join_subperm (order : WaitingOrder) (hcs : cs.Sublist n.children) :
    (n.id :: idsBelow (order.join rest cs)).Subperm (idsBelow (n :: rest)) := by
  have hperm : ((order.join rest cs).flatMap nodes).Perm
      (cs.flatMap nodes ++ rest.flatMap nodes) := by
    have hjoin := (order.join_perm rest cs).flatMap_right nodes
    rw [List.flatMap_append] at hjoin
    exact hjoin.trans List.perm_append_comm
  have hsub : (cs.flatMap nodes ++ rest.flatMap nodes).Sublist
      (n.children.flatMap nodes ++ rest.flatMap nodes) :=
    (hcs.flatMap nodes).append_right _
  unfold idsBelow
  rw [List.flatMap_cons, nodes_eq_cons, List.cons_append, List.map_cons, List.subperm_cons]
  exact (hperm.map id).subperm.trans (hsub.map id).subperm

/-- What ever waits is below the nodes that wait first, as often as it is there, and no node has
more turns than it waits. -/
structure HoldsTurns (ns : List Node) (visits : List Visit) : Prop where
  waiting : (everWaiting (ns.map id) visits).Subperm (idsBelow ns)
  turns : (visits.map Visit.id).Subperm (everWaiting (ns.map id) visits)

theorem holdsTurns_nil : HoldsTurns [] [] :=
  ⟨List.nil_subperm, List.nil_subperm⟩

theorem holdsTurns_last (n : Node) (rest : List Node) : HoldsTurns (n :: rest) [⟨n.id, []⟩] where
  waiting := by
    have hsub := (sublist_flatMap_nodes (n :: rest)).map id
    simpa [everWaiting, idsBelow] using hsub.subperm
  turns := by simp [everWaiting]

theorem HoldsTurns.cons {order : WaitingOrder} (hcs : cs.Sublist n.children)
    (h : HoldsTurns (order.join rest cs) visits) :
    HoldsTurns (n :: rest) (⟨n.id, cs.map id⟩ :: visits) := by
  obtain ⟨hwaiting, hturns⟩ := h
  rw [order.map_join] at hwaiting hturns
  have hperm := everWaiting_cons_perm order n.id (rest.map id) (cs.map id) visits
  constructor
  · have hnext := (List.subperm_cons n.id).mpr hwaiting
    exact hperm.subperm.trans (hnext.trans (idsBelow_join_subperm order hcs))
  · exact ((List.subperm_cons n.id).mpr hturns).trans hperm.symm.subperm

end Node

namespace ParseTree

variable {tree : ParseTree} {n : Node}

theorem mem_nodes_of_mem_children {c : Node} (hn : n ∈ tree.nodes) (hc : c ∈ n.children) :
    c ∈ tree.nodes :=
  Node.mem_nodes_trans (Node.mem_nodes_of_mem_children hc) hn

theorem forall_mem_join {rest cs : List Node} (order : WaitingOrder)
    (hrest : ∀ m ∈ rest, m ∈ tree.nodes) (hn : n ∈ tree.nodes) (hcs : cs.Sublist n.children) :
    ∀ m ∈ order.join rest cs, m ∈ tree.nodes := by
  intro m hm
  rcases List.mem_append.mp ((order.join_perm rest cs).subset hm) with hm | hm
  · exact hrest m hm
  · exact mem_nodes_of_mem_children hn (hcs.subset hm)

end ParseTree

namespace Search

variable {α β : Type} {s : Search α β}

section Turns

variable {arena : Arena} {found : α} {id : Nat} {rest : List Nat}

theorem run_of_ends {result : β} (h : s.turn arena found id = .ok (.ends result)) :
    s.run arena (id :: rest) found = pure ([⟨id, []⟩], result) := by
  rw [run, h]

theorem run_of_goesOn {next : α} {joining : List Nat} {visits : List Visit} {result : β}
    (h : s.turn arena found id = .ok (.goesOn next joining))
    (hrest : s.run arena (s.order.join rest joining) next = pure (visits, result)) :
    s.run arena (id :: rest) found = pure (⟨id, joining⟩ :: visits, result) := by
  rw [run, h]
  simp only [hrest, pure_bind]

theorem eq_of_pure_eq {a b : α} (h : (pure a : ExceptT Fault Option α) = pure b) : a = b :=
  Except.ok.inj (Option.some.inj h)

/-- An arena alone does not make a search end: where a node is its own only rule child, its turn
comes again and again. -/
theorem nearest_endless {r : Rule} (hrule : arena.isRule id r = .ok false)
    (hchildren : arena.ruleChildren id = .ok [id]) (visits : List Visit) (result : Option Nat) :
    (nearest r).startAt arena id ≠ pure (visits, result) := by
  intro hrun
  have hturn : (nearest r).turn arena () id = .ok (.goesOn () [id]) := by
    simp only [nearest]
    rw [hrule, hchildren]
    rfl
  have hagain : (nearest r).startAt arena id = pure (⟨id, [id]⟩ :: visits, result) :=
    run_of_goesOn hturn hrun
  have hvisits : visits = ⟨id, [id]⟩ :: visits :=
    congrArg Prod.fst (eq_of_pure_eq (hrun.symm.trans hagain))
  exact absurd (congrArg List.length hvisits) (by simp)

end Turns

/-- In the turn of a node of the tree the search has no fault, and only children of the node join,
each of them at most once. -/
def GoesDown (s : Search α β) (tree : ParseTree) : Prop :=
  ∀ n ∈ tree.nodes, ∀ found,
    (∃ result, s.turn tree.arena found n.id = .ok (.ends result)) ∨
    ∃ (next : α) (cs : List Node), cs.Sublist n.children ∧
      s.turn tree.arena found n.id = .ok (.goesOn next (cs.map Node.id))

/-- A search that goes down ends. -/
theorem GoesDown.exists_run {tree : ParseTree} (h : s.GoesDown tree) {ns : List Node}
    (hns : ∀ n ∈ ns, n ∈ tree.nodes) (found : α) :
    ∃ visits result, s.run tree.arena (ns.map Node.id) found = pure (visits, result) ∧
      Node.HoldsTurns ns visits := by
  -- By induction on how many nodes are below those that wait, not on how many wait.
  induction hsize : (Node.idsBelow ns).length using Nat.strongRecOn generalizing ns found with
  | ind size ih =>
      subst hsize
      rcases ns with _ | ⟨n, rest⟩
      · exact ⟨[], s.atEnd found, run.eq_1 s tree.arena found, Node.holdsTurns_nil⟩
      obtain ⟨hn, hrest⟩ := List.forall_mem_cons.mp hns
      rcases h n hn found with ⟨result, hturn⟩ | ⟨next, cs, hcs, hturn⟩
      · exact ⟨[⟨n.id, []⟩], result, run_of_ends hturn, Node.holdsTurns_last n rest⟩
      · have hfewer : (Node.idsBelow (s.order.join rest cs)).length <
            (Node.idsBelow (n :: rest)).length :=
          (Node.idsBelow_join_subperm s.order hcs).length_le
        obtain ⟨visits, result, hrun, hholds⟩ :=
          ih _ hfewer (ParseTree.forall_mem_join s.order hrest hn hcs) next rfl
        rw [s.order.map_join] at hrun
        exact ⟨⟨n.id, cs.map Node.id⟩ :: visits, result, run_of_goesOn hturn hrun, hholds.cons hcs⟩

/-- Numbers of nodes differ, so what is held by the tree once is met once. -/
theorem GoesDown.isOrderly {tree : ParseTree} (h : s.GoesDown tree) (hbuilt : tree.IsBuilt)
    {n : Node} (hn : n ∈ tree.nodes) {visits : List Visit} {result : β}
    (hrun : s.startAt tree.arena n.id = pure (visits, result)) : IsOrderly tree n.id visits := by
  obtain ⟨visits', result', hrun', hholds⟩ :=
    h.exists_run (List.forall_mem_singleton.mpr hn) s.initial
  obtain rfl : visits = visits' := congrArg Prod.fst (eq_of_pure_eq (hrun.symm.trans hrun'))
  have hbelow : (Node.idsBelow [n]).Subperm (tree.nodes.map Node.id) := by
    rw [Node.idsBelow, List.flatMap_singleton]
    exact ((Node.nodes_isInfix hn).sublist.map Node.id).subperm
  have hwaiting := hholds.waiting.trans hbelow
  have hnodup := nodup_of_subperm hwaiting hbuilt.ids_nodup
  refine ⟨hnodup, nodup_of_subperm hholds.turns hnodup, ?_⟩
  have hlength := (hholds.turns.trans hwaiting).length_le
  rwa [List.length_map, List.length_map] at hlength

end Search

end StatementSegments
