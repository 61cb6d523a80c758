import StatementSegments.Proofs.ExpressionOutcomes
import StatementSegments.Proofs.NodeLevels

namespace StatementSegments.Node

variable {n m w c : Node} {r : Rule}

/-- The node `m` is on the way down from `n` to `w`, both ends included. -/
def IsOnWay (n w m : Node) : Prop :=
  m ∈ n.nodes ∧ w ∈ m.nodes

theorem eq_of_mem_nodes_of_mem_nodes (hm : m ∈ n.nodes) (hn : n ∈ m.nodes) : m = n := by
  rcases mem_nodes_iff.mp hm with rfl | ⟨c, hc, hmc⟩
  · rfl
  · exact absurd (mem_nodes_trans hn hmc) (not_mem_nodes_of_mem_children hc)

theorem solely?_self (h : n.isRule r = true) : n.solely? r = some n := by
  rw [solely?, chain.eq_def]
  split <;> exact List.find?_cons_of_pos h

section OnlyChild

variable (hn : n.isRule r = false) (hchildren : n.children = [c]) (hc : c.isToken = false)
include hn hchildren hc

theorem solely?_of_only_child : n.solely? r = c.solely? r := by
  rw [solely?, chain_of_children_eq hchildren hc, List.find?_cons_of_neg (by simp [hn]), solely?]

theorem nearest?_of_only_child : n.nearest? r = c.nearest? r := by
  have hrules : n.ruleChildren = [c] := by
    rw [ruleChildren, hchildren]
    exact List.filter_cons_of_pos (by simp [hc])
  rw [nearest?, breadthFirst, List.find?_cons_of_neg (by simp [hn]), hrules, List.nil_append,
    nearest?]

end OnlyChild

namespace NarrowsTo

theorem isToken_eq_false (h : n.NarrowsTo w) (hw : w.isToken = false) : n.isToken = false := by
  cases h with
  | refl => exact hw
  | step hchildren _ =>
      exact isToken_eq_false_of_mem_children (hchildren ▸ List.mem_singleton_self _)

/-- Where a node narrows to one of the rule, both searches stop at the same node. -/
theorem solely?_eq_nearest? (h : n.NarrowsTo w) (hw : w.isRule r = true) :
    n.solely? r = n.nearest? r := by
  induction h with
  | refl w => rw [solely?_self hw, nearest?_self hw]
  | @step n c w hchildren hrest ih =>
      cases hn : n.isRule r with
      | true => rw [solely?_self hn, nearest?_self hn]
      | false =>
          have hc := hrest.isToken_eq_false (isToken_eq_false_of_isRule hw)
          rw [solely?_of_only_child hn hchildren hc, nearest?_of_only_child hn hchildren hc, ih hw]

theorem length_children (h : n.NarrowsTo w) (hm : n.IsOnWay w m) (hne : m ≠ w) :
    m.children.length = 1 := by
  induction h with
  | refl w => exact absurd (eq_of_mem_nodes_of_mem_nodes hm.1 hm.2) hne
  | @step n c w hchildren hrest ih =>
      rcases mem_nodes_iff.mp hm.1 with rfl | ⟨d, hd, hmd⟩
      · rw [hchildren, List.length_singleton]
      · rw [hchildren, List.mem_singleton] at hd
        exact ih ⟨hd ▸ hmd, hm.2⟩ hne

end NarrowsTo

theorem narrowsTo_of_length_children (hw : w ∈ n.nodes)
    (h : ∀ m, n.IsOnWay w m → m ≠ w → m.children.length = 1) : n.NarrowsTo w := by
  induction n using induction_children with
  | step n ih =>
      rcases mem_nodes_iff.mp hw with rfl | ⟨c, hc, hwc⟩
      · exact .refl w
      · have hne : n ≠ w := by
          rintro rfl
          exact not_mem_nodes_of_mem_children hc hwc
        obtain ⟨d, hd⟩ := List.length_eq_one_iff.mp (h n ⟨n.self_mem_nodes, hw⟩ hne)
        obtain rfl : c = d := by rwa [hd, List.mem_singleton] at hc
        refine .step hd (ih c hc hwc fun m hm => h m ⟨?_, hm.2⟩)
        exact mem_nodes_trans hm.1 (mem_nodes_of_mem_children hc)

theorem narrowsTo_iff :
    n.NarrowsTo w ↔ w ∈ n.nodes ∧ ∀ m, n.IsOnWay w m → m ≠ w → m.children.length = 1 := by
  constructor
  · intro h
    exact ⟨h.mem_nodes, fun m hm hne => h.length_children hm hne⟩
  · rintro ⟨hw, h⟩
    exact narrowsTo_of_length_children hw h

theorem solely?_eq_some_iff_nearest? :
    n.solely? r = some w ↔ n.nearest? r = some w ∧ n.NarrowsTo w := by
  constructor
  · intro h
    obtain ⟨hnarrows, hrule⟩ := solely?_eq_some h
    rw [← hnarrows.solely?_eq_nearest? hrule]
    exact ⟨h, hnarrows⟩
  · rintro ⟨h, hnarrows⟩
    rwa [hnarrows.solely?_eq_nearest? (nearest?_eq_some h).2]

/-- A node is nothing but another one just where this is the nearest one and every node on the way
to it has exactly one child. -/
theorem solely_nearest_only_children (n w : Node) (r : Rule) :
    (n.solely? r = some w ↔
      n.nearest? r = some w ∧ ∀ m, n.IsOnWay w m → m ≠ w → m.children.length = 1) ∧
    (n.solely? r = some w → ∀ t ∈ n.nodes, t.isToken = true → t ∈ w.nodes) := by
  refine ⟨?_, ?_⟩
  · rw [solely?_eq_some_iff_nearest?, narrowsTo_iff]
    constructor
    · rintro ⟨hnearest, -, hway⟩
      exact ⟨hnearest, hway⟩
    · rintro ⟨hnearest, hway⟩
      exact ⟨hnearest, (nearest?_eq_some hnearest).1, hway⟩
  · intro h t ht htoken
    exact (solely?_eq_some h).1.token_mem ht htoken

def loneToken : Node :=
  .token 3 "NUMBER_" ⟨0, 0⟩

def loneNumber : Node :=
  .rule 2 "numberLiterals" ⟨0, 0⟩ [loneToken]

/-- An expression that is nothing but a number. -/
def loneExpression : Node :=
  .rule 0 "expr" ⟨0, 0⟩ [.rule 1 "literals" ⟨0, 0⟩ [loneNumber]]

theorem loneExpression_only_children :
    loneExpression.solely? .numberLiterals = some loneNumber ∧
      loneExpression.nearest? .numberLiterals = some loneNumber ∧
      loneExpression.children.length = 1 ∧ loneToken ∈ loneNumber.nodes := by
  obtain ⟨hiff, htokens⟩ := solely_nearest_only_children loneExpression loneNumber .numberLiterals
  have hsole : loneExpression.solely? .numberLiterals = some loneNumber := rfl
  have htoken : loneToken ∈ loneExpression.nodes := by
    simp [loneExpression, loneNumber, nodes, self_mem_nodes]
  have hnumber : loneNumber ∈ loneExpression.nodes := by
    simp [loneExpression, nodes, self_mem_nodes]
  obtain ⟨hnearest, hway⟩ := hiff.mp hsole
  exact ⟨hsole, hnearest, hway _ ⟨self_mem_nodes _, hnumber⟩ (by simp [loneExpression, loneNumber]),
    htokens hsole _ htoken rfl⟩

end StatementSegments.Node
