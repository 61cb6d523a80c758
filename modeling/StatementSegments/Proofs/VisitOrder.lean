import StatementSegments.Proofs.NodeOrder
import StatementSegments.Tree.Traversal

namespace StatementSegments

theorem Rule.eq_of_spelling_eq {r r' : Rule} (h : r.spelling = r'.spelling) : r = r' :=
  List.inj_on_of_nodup_map (f := spelling) (by decide) (mem_all r) (mem_all r') h

namespace Node

theorem isToken_eq_false_of_isRule {n : Node} {r : Rule} (h : n.isRule r = true) :
    n.isToken = false := by
  unfold isRule at h
  simpa using (Bool.and_eq_true_iff.mp h).1

theorem label_of_isRule {n : Node} {r : Rule} (h : n.isRule r = true) : n.label = r.spelling := by
  simp only [isRule, Bool.and_eq_true, beq_iff_eq] at h
  exact h.2

theorem isRule_eq_false_of_ne {n : Node} {r r' : Rule} (h : n.isRule r = true) (hne : r ≠ r') :
    n.isRule r' = false := by
  rw [Bool.eq_false_iff]
  intro h'
  exact hne (Rule.eq_of_spelling_eq ((label_of_isRule h).symm.trans (label_of_isRule h')))

theorem children_of_isToken {n : Node} (h : n.isToken = true) : n.children = [] := by
  cases n with
  | token id type span => rfl
  | rule id name span children => cases h

theorem isToken_eq_false_of_mem_children {n c : Node} (h : c ∈ n.children) :
    n.isToken = false := by
  cases n with
  | token id type span => cases h
  | rule id name span children => rfl

theorem nodes_of_isToken {n : Node} (h : n.isToken = true) : n.nodes = [n] := by
  rw [nodes_eq_cons, children_of_isToken h, List.flatMap_nil]

section Orders

variable {p : Node → Bool} (hp : ∀ n, p n = true → n.isToken = false)
include hp

theorem filter_nodes_of_isToken {n : Node} (h : n.isToken = true) : n.nodes.filter p = [] := by
  have hn : p n = false := by
    by_contra hne
    rw [hp n (by simpa using hne)] at h
    cases h
  simp [nodes_of_isToken h, hn]

/-- Leaving out tokens leaves out no rule node. -/
theorem filter_flatMap_ruleChildren (n : Node) :
    (n.ruleChildren.flatMap nodes).filter p = (n.children.flatMap nodes).filter p := by
  unfold ruleChildren
  induction n.children with
  | nil => rfl
  | cons c rest ih =>
      cases hc : c.isToken with
      | true => simpa [hc, filter_nodes_of_isToken hp hc] using ih
      | false => simpa [hc] using ih

theorem filter_nodes_eq (n : Node) :
    n.nodes.filter p = [n].filter p ++ (n.ruleChildren.flatMap nodes).filter p := by
  rw [nodes_eq_cons, filter_flatMap_ruleChildren hp, ← List.filter_append, List.singleton_append]

/-- Subtree by subtree, nodes come in the order of the tree. -/
theorem filter_depthFirst (ns : List Node) :
    (depthFirst ns).filter p = (ns.flatMap nodes).filter p := by
  induction ns using depthFirst.induct with
  | case1 => rw [depthFirst, List.flatMap_nil]
  | case2 n rest ih =>
      rw [depthFirst, List.flatMap_cons, List.filter_append, filter_nodes_eq hp, List.append_assoc,
        ← List.filter_append, ← List.flatMap_append, ← ih, ← List.filter_append,
        List.singleton_append]

/-- Level by level, the same nodes come, each as often. -/
theorem filter_breadthFirst_perm (ns : List Node) :
    ((breadthFirst ns).filter p).Perm ((ns.flatMap nodes).filter p) := by
  induction ns using breadthFirst.induct with
  | case1 => rw [breadthFirst, List.flatMap_nil]
  | case2 n rest ih =>
      rw [breadthFirst, List.flatMap_cons, List.filter_append, filter_nodes_eq hp,
        List.append_assoc, ← List.singleton_append, List.filter_append]
      refine List.Perm.append_left _ (ih.trans ?_)
      rw [List.flatMap_append, List.filter_append]
      exact List.perm_append_comm

end Orders

theorem allOf_eq (n : Node) (r : Rule) : n.allOf r = n.nodes.filter (·.isRule r) := by
  have h := filter_depthFirst (fun _ => isToken_eq_false_of_isRule (r := r)) [n]
  rwa [List.flatMap_singleton] at h

theorem mem_breadthFirst_iff {m n : Node} {r : Rule} (hm : m.isRule r = true) :
    m ∈ breadthFirst [n] ↔ m ∈ n.nodes := by
  have h := filter_breadthFirst_perm (fun _ => isToken_eq_false_of_isRule (r := r)) [n]
  rw [List.flatMap_singleton] at h
  simpa [hm] using h.mem_iff (a := m)

theorem nearest?_eq_none_iff {n : Node} {r : Rule} :
    n.nearest? r = none ↔ ∀ m ∈ n.nodes, m.isRule r = false := by
  rw [nearest?, List.find?_eq_none]
  constructor
  · intro h m hm
    by_contra hne
    have hrule : m.isRule r = true := by simpa using hne
    exact h m ((mem_breadthFirst_iff hrule).mpr hm) hrule
  · intro h m hm hrule
    rw [h m ((mem_breadthFirst_iff hrule).mp hm)] at hrule
    cases hrule

theorem nearest?_eq_none_iff_not_exists {n : Node} {r : Rule} :
    n.nearest? r = none ↔ ¬∃ m ∈ n.nodes, m.isRule r = true := by
  rw [nearest?_eq_none_iff]
  simp

theorem nearest?_eq_some {m n : Node} {r : Rule} (h : n.nearest? r = some m) :
    m ∈ n.nodes ∧ m.isRule r = true := by
  unfold nearest? at h
  have hrule : m.isRule r = true := by simpa using List.find?_some h
  exact ⟨(mem_breadthFirst_iff hrule).mp (List.mem_of_find?_eq_some h), hrule⟩

theorem childRule?_eq_some {m n : Node} {r : Rule} (h : n.childRule? r = some m) :
    m ∈ n.children ∧ m.isRule r = true :=
  ⟨List.mem_of_mem_filter (List.mem_of_find?_eq_some h), by simpa using List.find?_some h⟩

theorem mem_nodes_of_nearest? {k m n : Node} {r r' : Rule} (hm : n.nearest? r = some m)
    (hk : m.nearest? r' = some k) : k ∈ n.nodes :=
  mem_nodes_trans (nearest?_eq_some hk).1 (nearest?_eq_some hm).1

/-- The second node is reached from the first through nodes that have one child each. -/
inductive NarrowsTo : Node → Node → Prop where
  | refl (n : Node) : NarrowsTo n n
  | step {n c m : Node} (hchildren : n.children = [c]) (hrest : NarrowsTo c m) : NarrowsTo n m

namespace NarrowsTo

variable {n m : Node}

theorem mem_nodes (h : n.NarrowsTo m) : m ∈ n.nodes := by
  induction h with
  | refl n => exact n.self_mem_nodes
  | step hchildren hrest ih =>
      exact mem_nodes_iff.mpr (Or.inr ⟨_, by rw [hchildren]; exact List.mem_singleton_self _, ih⟩)

theorem token_mem (h : n.NarrowsTo m) {t : Node} (ht : t ∈ n.nodes) (htoken : t.isToken = true) :
    t ∈ m.nodes := by
  induction h with
  | refl n => exact ht
  | @step n c m hchildren hrest ih =>
      apply ih
      rw [nodes_eq_cons, hchildren, List.flatMap_singleton] at ht
      rcases List.mem_cons.mp ht with rfl | hc
      · rw [children_of_isToken htoken] at hchildren
        cases hchildren
      · exact hc

end NarrowsTo

theorem mem_chain_iff {n m : Node} (hm : m.isToken = false) : m ∈ n.chain ↔ n.NarrowsTo m := by
  induction n using chain.induct with
  | case1 id name span id' name' span' children ih =>
      rw [chain, List.mem_cons, ih]
      constructor
      · rintro (rfl | h)
        · exact .refl _
        · exact .step rfl h
      · intro h
        cases h with
        | refl => exact Or.inl rfl
        | step hchildren hrest =>
            cases hchildren
            exact Or.inr hrest
  | case2 n hn =>
      have hchain : n.chain = [n] := by
        rw [chain]
        exact hn
      rw [hchain, List.mem_singleton]
      constructor
      · rintro rfl
        exact .refl _
      · intro h
        cases h with
        | refl => rfl
        | @step _ c _ hchildren hrest =>
            cases n with
            | token id type span => cases hchildren
            | rule id name span children =>
                cases hchildren
                -- An only child that is a token ends the chain, with no rule node below it.
                cases c with
                | rule id' name' span' children' => exact absurd rfl (hn _ _ _ _ _ _ _)
                | token id' type span' =>
                    cases hrest with
                    | refl => cases hm
                    | step htoken _ => cases htoken

theorem solely?_eq_some {n m : Node} {r : Rule} (h : n.solely? r = some m) :
    n.NarrowsTo m ∧ m.isRule r = true := by
  unfold solely? at h
  have hrule : m.isRule r = true := by simpa using List.find?_some h
  exact ⟨(mem_chain_iff (isToken_eq_false_of_isRule hrule)).mp (List.mem_of_find?_eq_some h),
    hrule⟩

theorem solely?_eq_none_of_narrowsTo {n : Node} {r : Rule}
    (h : ∀ m, n.NarrowsTo m → m.isRule r = false) : n.solely? r = none := by
  rw [Option.eq_none_iff_forall_ne_some]
  intro m hm
  obtain ⟨hnarrows, hrule⟩ := solely?_eq_some hm
  rw [h m hnarrows] at hrule
  cases hrule

end Node

end StatementSegments
