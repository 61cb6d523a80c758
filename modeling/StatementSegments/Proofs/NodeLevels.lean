import Mathlib.Data.Nat.Find
import StatementSegments.Proofs.NodeIntervals
import StatementSegments.Proofs.StepStreams
import StatementSegments.Proofs.VisitOrder

namespace StatementSegments

namespace Node

/-- The second node is so many steps from parent to child below the first. -/
inductive IsAtDepth : Node → Nat → Node → Prop where
  | self (n : Node) : IsAtDepth n 0 n
  | step {n c m : Node} {depth : Nat} (hc : c ∈ n.children) (hbelow : IsAtDepth c depth m) :
      IsAtDepth n (depth + 1) m

/-- Of all nodes that the rule `r` made, the one of least depth; of several, the one with the
smallest number. -/
def IsNearest (n : Node) (r : Rule) (m : Node) : Prop :=
  m.isRule r = true ∧ ∃ depth, n.IsAtDepth depth m ∧
    ∀ k other, k.isRule r = true → n.IsAtDepth other k →
      depth < other ∨ depth = other ∧ m.id ≤ k.id

/-- The nodes so many steps below some nodes, from left to right. -/
def level : Nat → List Node → List Node
  | 0, ns => ns
  | depth + 1, ns => level depth (ns.flatMap children)

variable {n m : Node} {ns : List Node} {depth : Nat}

theorem mem_level_iff : m ∈ level depth ns ↔ ∃ n ∈ ns, n.IsAtDepth depth m := by
  induction depth generalizing ns with
  | zero =>
      constructor
      · intro h
        exact ⟨m, h, .self m⟩
      · rintro ⟨n, hn, h⟩
        cases h
        exact hn
  | succ depth ih =>
      rw [level, ih]
      constructor
      · rintro ⟨c, hc, h⟩
        obtain ⟨n, hn, hc⟩ := List.mem_flatMap.mp hc
        exact ⟨n, hn, .step hc h⟩
      · rintro ⟨n, hn, h⟩
        cases h with
        | step hc h => exact ⟨_, List.mem_flatMap_of_mem hn hc, h⟩

theorem mem_level_singleton_iff : m ∈ level depth [n] ↔ n.IsAtDepth depth m := by
  simp [mem_level_iff]

theorem IsAtDepth.mem_nodes (h : n.IsAtDepth depth m) : m ∈ n.nodes := by
  induction h with
  | self n => exact n.self_mem_nodes
  | step hc hbelow ih => exact mem_nodes_trans ih (mem_nodes_of_mem_children hc)

theorem IsNearest.mem_nodes {r : Rule} (h : n.IsNearest r m) : m ∈ n.nodes := by
  obtain ⟨-, depth, hat, -⟩ := h
  exact hat.mem_nodes

theorem exists_isAtDepth (h : m ∈ n.nodes) : ∃ depth, n.IsAtDepth depth m := by
  induction n using induction_children with
  | step n ih =>
      rcases mem_nodes_iff.mp h with rfl | ⟨c, hc, hm⟩
      · exact ⟨0, .self m⟩
      · obtain ⟨depth, hbelow⟩ := ih c hc hm
        exact ⟨depth + 1, .step hc hbelow⟩

/-- A node is not below its children. -/
theorem not_mem_nodes_of_mem_children {c : Node} (hc : c ∈ n.children) : n ∉ c.nodes := by
  intro h
  have hle : n.nodes.length ≤ c.nodes.length := (nodes_isInfix h).length_le
  have hbelow : c.nodes.Sublist (n.children.flatMap nodes) :=
    (List.infix_of_mem_flatten (List.mem_map_of_mem hc)).sublist
  have hlt := hbelow.length_le
  rw [nodes_eq_cons n, List.length_cons] at hle
  omega

theorem flatMap_children_sublist (ns : List Node) :
    ((ns.flatMap children).flatMap nodes).Sublist (ns.flatMap nodes) := by
  induction ns with
  | nil => exact List.Sublist.slnil
  | cons n ns ih =>
      rw [List.flatMap_cons, List.flatMap_append, List.flatMap_cons, nodes_eq_cons n]
      exact (List.sublist_cons_self n _).append ih

/-- A level comes in the order of the tree. -/
theorem level_sublist (depth : Nat) (ns : List Node) :
    (level depth ns).Sublist (ns.flatMap nodes) := by
  induction depth generalizing ns with
  | zero => exact sublist_flatMap_nodes ns
  | succ depth ih => exact (ih _).trans (flatMap_children_sublist ns)

theorem level_ids_pairwise (hsorted : n.nodes.Pairwise fun a b => a.id < b.id) (depth : Nat) :
    (level depth [n]).Pairwise fun a b => a.id < b.id := by
  have hsub := level_sublist depth [n]
  rw [List.flatMap_singleton] at hsub
  exact hsorted.sublist hsub

theorem Nested.level_follows {length : Nat} (h : ∀ n ∈ ns, n.Nested length)
    (hfollows : ns.Pairwise fun a b => a.stop < b.start) (depth : Nat) :
    (level depth ns).Pairwise fun a b => a.stop < b.start := by
  induction depth generalizing ns with
  | zero => exact hfollows
  | succ depth ih =>
      refine ih ?_ ?_
      · intro c hc
        obtain ⟨n, hn, hc⟩ := List.mem_flatMap.mp hc
        exact (h n hn).child hc
      · rw [List.pairwise_flatMap]
        refine ⟨fun n hn => (h n hn).fits.follows, ?_⟩
        refine hfollows.imp_of_mem ?_
        intro n n' hn hn' hlt c hc c' hc'
        have hstop : c.stop ≤ n.stop := ((h n hn).fits.encloses c hc).2
        have hstart : n'.start ≤ c'.start := ((h n' hn').fits.encloses c' hc').1
        omega

section Rounds

variable {p : Node → Bool} (hp : ∀ n, p n = true → n.isToken = false)

/-- What is waiting is visited first, and then all that is directly below it. -/
theorem breadthFirst_append (ns ms : List Node) :
    breadthFirst (ns ++ ms) = ns ++ breadthFirst (ms ++ ns.flatMap ruleChildren) := by
  induction ns generalizing ms with
  | nil => simp
  | cons n ns ih =>
      rw [List.cons_append, breadthFirst, List.append_assoc, ih, List.flatMap_cons,
        List.cons_append, List.append_assoc]

theorem breadthFirst_eq_append (ns : List Node) :
    breadthFirst ns = ns ++ breadthFirst (ns.flatMap ruleChildren) := by
  simpa using breadthFirst_append ns []

theorem ruleChildren_of_isToken (h : n.isToken = true) : n.ruleChildren = [] := by
  rw [ruleChildren, children_of_isToken h, List.filter_nil]

include hp

/-- Waiting tokens make no difference to the rule nodes that are visited. -/
theorem filter_breadthFirst_rules (ns : List Node) :
    (breadthFirst ns).filter p =
      (breadthFirst (ns.filter fun n => !n.isToken)).filter p := by
  induction ns using breadthFirst.induct with
  | case1 => rfl
  | case2 n rest ih =>
      have hchildren : (n.ruleChildren.filter fun c => !c.isToken) = n.ruleChildren := by
        rw [ruleChildren, List.filter_filter]
        simp
      rw [breadthFirst, List.filter_cons, ih, List.filter_append, hchildren]
      cases htoken : n.isToken with
      | true =>
          have hn : p n = false := by
            by_contra hne
            rw [hp n (by simpa using hne)] at htoken
            cases htoken
          rw [hn, ruleChildren_of_isToken htoken, List.append_nil, List.filter_cons_of_neg]
          · simp
          · simp [htoken]
      | false =>
          rw [List.filter_cons_of_pos (by simp [htoken]), breadthFirst, List.filter_cons]

theorem filter_breadthFirst_ruleChildren (ns : List Node) :
    (breadthFirst (ns.flatMap ruleChildren)).filter p =
      (breadthFirst (ns.flatMap children)).filter p := by
  rw [filter_breadthFirst_rules hp (ns.flatMap children), List.filter_flatMap]
  rfl

/-- After as many rounds as there are levels above it, just a level is waiting. -/
theorem filter_breadthFirst_eq (depth : Nat) (ns : List Node) :
    (breadthFirst ns).filter p =
      ((List.range depth).flatMap fun above => (level above ns).filter p) ++
        (breadthFirst (level depth ns)).filter p := by
  induction depth generalizing ns with
  | zero => simp [level]
  | succ depth ih =>
      rw [breadthFirst_eq_append, List.filter_append, filter_breadthFirst_ruleChildren hp, ih,
        List.range_succ_eq_map, List.flatMap_cons, List.flatMap_map, List.append_assoc]
      rfl

/-- The first level that has a node of the kind decides what is found. -/
theorem find?_breadthFirst_eq {ns : List Node}
    (habove : ∀ above < depth, ∀ k ∈ level above ns, p k = false)
    (hlevel : ∃ k ∈ level depth ns, p k = true) :
    (breadthFirst ns).find? p = (level depth ns).find? p := by
  have hnone : ((List.range depth).flatMap fun above => (level above ns).filter p) = [] := by
    simp only [List.flatMap_eq_nil_iff, List.mem_range, List.filter_eq_nil_iff, Bool.not_eq_true]
    exact habove
  obtain ⟨found, hfound⟩ : ∃ found, (level depth ns).find? p = some found :=
    Option.isSome_iff_exists.mp (List.find?_isSome.mpr hlevel)
  rw [← List.head?_filter, filter_breadthFirst_eq hp depth ns, hnone, List.nil_append,
    breadthFirst_eq_append, List.head?_filter, List.find?_append, hfound, Option.some_or]

end Rounds

/-- In the order of numbers the first node of a kind is the one with the smallest number. -/
theorem find?_eq_some_iff_least {p : Node → Bool} (hsorted : ns.Pairwise fun a b => a.id < b.id) :
    ns.find? p = some m ↔ m ∈ ns ∧ p m = true ∧ ∀ k ∈ ns, p k = true → m.id ≤ k.id := by
  constructor
  · intro h
    refine ⟨List.mem_of_find?_eq_some h, List.find?_some h, ?_⟩
    obtain ⟨-, before, after, rfl, hbefore⟩ := List.find?_eq_some_iff_append.mp h
    rintro k hk hpk
    rcases List.mem_append.mp hk with hk | hk
    · have hnot := hbefore k hk
      simp [hpk] at hnot
    · rcases List.mem_cons.mp hk with rfl | hk
      · exact Nat.le_refl _
      · have hbehind := (List.pairwise_append.mp hsorted).2.1
        exact Nat.le_of_lt ((List.pairwise_cons.mp hbehind).1 k hk)
  · rintro ⟨hm, hpm, hleast⟩
    obtain ⟨before, after, rfl⟩ := List.append_of_mem hm
    refine List.find?_eq_some_iff_append.mpr ⟨hpm, before, after, rfl, ?_⟩
    intro k hk
    by_contra hpk
    have hle := hleast k (List.mem_append_left _ hk) (by simpa using hpk)
    have hlt : k.id < m.id :=
      (List.pairwise_append.mp hsorted).2.2 k hk m List.mem_cons_self
    omega

section Nearest

variable {r : Rule}

/-- Where the rule made a node at all, there is a first level with such nodes. -/
theorem exists_first_level (hm : m ∈ n.nodes) (hrule : m.isRule r = true) :
    ∃ depth, (∀ above < depth, ∀ k ∈ level above [n], k.isRule r = false) ∧
      ∃ k ∈ level depth [n], k.isRule r = true := by
  have hexists : ∃ depth, ∃ k ∈ level depth [n], k.isRule r = true := by
    obtain ⟨depth, hat⟩ := exists_isAtDepth hm
    exact ⟨depth, m, mem_level_singleton_iff.mpr hat, hrule⟩
  classical
  refine ⟨Nat.find hexists, ?_, Nat.find_spec hexists⟩
  intro above hlt k hk
  by_contra hne
  exact Nat.find_min hexists hlt ⟨k, hk, by simpa using hne⟩

theorem nearest?_eq_find?_level
    (habove : ∀ above < depth, ∀ k ∈ level above [n], k.isRule r = false)
    (hlevel : ∃ k ∈ level depth [n], k.isRule r = true) :
    n.nearest? r = (level depth [n]).find? (·.isRule r) :=
  find?_breadthFirst_eq (fun _ => isToken_eq_false_of_isRule) habove hlevel

/-- The search finds what is nearest. -/
theorem nearest?_eq_some_iff (hsorted : n.nodes.Pairwise fun a b => a.id < b.id) :
    n.nearest? r = some m ↔ n.IsNearest r m := by
  constructor
  · intro h
    obtain ⟨hmem, hrule⟩ := nearest?_eq_some h
    obtain ⟨depth, habove, hlevel⟩ := exists_first_level hmem hrule
    rw [nearest?_eq_find?_level habove hlevel,
      find?_eq_some_iff_least (level_ids_pairwise hsorted depth)] at h
    obtain ⟨hm, -, hleast⟩ := h
    refine ⟨hrule, depth, mem_level_singleton_iff.mp hm, ?_⟩
    intro k other hk hat
    rw [← mem_level_singleton_iff] at hat
    rcases Nat.lt_trichotomy depth other with hlt | rfl | hgt
    · exact Or.inl hlt
    · exact Or.inr ⟨rfl, hleast k hat hk⟩
    · rw [habove other hgt k hat] at hk
      cases hk
  · rintro ⟨hrule, depth, hat, hleast⟩
    rw [← mem_level_singleton_iff] at hat
    have habove : ∀ above < depth, ∀ k ∈ level above [n], k.isRule r = false := by
      intro above hlt k hk
      by_contra hne
      have hle := hleast k above (by simpa using hne) (mem_level_singleton_iff.mp hk)
      omega
    rw [nearest?_eq_find?_level habove ⟨m, hat, hrule⟩,
      find?_eq_some_iff_least (level_ids_pairwise hsorted depth)]
    refine ⟨hat, hrule, ?_⟩
    intro k hk hkrule
    rcases hleast k depth hkrule (mem_level_singleton_iff.mp hk) with hlt | ⟨-, hle⟩
    · exact absurd hlt (Nat.lt_irrefl depth)
    · exact hle

end Nearest

section Distinct

theorem nodup_of_mem_children (hnodup : n.nodes.Nodup) {c : Node} (hc : c ∈ n.children) :
    c.nodes.Nodup :=
  hnodup.sublist (nodes_isInfix (mem_nodes_of_mem_children hc)).sublist

/-- No node is below two children. -/
theorem child_eq_of_mem_nodes (hnodup : n.nodes.Nodup) {c d : Node} (hc : c ∈ n.children)
    (hd : d ∈ n.children) (hmc : m ∈ c.nodes) (hmd : m ∈ d.nodes) : c = d := by
  rw [nodes_eq_cons, List.nodup_cons, List.nodup_flatMap] at hnodup
  have : Std.Symm (Function.onFun List.Disjoint nodes) :=
    ⟨fun _ _ hdisjoint => List.Disjoint.symm hdisjoint⟩
  by_contra hne
  exact hnodup.2.2.forall hc hd hne hmc hmd

theorem IsAtDepth.depth_eq (hnodup : n.nodes.Nodup) {other : Nat} (h : n.IsAtDepth depth m)
    (h' : n.IsAtDepth other m) : depth = other := by
  induction h generalizing other with
  | self n =>
      cases h' with
      | self => rfl
      | step hc hbelow => exact absurd hbelow.mem_nodes (not_mem_nodes_of_mem_children hc)
  | step hc hbelow ih =>
      cases h' with
      | self => exact absurd hbelow.mem_nodes (not_mem_nodes_of_mem_children hc)
      | step hd hbelow' =>
          obtain rfl := child_eq_of_mem_nodes hnodup hc hd hbelow.mem_nodes hbelow'.mem_nodes
          rw [ih (nodup_of_mem_children hnodup hc) hbelow']

end Distinct

end Node

namespace ParseTree

namespace IsBuilt

variable {tree : ParseTree} (hbuilt : tree.IsBuilt) {n m : Node} (hn : n ∈ tree.nodes)
include hbuilt hn

theorem nearest?_eq_some_iff {r : Rule} : n.nearest? r = some m ↔ n.IsNearest r m :=
  Node.nearest?_eq_some_iff (hbuilt.subtree_ids_pairwise hn)

theorem isNearest_unique {k : Node} {r : Rule} (hm : n.IsNearest r m) (hk : n.IsNearest r k) :
    m = k := by
  rw [← hbuilt.nearest?_eq_some_iff hn] at hm hk
  exact Option.some.inj (hm.symm.trans hk)

theorem existsUnique_depth (hm : m ∈ n.nodes) : ∃! depth, n.IsAtDepth depth m := by
  have hnodup := Node.nodup_of_ids_pairwise (hbuilt.subtree_ids_pairwise hn)
  obtain ⟨depth, hdepth⟩ := Node.exists_isAtDepth hm
  exact ⟨depth, hdepth, fun other hother => hother.depth_eq hnodup hdepth⟩

/-- Nodes of one depth come one behind the other in the text. -/
theorem stop_lt_start_of_isAtDepth {depth : Nat} {a b : Node} (ha : n.IsAtDepth depth a)
    (hb : n.IsAtDepth depth b) (hlt : a.id < b.id) : a.stop < b.start := by
  have hnested : ∀ k ∈ [n], k.Nested tree.text.length :=
    List.forall_mem_singleton.mpr (hbuilt.nested.below hn)
  have hfollows := Node.Nested.level_follows hnested (List.pairwise_singleton _ n) depth
  have hsorted := Node.level_ids_pairwise (hbuilt.subtree_ids_pairwise hn) depth
  rw [← Node.mem_level_singleton_iff, List.mem_iff_getElem] at ha hb
  obtain ⟨i, hi, rfl⟩ := ha
  obtain ⟨j, hj, rfl⟩ := hb
  rw [List.pairwise_iff_getElem] at hfollows hsorted
  rcases Nat.lt_trichotomy i j with hij | rfl | hij
  · exact hfollows i j hi hj hij
  · exact absurd hlt (Nat.lt_irrefl _)
  · exact absurd (hsorted j i hj hi hij) (Nat.lt_asymm hlt)

end IsBuilt

/-- What is found is a node of least depth that the rule made, and of several the one with the
smallest number. -/
theorem nearest_least_depth {tree : ParseTree} (hbuilt : tree.IsBuilt) {n : Node}
    (hn : n ∈ tree.nodes) (r : Rule) :
    ((∃ m, n.nearest? r = some m) ↔ ∃ m ∈ n.nodes, m.isRule r = true) ∧
    (∀ m ∈ n.nodes, ∃! depth, n.IsAtDepth depth m) ∧
    (∀ m, n.nearest? r = some m ↔ n.IsNearest r m) ∧
    ∀ a b depth, n.IsAtDepth depth a → n.IsAtDepth depth b → a.id < b.id → a.stop < b.start := by
  refine ⟨?_, ?_, ?_, ?_⟩
  · rw [← Option.ne_none_iff_exists', ne_eq, Node.nearest?_eq_none_iff_not_exists, not_not]
  · intro m hm
    exact hbuilt.existsUnique_depth hn hm
  · intro m
    exact hbuilt.nearest?_eq_some_iff hn
  · intro a b depth ha hb hlt
    exact hbuilt.stop_lt_start_of_isAtDepth hn ha hb hlt

def plainExpression : Node :=
  .rule 7 "expr" ⟨5, 5⟩ [.token 8 "NUMBER_" ⟨5, 5⟩]

/-- An expression in brackets, and behind it one that is less deep. -/
def bracketsTree : ParseTree where
  text := StatementText.ofString "(1), 2"
  root :=
    .rule 0 "select" ⟨0, 5⟩
      [.rule 1 "brackets" ⟨0, 2⟩
          [.token 2 "LP_" ⟨0, 0⟩,
            .rule 3 "expr" ⟨1, 1⟩ [.token 4 "NUMBER_" ⟨1, 1⟩],
            .token 5 "RP_" ⟨2, 2⟩],
        .token 6 "COMMA_" ⟨3, 3⟩,
        plainExpression]

theorem bracketsTree_least_depth :
    bracketsTree.IsBuilt ∧ bracketsTree.root ∈ bracketsTree.nodes ∧
      bracketsTree.root.nearest? .expr = some plainExpression := by
  have hbuilt : bracketsTree.IsBuilt := ⟨"(1), 2", bracketsTree.root.steps, rfl⟩
  have hroot := bracketsTree.root.self_mem_nodes
  obtain ⟨-, -, hnearest, -⟩ := nearest_least_depth hbuilt hroot .expr
  have hchild : plainExpression ∈ bracketsTree.root.children := by
    simp [bracketsTree, Node.children]
  refine ⟨hbuilt, hroot, (hnearest _).mpr ⟨by decide, 1, .step hchild (.self _), ?_⟩⟩
  intro k other hk hat
  rw [← Node.mem_level_singleton_iff] at hat
  have habove : ∀ k ∈ Node.level 0 [bracketsTree.root], k.isRule .expr = false := by decide
  have hlevel : ∀ k ∈ Node.level 1 [bracketsTree.root], k.isRule .expr = true → 7 ≤ k.id := by
    decide
  rcases other with _ | _ | other
  · rw [habove k hat] at hk
    cases hk
  · exact Or.inr ⟨rfl, hlevel k hat hk⟩
  · exact Or.inl (by omega)

end ParseTree

end StatementSegments
