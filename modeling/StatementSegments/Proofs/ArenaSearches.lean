import StatementSegments.Proofs.MarkerNumbers
import StatementSegments.Proofs.SearchTurns
import StatementSegments.Proofs.SoleNodes

namespace StatementSegments

namespace Node

variable {n : Node}

theorem isToken_eq_false_of_mem_depthFirst {ns : List Node} (h : ∀ n ∈ ns, n.isToken = false) :
    ∀ m ∈ depthFirst ns, m.isToken = false := by
  induction ns using depthFirst.induct with
  | case1 =>
      rw [depthFirst]
      exact List.forall_mem_nil _
  | case2 n rest ih =>
      obtain ⟨hn, hrest⟩ := List.forall_mem_cons.mp h
      have hrules : ∀ m ∈ n.ruleChildren ++ rest, m.isToken = false :=
        List.forall_mem_append.mpr ⟨by simp [ruleChildren], hrest⟩
      rw [depthFirst]
      exact List.forall_mem_cons.mpr ⟨hn, ih hrules⟩

theorem depthFirst_eq_filter (h : n.isToken = false) :
    depthFirst [n] = n.nodes.filter fun m => !m.isToken := by
  have hrules := isToken_eq_false_of_mem_depthFirst (List.forall_mem_singleton.mpr h)
  have hvisited := filter_depthFirst (p := fun m => !m.isToken) (by simp) [n]
  rwa [List.flatMap_singleton, List.filter_eq_self.mpr (by simpa using hrules)] at hvisited

theorem ruleChildren_sublist (n : Node) : n.ruleChildren.Sublist n.children :=
  List.filter_sublist

end Node

/-- Just the rule nodes of a subtree have turns, each of them one. -/
structure CoversRules (n : Node) (visits : List Visit) : Prop where
  once : ∀ m ∈ n.nodes, m.isToken = false → (visits.map Visit.id).count m.id = 1
  only : ∀ visit ∈ visits, ∃ m ∈ n.nodes, m.isToken = false ∧ m.id = visit.id

theorem CoversRules.of_turns {n : Node} {visits : List Visit}
    (hnodup : (visits.map Visit.id).Nodup)
    (hturns : visits.map Visit.id = (n.nodes.filter fun m => !m.isToken).map Node.id) :
    CoversRules n visits := by
  have hmem : ∀ id, id ∈ visits.map Visit.id ↔ ∃ m ∈ n.nodes, m.isToken = false ∧ m.id = id := by
    simp [hturns, and_assoc]
  constructor
  · intro m hm hrule
    exact List.count_eq_one_of_mem hnodup ((hmem m.id).mpr ⟨m, hm, hrule, rfl⟩)
  · intro visit hvisit
    exact (hmem visit.id).mp (List.mem_map_of_mem hvisit)

namespace ParseTree.IsBuilt

variable {tree : ParseTree} (hbuilt : tree.IsBuilt)
include hbuilt

section Reading

variable {n : Node} (hn : n ∈ tree.nodes)

theorem rulesAmong_arena {ns : List Node} (hns : ∀ n ∈ ns, n ∈ tree.nodes) :
    tree.arena.rulesAmong (ns.map Node.id) =
      .ok ((ns.filter fun n => !n.isToken).map Node.id) := by
  induction ns with
  | nil => rfl
  | cons n ns ih =>
      obtain ⟨hn, hns⟩ := List.forall_mem_cons.mp hns
      rw [List.map_cons, Arena.rulesAmong, hbuilt.cellAt_arena hn, ih hns]
      cases htoken : n.isToken <;> simp [Node.cell, htoken, bind, Except.bind, pure, Except.pure]

include hn

theorem isRule_arena (r : Rule) : tree.arena.isRule n.id r = .ok (n.isRule r) := by
  rw [Arena.isRule, hbuilt.cellAt_arena hn]
  rfl

theorem ruleChildren_arena :
    tree.arena.ruleChildren n.id = .ok (n.ruleChildren.map Node.id) := by
  rw [Arena.ruleChildren, hbuilt.cellAt_arena hn]
  exact hbuilt.rulesAmong_arena fun c hc => mem_nodes_of_mem_children hn hc

theorem onlyRuleChild?_of_only_child {c : Node} (hchildren : n.children = [c]) :
    tree.arena.onlyRuleChild? n.id = .ok (if c.isToken then none else some c.id) := by
  have hc : c ∈ tree.nodes := mem_nodes_of_mem_children hn (by simp [hchildren])
  rw [Arena.onlyRuleChild?, hbuilt.cellAt_arena hn]
  simp only [Node.cell, hchildren, List.map_cons, List.map_nil, bind, Except.bind]
  rw [hbuilt.cellAt_arena hc]
  rfl

theorem onlyRuleChild?_eq_none (hend : ∀ c, n.children = [c] → c.isToken = true) :
    tree.arena.onlyRuleChild? n.id = .ok none := by
  rcases hchildren : n.children with _ | ⟨c, _ | ⟨d, rest⟩⟩
  · rw [Arena.onlyRuleChild?, hbuilt.cellAt_arena hn]
    simp [Node.cell, hchildren, bind, Except.bind, pure, Except.pure]
  · rw [hbuilt.onlyRuleChild?_of_only_child hn hchildren, if_pos (hend c hchildren)]
  · rw [Arena.onlyRuleChild?, hbuilt.cellAt_arena hn]
    simp [Node.cell, hchildren, bind, Except.bind, pure, Except.pure]

end Reading

section Turns

variable {n : Node} (hn : n ∈ tree.nodes) (r : Rule)
include hn

theorem turn_nearest :
    (Search.nearest r).turn tree.arena () n.id =
      .ok (if n.isRule r then .ends (some n.id) else .goesOn () (n.ruleChildren.map Node.id)) := by
  simp only [Search.nearest]
  rw [hbuilt.isRule_arena hn, hbuilt.ruleChildren_arena hn]
  cases n.isRule r <;> rfl

theorem turn_noting {α : Type} (initial : α) (note : α → Nat → α) (found : α) :
    (Search.noting r initial note).turn tree.arena found n.id =
      .ok (.goesOn (if n.isRule r then note found n.id else found)
        (n.ruleChildren.map Node.id)) := by
  simp only [Search.noting]
  rw [hbuilt.isRule_arena hn, hbuilt.ruleChildren_arena hn]
  rfl

/-- Either the turn of a node decides what it narrows to, or it leaves that to its only child. -/
theorem turn_sole :
    (Search.sole r).turn tree.arena () n.id = .ok (.ends ((n.solely? r).map Node.id)) ∨
    ∃ c, n.children = [c] ∧ n.solely? r = c.solely? r ∧
      (Search.sole r).turn tree.arena () n.id = .ok (.goesOn () [c.id]) := by
  simp only [Search.sole]
  rw [hbuilt.isRule_arena hn]
  cases h : n.isRule r with
  | true =>
      rw [Node.solely?_self h]
      exact Or.inl rfl
  | false =>
      by_cases honly : ∃ c, n.children = [c] ∧ c.isToken = false
      · obtain ⟨c, hchildren, hc⟩ := honly
        rw [hbuilt.onlyRuleChild?_of_only_child hn hchildren, hc]
        exact Or.inr ⟨c, hchildren, Node.solely?_of_only_child h hchildren hc, rfl⟩
      · have hend : ∀ c, n.children = [c] → c.isToken = true := by simpa using honly
        rw [hbuilt.onlyRuleChild?_eq_none hn hend, Node.solely?, Node.chain_eq_singleton hend,
          List.find?_singleton, h]
        exact Or.inl rfl

end Turns

theorem goesDown_nearest (r : Rule) : (Search.nearest r).GoesDown tree := by
  intro n hn found
  have hturn := hbuilt.turn_nearest hn r
  split at hturn
  · exact Or.inl ⟨_, hturn⟩
  · exact Or.inr ⟨(), n.ruleChildren, n.ruleChildren_sublist, hturn⟩

theorem goesDown_noting {α : Type} (r : Rule) (initial : α) (note : α → Nat → α) :
    (Search.noting r initial note).GoesDown tree := by
  intro n hn found
  exact Or.inr ⟨_, n.ruleChildren, n.ruleChildren_sublist,
    hbuilt.turn_noting hn r initial note found⟩

theorem goesDown_sole (r : Rule) : (Search.sole r).GoesDown tree := by
  intro n hn found
  rcases hbuilt.turn_sole hn r with hturn | ⟨c, hchildren, -, hturn⟩
  · exact Or.inl ⟨_, hturn⟩
  · exact Or.inr ⟨(), [c], by rw [hchildren], hturn⟩

/-- Level by level, the search is over with the first node that the rule made. -/
theorem exists_run_nearest {ns : List Node} (hns : ∀ n ∈ ns, n ∈ tree.nodes) (r : Rule) :
    ∃ visits, (Search.nearest r).run tree.arena (ns.map Node.id) () =
      pure (visits, ((Node.breadthFirst ns).find? (·.isRule r)).map Node.id) := by
  induction ns using Node.breadthFirst.induct with
  | case1 =>
      rw [Node.breadthFirst]
      exact ⟨[], Search.run.eq_1 _ _ _⟩
  | case2 n rest ih =>
      obtain ⟨hn, hrest⟩ := List.forall_mem_cons.mp hns
      have hturn := hbuilt.turn_nearest hn r
      rw [Node.breadthFirst, List.find?_cons]
      cases h : n.isRule r with
      | true =>
          rw [h] at hturn
          exact ⟨_, Search.run_of_ends hturn⟩
      | false =>
          rw [h] at hturn
          obtain ⟨visits, hrun⟩ := ih (forall_mem_join .queue hrest hn n.ruleChildren_sublist)
          rw [List.map_append] at hrun
          exact ⟨_, Search.run_of_goesOn hturn hrun⟩

/-- Subtree by subtree, every node that is visited has its turn. -/
theorem run_noting {α : Type} {ns : List Node} (hns : ∀ n ∈ ns, n ∈ tree.nodes) (r : Rule)
    (initial : α) (note : α → Nat → α) (found : α) :
    (Search.noting r initial note).run tree.arena (ns.map Node.id) found =
      pure ((Node.depthFirst ns).map fun n => ⟨n.id, n.ruleChildren.map Node.id⟩,
        (Node.depthFirst ns).foldl
          (fun found n => if n.isRule r then note found n.id else found) found) := by
  induction ns using Node.depthFirst.induct generalizing found with
  | case1 =>
      rw [Node.depthFirst]
      exact Search.run.eq_1 _ _ _
  | case2 n rest ih =>
      obtain ⟨hn, hrest⟩ := List.forall_mem_cons.mp hns
      have hrun := ih (forall_mem_join .stack hrest hn n.ruleChildren_sublist)
        (if n.isRule r then note found n.id else found)
      rw [List.map_append] at hrun
      rw [Node.depthFirst]
      exact Search.run_of_goesOn (hbuilt.turn_noting hn r initial note found) hrun

/-- Down the only children, the search is over with the first node that the rule made. -/
theorem exists_run_sole {n : Node} (hn : n ∈ tree.nodes) (r : Rule) :
    ∃ visits, (Search.sole r).run tree.arena [n.id] () =
      pure (visits, (n.solely? r).map Node.id) := by
  induction n using Node.induction_children with
  | step n ih =>
      rcases hbuilt.turn_sole hn r with hturn | ⟨c, hchildren, hsole, hturn⟩
      · exact ⟨_, Search.run_of_ends hturn⟩
      · have hc : c ∈ n.children := by simp [hchildren]
        obtain ⟨visits, hrun⟩ := ih c hc (mem_nodes_of_mem_children hn hc)
        rw [hsole]
        exact ⟨_, Search.run_of_goesOn hturn hrun⟩

section Endings

variable {n : Node} (hn : n ∈ tree.nodes) (r : Rule)
include hn

theorem nearest_ends :
    ∃ visits, (Search.nearest r).startAt tree.arena n.id =
        pure (visits, (n.nearest? r).map Node.id) ∧ IsOrderly tree n.id visits := by
  obtain ⟨visits, hrun⟩ := hbuilt.exists_run_nearest (List.forall_mem_singleton.mpr hn) r
  exact ⟨visits, hrun, (hbuilt.goesDown_nearest r).isOrderly hbuilt hn hrun⟩

theorem sole_ends :
    ∃ visits, (Search.sole r).startAt tree.arena n.id =
        pure (visits, (n.solely? r).map Node.id) ∧ IsOrderly tree n.id visits := by
  obtain ⟨visits, hrun⟩ := hbuilt.exists_run_sole hn r
  exact ⟨visits, hrun, (hbuilt.goesDown_sole r).isOrderly hbuilt hn hrun⟩

theorem noting_ends {α : Type} (initial : α) (note : α → Nat → α) :
    ∃ visits, (Search.noting r initial note).startAt tree.arena n.id =
        pure (visits, (Node.depthFirst [n]).foldl
          (fun found m => if m.isRule r then note found m.id else found) initial) ∧
      IsOrderly tree n.id visits ∧ (n.isToken = false → CoversRules n visits) := by
  have hrun := hbuilt.run_noting (List.forall_mem_singleton.mpr hn) r initial note initial
  have horderly := (hbuilt.goesDown_noting r initial note).isOrderly hbuilt hn hrun
  refine ⟨_, hrun, horderly, fun htoken => CoversRules.of_turns horderly.turns_nodup ?_⟩
  rw [List.map_map, ← Node.depthFirst_eq_filter htoken]
  rfl

theorem all_ends :
    ∃ visits, (Search.all r).startAt tree.arena n.id = pure (visits, (n.allOf r).map Node.id) ∧
      IsOrderly tree n.id visits ∧ (n.isToken = false → CoversRules n visits) := by
  have hfound : (n.allOf r).map Node.id = (Node.depthFirst [n]).foldl
      (fun ids m => if m.isRule r then ids ++ [m.id] else ids) [] := by
    rw [← List.foldl_filter, List.foldl_append_eq_append, List.nil_append, Node.allOf,
      List.map_eq_flatMap]
    rfl
  rw [hfound]
  exact hbuilt.noting_ends hn r [] fun ids id => ids ++ [id]

end Endings

end ParseTree.IsBuilt

namespace ParseTree

/-- In the arena of a tree that steps build, every search ends without a fault and finds what is
looked up in the tree. No node waits twice. -/
theorem searches_end {text : String} {steps : List Step} {tree : ParseTree}
    (hfinish : ((Builder.ofText text).run steps).2.finish = .ok tree) :
    (text.utf8ByteSize < 2 ^ 63 → ∃ outcomes b,
      (ArenaBuilder.ofText text).run steps = .ok (outcomes, b) ∧ b.finish = .ok tree.arena) ∧
    (∀ n ∈ tree.nodes, ∀ r,
      (∃ visits, (Search.nearest r).startAt tree.arena n.id =
          pure (visits, (n.nearest? r).map Node.id) ∧ IsOrderly tree n.id visits) ∧
      (∃ visits, (Search.all r).startAt tree.arena n.id =
          pure (visits, (n.allOf r).map Node.id) ∧ IsOrderly tree n.id visits ∧
        (n.isToken = false → CoversRules n visits)) ∧
      ∃ visits, (Search.sole r).startAt tree.arena n.id =
          pure (visits, (n.solely? r).map Node.id) ∧ IsOrderly tree n.id visits) ∧
    ∃ visits, Search.markers.startAt tree.arena tree.arena.root =
        pure (visits, MarkerNumbering.ofNode tree.root) ∧
      IsOrderly tree tree.arena.root visits ∧
      (tree.root.isToken = false → CoversRules tree.root visits) := by
  have hbuilt : tree.IsBuilt := ⟨text, steps, hfinish⟩
  refine ⟨?_, ?_, ?_⟩
  · intro hsize
    refine ⟨_, _, Builder.run_arena_ofText hsize steps, ?_⟩
    rw [Builder.finish_arena, hfinish]
    rfl
  · intro n hn r
    exact ⟨hbuilt.nearest_ends hn r, hbuilt.all_ends hn r, hbuilt.sole_ends hn r⟩
  · exact hbuilt.noting_ends tree.root.self_mem_nodes _ _ _

theorem limitTree_searches_end :
    ((Builder.ofText "列 LIMIT ?, ?").run limitSteps).2.finish = .ok limitTree ∧
      "列 LIMIT ?, ?".utf8ByteSize < 2 ^ 63 ∧ limitTree.root ∈ limitTree.nodes ∧
      limitTree.root.isToken = false ∧
      (∃ outcomes b, (ArenaBuilder.ofText "列 LIMIT ?, ?").run limitSteps = .ok (outcomes, b) ∧
        b.finish = .ok limitTree.arena) ∧
      (∃ visits, (Search.nearest .limitRowCount).startAt limitTree.arena 0 =
          pure (visits, some 8) ∧ visits.length ≤ 11) ∧
      ∃ visits, Search.markers.startAt limitTree.arena 0 = pure (visits, ⟨[(5, 0), (9, 1)]⟩) ∧
        (visits.map Visit.id).count 9 = 1 := by
  have hsize : "列 LIMIT ?, ?".utf8ByteSize < 2 ^ 63 := by decide
  have hroot := limitTree.root.self_mem_nodes
  have hmarker : Node.rule 9 "parameterMarker" ⟨11, 11⟩ [.token 10 "QUESTION_" ⟨11, 11⟩] ∈
      limitTree.root.nodes := by
    simp [limitTree, Node.nodes]
  obtain ⟨harena, hnodes, marked, hmarked, -, hcovers⟩ := searches_end finish_limitSteps
  obtain ⟨⟨visits, hnearest, horderly⟩, -⟩ := hnodes _ hroot .limitRowCount
  have hcount : (limitTree.root.nearest? .limitRowCount).map Node.id = some 8 := by
    with_unfolding_all rfl
  have hnumbers : MarkerNumbering.ofNode limitTree.root = ⟨[(5, 0), (9, 1)]⟩ := by
    with_unfolding_all rfl
  rw [hcount] at hnearest
  rw [hnumbers] at hmarked
  exact ⟨finish_limitSteps, hsize, hroot, rfl, harena hsize,
    ⟨visits, hnearest, horderly.length_le⟩, marked, hmarked, (hcovers rfl).once _ hmarker rfl⟩

example : (Search.nearest .limitRowCount).startAt limitTree.arena 0 =
    pure ([⟨0, [2]⟩, ⟨2, [4, 8]⟩, ⟨4, [5]⟩, ⟨8, []⟩], some 8) := by
  cbv

end ParseTree

end StatementSegments
