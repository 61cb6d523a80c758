import StatementSegments.Proofs.MarkerNumbers

namespace StatementSegments

namespace Node

/-- The map keeps the children of a node as its children, and all that a search goes by: numbers,
the names of rules, and which tokens stand for a percentage. -/
structure KeepsShape (f : Node → Node) : Prop where
  id : ∀ n, (f n).id = n.id
  isToken : ∀ n, (f n).isToken = n.isToken
  label : ∀ n, n.isToken = false → (f n).label = n.label
  isPercent : ∀ n, (f n).isTokenOf .percentKeyword = n.isTokenOf .percentKeyword
  children : ∀ n, (f n).children = n.children.map f

theorem chain_of_children_eq {n c : Node} (hn : n.children = [c]) (hc : c.isToken = false) :
    n.chain = n :: c.chain := by
  cases n with
  | token id type span => cases hn
  | rule id name span children =>
      obtain rfl : children = [c] := hn
      cases c with
      | token id type span => cases hc
      | rule id' name' span' children' => rw [chain]

theorem chain_eq_singleton {n : Node} (h : ∀ c, n.children = [c] → c.isToken = true) :
    n.chain = [n] := by
  rw [chain]
  rintro id name span id' name' span' children rfl
  exact absurd (h _ rfl) Bool.false_ne_true

namespace KeepsShape

variable {f : Node → Node} (hf : KeepsShape f)
include hf

theorem isRule (n : Node) (r : Rule) : (f n).isRule r = n.isRule r := by
  cases htoken : n.isToken with
  | true => simp [Node.isRule, hf.isToken, htoken]
  | false => rw [Node.isRule, Node.isRule, hf.isToken, hf.label n htoken]

theorem isRule_comp (r : Rule) : (fun n => n.isRule r) ∘ f = fun n => n.isRule r :=
  funext fun n => hf.isRule n r

theorem ruleChildren (n : Node) : (f n).ruleChildren = n.ruleChildren.map f := by
  have hkeep : (fun c => !c.isToken) ∘ f = fun c => !c.isToken :=
    funext fun c => congrArg (!·) (hf.isToken c)
  rw [Node.ruleChildren, Node.ruleChildren, hf.children, List.filter_map, hkeep]

theorem nodes (n : Node) : (f n).nodes = n.nodes.map f := by
  induction n using induction_children with
  | step n ih =>
      have hbelow : (n.children.map f).flatMap Node.nodes =
          (n.children.flatMap Node.nodes).map f := by
        rw [List.flatMap_map, List.map_flatMap]
        exact List.flatMap_congr ih
      rw [nodes_eq_cons, nodes_eq_cons n, hf.children, hbelow, List.map_cons]

theorem breadthFirst (ns : List Node) :
    Node.breadthFirst (ns.map f) = (Node.breadthFirst ns).map f := by
  induction ns using breadthFirst.induct with
  | case1 => rw [List.map_nil, Node.breadthFirst, List.map_nil]
  | case2 n rest ih =>
      rw [List.map_cons, Node.breadthFirst, Node.breadthFirst, List.map_cons, ← ih,
        List.map_append, hf.ruleChildren]

theorem chain (n : Node) : (f n).chain = n.chain.map f := by
  induction n using induction_children with
  | step n ih =>
      by_cases honly : ∃ c, n.children = [c] ∧ c.isToken = false
      · obtain ⟨c, hc, htoken⟩ := honly
        have himage : (f n).children = [f c] := by rw [hf.children, hc, List.map_singleton]
        rw [chain_of_children_eq hc htoken, List.map_cons, ← ih c (by simp [hc])]
        exact chain_of_children_eq himage ((hf.isToken c).trans htoken)
      · have hend : ∀ c, n.children = [c] → c.isToken = true := by
          intro c hc
          by_contra htoken
          exact honly ⟨c, hc, Bool.eq_false_iff.mpr htoken⟩
        rw [chain_eq_singleton hend, List.map_singleton]
        apply chain_eq_singleton
        intro d hd
        rw [hf.children, List.map_eq_singleton_iff] at hd
        obtain ⟨c, hc, rfl⟩ := hd
        exact (hf.isToken c).trans (hend c hc)

theorem nearest? (n : Node) (r : Rule) : (f n).nearest? r = (n.nearest? r).map f := by
  have horder := hf.breadthFirst [n]
  rw [List.map_singleton] at horder
  rw [Node.nearest?, horder, List.find?_map, hf.isRule_comp, Node.nearest?]

theorem allOf (n : Node) (r : Rule) : (f n).allOf r = (n.allOf r).map f := by
  rw [allOf_eq, allOf_eq, hf.nodes, List.filter_map, hf.isRule_comp]

theorem solely? (n : Node) (r : Rule) : (f n).solely? r = (n.solely? r).map f := by
  rw [Node.solely?, hf.chain, List.find?_map, hf.isRule_comp, Node.solely?]

theorem childRule? (n : Node) (r : Rule) : (f n).childRule? r = (n.childRule? r).map f := by
  rw [Node.childRule?, hf.ruleChildren, List.find?_map, hf.isRule_comp, Node.childRule?]

theorem childToken?_percentKeyword (n : Node) :
    (f n).childToken? .percentKeyword = (n.childToken? .percentKeyword).map f := by
  have hkeep : (fun c => c.isTokenOf .percentKeyword) ∘ f =
      fun c => c.isTokenOf .percentKeyword :=
    funext hf.isPercent
  rw [Node.childToken?, hf.children, List.find?_map, hkeep, Node.childToken?]

theorem any_id_children (n : Node) (id : Nat) :
    (f n).children.any (fun c => c.id == id) = n.children.any fun c => c.id == id := by
  have hkeep : (fun c => c.id == id) ∘ f = fun c => c.id == id :=
    funext fun c => congrArg (· == id) (hf.id c)
  rw [hf.children, List.any_map, hkeep]

end KeepsShape

end Node

theorem MarkerNumbering.ofNode_keepsShape {f : Node → Node} (hf : Node.KeepsShape f) (n : Node) :
    ofNode (f n) = ofNode n := by
  have hinsert : (fun numbering n => insertNode numbering (f n)) = insertNode := by
    funext numbering n
    rw [insertNode, hf.isRule, hf.id]
    rfl
  have hmarkers : ∀ m, ofNode m = (m.allOf .parameterMarker).foldl insertNode empty :=
    fun m => foldl_insertNode_filter empty _
  rw [hmarkers, hmarkers, hf.allOf, List.foldl_map, hinsert]

namespace ParseTree

variable {f : Node → Node} (hf : Node.KeepsShape f) {tree tree' : ParseTree}
  (hroot : tree'.root = f tree.root)
include hf hroot

theorem nodes_of_keepsShape : tree'.nodes = tree.nodes.map f := by
  rw [nodes, hroot, hf.nodes, nodes]

theorem parent?_of_keepsShape (id : Nat) : tree'.parent? id = (tree.parent? id).map f := by
  have hkeep : (fun n : Node => n.children.any fun c => c.id == id) ∘ f =
      fun n => n.children.any fun c => c.id == id :=
    funext fun n => hf.any_id_children n id
  rw [parent?, nodes_of_keepsShape hf hroot, List.find?_map, hkeep, parent?]

end ParseTree

end StatementSegments
