import StatementSegments.Tree.Node

namespace StatementSegments.Node

/-- Level by level: what is visited lines up behind what is waiting. -/
def breadthFirst : List Node → List Node
  | [] => []
  | n :: rest => n :: breadthFirst (rest ++ n.ruleChildren)
  termination_by waiting => (nodesOfAll waiting).length
  decreasing_by
    have := length_nodesOfAll_ruleChildren_lt n
    simp only [nodesOfAll_append, nodesOfAll_cons, List.length_append]
    omega

/-- Subtree by subtree: the children of a node come before what is waiting. -/
def depthFirst : List Node → List Node
  | [] => []
  | n :: rest => n :: depthFirst (n.ruleChildren ++ rest)
  termination_by waiting => (nodesOfAll waiting).length
  decreasing_by
    have := length_nodesOfAll_ruleChildren_lt n
    simp only [nodesOfAll_append, nodesOfAll_cons, List.length_append]
    omega

/-- The node, then the only child for as long as a node has a rule node as its only child. -/
def chain : Node → List Node
  | rule id name span [rule id' name' span' children] =>
      rule id name span [rule id' name' span' children] :: chain (rule id' name' span' children)
  | n => [n]

/-- The nearest rule node made by `r`, the leftmost of several. -/
def nearest? (n : Node) (r : Rule) : Option Node :=
  (breadthFirst [n]).find? (·.isRule r)

/-- Every rule node made by `r`, in the order of the text. -/
def allOf (n : Node) (r : Rule) : List Node :=
  (depthFirst [n]).filter (·.isRule r)

/-- The first rule node made by `r` on the chain, so that the node is nothing but that rule. -/
def solely? (n : Node) (r : Rule) : Option Node :=
  n.chain.find? (·.isRule r)

/-- The first child that is a rule node made by `r`. -/
def childRule? (n : Node) (r : Rule) : Option Node :=
  n.ruleChildren.find? (·.isRule r)

/-- The first child that is a token of type `r`. -/
def childToken? (n : Node) (r : Rule) : Option Node :=
  n.children.find? (·.isTokenOf r)

end StatementSegments.Node
