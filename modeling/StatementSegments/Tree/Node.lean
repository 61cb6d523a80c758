import StatementSegments.Span
import StatementSegments.Tree.Grammar

/-!
Nodes of a parse tree. A token is a leaf with a token type; a rule node has the name of a grammar
rule and holds the nodes the rule was made of. Every node carries the number it was created under.
-/
namespace StatementSegments

inductive Node where
  | token (id : Nat) (type : String) (span : Span)
  | rule (id : Nat) (name : String) (span : Span) (children : List Node)
  deriving Repr, Inhabited

namespace Node

def id : Node → Nat
  | token id _ _ => id
  | rule id _ _ _ => id

/-- The rule name of a rule node, the type of a token. -/
def label : Node → String
  | token _ type _ => type
  | rule _ name _ _ => name

def span : Node → Span
  | token _ _ span => span
  | rule _ _ span _ => span

def start (n : Node) : Nat :=
  n.span.start

def stop (n : Node) : Nat :=
  n.span.stop

def children : Node → List Node
  | token _ _ _ => []
  | rule _ _ _ children => children

def isToken : Node → Bool
  | token _ _ _ => true
  | rule _ _ _ _ => false

/-- The children that are rule nodes. -/
def ruleChildren (n : Node) : List Node :=
  n.children.filter fun child => !child.isToken

/-- A rule node made by `r`; a token is none, whatever its type. -/
def isRule (n : Node) (r : Rule) : Bool :=
  !n.isToken && n.label == r.spelling

def isTokenOf (n : Node) (r : Rule) : Bool :=
  n.isToken && n.label == r.spelling

mutual

/-- The node and all below it, every node before its children and these from left to right. -/
def nodes : Node → List Node
  | token id type span => [token id type span]
  | rule id name span children => rule id name span children :: nodesOfAll children

/-- The nodes of several trees, one tree after the other. -/
def nodesOfAll : List Node → List Node
  | [] => []
  | n :: rest => n.nodes ++ nodesOfAll rest

end

@[simp]
theorem nodesOfAll_nil : nodesOfAll [] = [] :=
  rfl

@[simp]
theorem nodesOfAll_cons (n : Node) (rest : List Node) :
    nodesOfAll (n :: rest) = n.nodes ++ nodesOfAll rest :=
  rfl

theorem nodes_eq (n : Node) : n.nodes = n :: nodesOfAll n.children := by
  cases n <;> rfl

@[simp]
theorem nodesOfAll_append (ns ms : List Node) :
    nodesOfAll (ns ++ ms) = nodesOfAll ns ++ nodesOfAll ms := by
  induction ns with
  | nil => rfl
  | cons n ns ih => simp [ih]

theorem length_nodesOfAll_filter_le (p : Node → Bool) (ns : List Node) :
    (nodesOfAll (ns.filter p)).length ≤ (nodesOfAll ns).length := by
  induction ns with
  | nil => simp
  | cons n ns ih =>
      by_cases h : p n
      · simp [h, ih]
      · simp only [List.filter_cons, h, nodesOfAll_cons, List.length_append]
        exact Nat.le_trans ih (Nat.le_add_left _ _)

theorem length_nodesOfAll_ruleChildren_lt (n : Node) :
    (nodesOfAll n.ruleChildren).length < n.nodes.length := by
  rw [nodes_eq, List.length_cons]
  exact Nat.lt_succ_of_le (length_nodesOfAll_filter_le _ _)

end Node

end StatementSegments
