import StatementSegments.Tree.Arena
import StatementSegments.Tree.MarkerNumbering

/-!
Searches in an arena. Nodes are known by their numbers only, and a search goes on as long as some
are waiting, so nothing in a search itself says that it ends. Beside its result it gives what
happened in each of its turns.
-/
namespace StatementSegments

namespace Arena

/-- A rule node made by `r`; a token is none, whatever its type. -/
def isRule (arena : Arena) (id : Nat) (r : Rule) : Except Fault Bool := do
  let cell ← arena.cellAt id
  return !cell.isToken && cell.label == r.spelling

/-- Those of some nodes that are rule nodes. -/
def rulesAmong (arena : Arena) : List Nat → Except Fault (List Nat)
  | [] => return []
  | id :: rest => do
      let cell ← arena.cellAt id
      let rules ← arena.rulesAmong rest
      return if cell.isToken then rules else id :: rules

def ruleChildren (arena : Arena) (id : Nat) : Except Fault (List Nat) := do
  let cell ← arena.cellAt id
  arena.rulesAmong cell.children

/-- The only child of a node, if that is a rule node. -/
def onlyRuleChild? (arena : Arena) (id : Nat) : Except Fault (Option Nat) := do
  let cell ← arena.cellAt id
  match cell.children with
  | [child] => return if (← arena.cellAt child).isToken then none else some child
  | _ => return none

end Arena

/-- Where nodes line up that join those that wait: behind or before them. -/
inductive WaitingOrder where
  | queue
  | stack
  deriving DecidableEq, Repr

/-- Waiting nodes are listed in the order in which their turns come. -/
def WaitingOrder.join {α : Type} (order : WaitingOrder) (waiting joining : List α) : List α :=
  match order with
  | queue => waiting ++ joining
  | stack => joining ++ waiting

/-- What a search does in the turn of a node: it ends, or it goes on with what it has found so far
and with nodes that join those that wait. -/
inductive Turn (α β : Type) where
  | ends (result : β)
  | goesOn (found : α) (joining : List Nat)

/-- A turn that was taken: whose it was, and which nodes joined in it. -/
structure Visit where
  id : Nat
  joining : List Nat
  deriving DecidableEq, Repr

/-- A search by turns, with its result for when no node waits any more. -/
structure Search (α β : Type) where
  order : WaitingOrder
  initial : α
  turn : Arena → α → Nat → Except Fault (Turn α β)
  atEnd : α → β

namespace Search

variable {α β : Type}

/-- The turns and the result of a search; nothing if it goes on for ever. -/
def run (s : Search α β) (arena : Arena) (waiting : List Nat) (found : α) :
    ExceptT Fault Option (List Visit × β) :=
  match waiting with
  | [] => return ([], s.atEnd found)
  | id :: rest => do
      match s.turn arena found id with
      | .error fault => throw fault
      | .ok (.ends result) => return ([⟨id, []⟩], result)
      | .ok (.goesOn found joining) => do
          let (visits, result) ← s |>.run arena (s.order.join rest joining) found
          return (⟨id, joining⟩ :: visits, result)
partial_fixpoint

/-- A search that starts with one waiting node. -/
def startAt (s : Search α β) (arena : Arena) (id : Nat) : ExceptT Fault Option (List Visit × β) :=
  s.run arena [id] s.initial

/-- The first rule node made by `r`, level by level. -/
def nearest (r : Rule) : Search Unit (Option Nat) where
  order := .queue
  initial := ()
  turn arena _ id := do
    if ← arena.isRule id r then
      return .ends (some id)
    return .goesOn () (← arena.ruleChildren id)
  atEnd _ := none

/-- What comes of noting every rule node made by `r`, subtree by subtree. -/
def noting (r : Rule) (initial : α) (note : α → Nat → α) : Search α α where
  order := .stack
  initial := initial
  turn arena found id := do
    let found := if ← arena.isRule id r then note found id else found
    return .goesOn found (← arena.ruleChildren id)
  atEnd found := found

def all (r : Rule) : Search (List Nat) (List Nat) :=
  noting r [] fun ids id => ids ++ [id]

/-- A marker gets the number of markers before it. -/
def markers : Search MarkerNumbering MarkerNumbering :=
  noting .parameterMarker .empty fun numbering id => numbering.insert id numbering.size

/-- The first rule node made by `r` among only children. One node waits at a time: its only child
comes in its place. -/
def sole (r : Rule) : Search Unit (Option Nat) where
  order := .queue
  initial := ()
  turn arena _ id := do
    if ← arena.isRule id r then
      return .ends (some id)
    match ← arena.onlyRuleChild? id with
    | some child => return .goesOn () [child]
    | none => return .ends none
  atEnd _ := none

end Search

end StatementSegments
