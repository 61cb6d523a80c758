import StatementSegments.Tree.Builder

/-!
Trees in an arena. The nodes stand in one array in the order in which they were created, name one
another by position and know which bytes of the text are theirs. Work on an arena can be refused
like work on a builder; apart from that it has a fault where memory would be misused.
-/
namespace StatementSegments

/-- Misuse of memory: a place outside an array, a sum or a difference outside 64 bits, a slice that
does not run from one character to a later one. -/
inductive Fault where
  | outOfRange (index size : Nat)
  | overflow
  | brokenSlice (first last : Nat)
  deriving DecidableEq, Repr

namespace Checked

def fetch {α : Type} (items : Array α) (index : Nat) : Except Fault α :=
  match items[index]? with
  | some item => .ok item
  | none => .error (.outOfRange index items.size)

def succ (n : Nat) : Except Fault Nat :=
  if n + 1 < UInt64.size then .ok (n + 1) else .error .overflow

def pred (n : Nat) : Except Fault Nat :=
  if n = 0 then .error .overflow else .ok (n - 1)

/-- The text in the bytes from `first` up to but not including `last`. -/
def slice (content : String) (first last : Nat) : Except Fault String :=
  if h : first ≤ last ∧ String.Pos.Raw.IsValid content ⟨first⟩ ∧
      String.Pos.Raw.IsValid content ⟨last⟩ then
    .ok (content.extract (content.pos ⟨first⟩ h.2.1) (content.pos ⟨last⟩ h.2.2))
  else
    .error (.brokenSlice first last)

end Checked

/-- A node in an arena, with the bytes from `first` up to but not including `last`. A rule node has
no bytes of its own until it is finished. -/
structure Cell where
  label : String
  isToken : Bool
  parent : Option Nat
  children : List Nat
  span : Span
  first : Nat
  last : Nat
  deriving DecidableEq, Repr

/-- Opened nodes are listed from the innermost outwards. -/
structure ArenaBuilder where
  text : StatementText
  cells : Array Cell
  opened : List Nat
  root : Option Nat

structure Arena where
  text : StatementText
  cells : Array Cell
  root : Nat

/-- Work on an arena. A refusal leaves it as the work left it, a fault ends everything. -/
abbrev ArenaBuilding :=
  ExceptT BuildError (StateT ArenaBuilder (Except Fault))

namespace ArenaBuilder

def ofText (text : String) : ArenaBuilder where
  text := StatementText.ofString text
  cells := #[]
  opened := []
  root := none

def checked {α : Type} (result : Except Fault α) : ArenaBuilding α :=
  ExceptT.lift (StateT.lift result)

def cellAt (id : Nat) : ArenaBuilding Cell := do
  checked (Checked.fetch (← get).cells id)

def modifyCell (id : Nat) (f : Cell → Cell) : ArenaBuilding Unit := do
  let cell ← cellAt id
  modify fun b => { b with cells := b.cells.setIfInBounds id (f cell) }

def refuseIf (condition : Prop) [Decidable condition] (e : BuildError) : ArenaBuilding Unit :=
  if condition then throw e else return

/-- An offset is that of a character of the text. -/
def requireOffset (offset : Nat) : ArenaBuilding Unit := do
  let length ← checked (Checked.pred (← get).text.boundaries.size)
  refuseIf (length ≤ offset) (.offsetOutOfRange offset length)

def requireOrder (label : String) (start stop : Nat) : ArenaBuilding Unit :=
  refuseIf (stop < start) (.invertedRange label start stop)

/-- Where the bytes of the characters from `start` to `stop` begin and end. -/
def bytesOf (start stop : Nat) : ArenaBuilding (Nat × Nat) := do
  let boundaries := (← get).text.boundaries
  let first ← checked (Checked.fetch boundaries start)
  let behind ← checked (Checked.succ stop)
  let last ← checked (Checked.fetch boundaries behind)
  return (first, last)

/-- A cell starts within its parent and behind the last child of that. -/
def requireRoom (cell parent : Cell) : ArenaBuilding Unit := do
  refuseIf (cell.span.start < parent.span.start)
    (.outsideParent cell.label parent.label cell.span)
  match parent.children.getLast? with
  | some id => do
      let previous ← cellAt id
      refuseIf (cell.span.start ≤ previous.span.stop)
        (.siblingOverlap cell.label previous.label cell.span.start previous.span.stop)
  | none => return

/-- Make the cell to come the next child of the innermost opened node, or the root if none is
open. -/
def link (cell : Cell) : ArenaBuilding Unit := do
  let b ← get
  match b.opened with
  | parentId :: _ => do
      let parent ← cellAt parentId
      requireRoom cell parent
      modifyCell parentId fun parent =>
        { parent with children := parent.children ++ [b.cells.size] }
  | [] => do
      refuseIf (b.root.isSome = true) (.multipleRoots cell.label)
      modify fun b => { b with root := some b.cells.size }

/-- Add a cell, and give the number it got. -/
def attach (cell : Cell) : ArenaBuilding Nat := do
  let b ← get
  link cell
  modify fun b => { b with cells := b.cells.push { cell with parent := b.opened.head? } }
  return b.cells.size

def startNode (name : String) (start : Nat) : ArenaBuilding Unit := do
  requireOffset start
  let id ← attach ⟨name, false, none, [], Span.point start, 0, 0⟩
  modify fun b => { b with opened := id :: b.opened }

def addToken (type : String) (start stop : Nat) : ArenaBuilding Unit := do
  requireOffset start
  requireOffset stop
  requireOrder type start stop
  let (first, last) ← bytesOf start stop
  let _ ← attach ⟨type, true, none, [], ⟨start, stop⟩, first, last⟩

/-- The first of the cells with these numbers that stops behind an offset. -/
def firstBeyond? (stop : Nat) : List Nat → ArenaBuilding (Option Cell)
  | [] => return none
  | id :: rest => do
      let cell ← cellAt id
      if stop < cell.span.stop then return some cell else firstBeyond? stop rest

def finishNode (stop : Nat) : ArenaBuilding Unit := do
  match (← get).opened with
  | [] => throw .noOpenNode
  | id :: outer => do
      requireOffset stop
      let cell ← cellAt id
      requireOrder cell.label cell.span.start stop
      match ← firstBeyond? stop cell.children with
      | some child => throw (.outsideParent child.label cell.label child.span)
      | none => do
          modify fun b => { b with opened := outer }
          let (first, last) ← bytesOf cell.span.start stop
          modifyCell id fun cell => { cell with span.stop := stop, first := first, last := last }

def perform : Step → ArenaBuilding Unit
  | .start name offset => startNode name offset
  | .token type start stop => addToken type start stop
  | .finish stop => finishNode stop

/-- One step, with the arena after it. -/
def step (b : ArenaBuilder) (s : Step) : Except Fault (Except BuildError Unit × ArenaBuilder) :=
  (perform s).run.run b

/-- Every step in turn, going on after refused ones. -/
def run (b : ArenaBuilder) :
    List Step → Except Fault (List (Except BuildError Unit) × ArenaBuilder)
  | [] => .ok ([], b)
  | s :: rest => do
      let (outcome, next) ← b.step s
      let (outcomes, last) ← next.run rest
      return (outcome :: outcomes, last)

def finish (b : ArenaBuilder) : Except BuildError Arena :=
  match b.opened, b.root with
  | [], some root => .ok ⟨b.text, b.cells, root⟩
  | [], none => .error .empty
  | opened, _ => .error (.unbalanced opened.length)

end ArenaBuilder

namespace Arena

def cellAt (arena : Arena) (id : Nat) : Except Fault Cell :=
  Checked.fetch arena.cells id

/-- The part of the text that a node covers. -/
def textAt (arena : Arena) (id : Nat) : Except Fault String := do
  let cell ← arena.cellAt id
  Checked.slice arena.text.content cell.first cell.last

end Arena

end StatementSegments
