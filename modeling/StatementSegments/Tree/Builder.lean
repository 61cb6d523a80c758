import StatementSegments.Tree.BuildError
import StatementSegments.Tree.ParseTree

/-!
Building a parse tree from the stream of a parser. A rule node is started, receives what comes
until it is finished, and then covers the span from its start to the stop it is given. A step that
is refused changes nothing, so a builder can go on after it.
-/
namespace StatementSegments

/-- A rule node that was started and not finished yet, with the children it has so far. -/
structure OpenNode where
  id : Nat
  name : String
  start : Nat
  children : List Node

/-- Open nodes are listed from the innermost outwards. -/
structure Builder where
  text : StatementText
  nextId : Nat
  pending : List OpenNode
  root : Option Node

inductive Step where
  | start (name : String) (offset : Nat)
  | token (type : String) (start stop : Nat)
  | finish (stop : Nat)
  deriving DecidableEq, Repr

/-- Work on a builder that can be refused; the builder stays as the work left it. -/
abbrev Building :=
  ExceptT BuildError (StateM Builder)

namespace Builder

def ofText (text : String) : Builder where
  text := StatementText.ofString text
  nextId := 0
  pending := []
  root := none

/-- Give a complete node to the innermost open node, or make it the root if none is open. -/
def place (node : Node) (b : Builder) : Builder :=
  match b.pending with
  | parent :: outer =>
      { b with pending := { parent with children := parent.children ++ [node] } :: outer }
  | [] => { b with root := some node }

/-- An offset is that of a character of the text. -/
def requireOffset (offset : Nat) : Building Unit := do
  let length := (← get).text.length
  if length ≤ offset then
    throw (.offsetOutOfRange offset length)

def requireOrder (label : String) (start stop : Nat) : Building Unit := do
  if stop < start then
    throw (.invertedRange label start stop)

/-- A new node starts within the innermost open node and behind what that node holds, or it is
the only root. -/
def requirePlace (label : String) (span : Span) : Building Unit := do
  match (← get).pending with
  | parent :: _ =>
      if span.start < parent.start then
        throw (.outsideParent label parent.name span)
      if let some previous := parent.children.getLast? then
        if span.start ≤ previous.stop then
          throw (.siblingOverlap label previous.label span.start previous.stop)
  | [] =>
      if (← get).root.isSome then
        throw (.multipleRoots label)

def startNode (name : String) (start : Nat) : Building Unit := do
  requireOffset start
  requirePlace name (Span.point start)
  modify fun b =>
    { b with nextId := b.nextId + 1, pending := ⟨b.nextId, name, start, []⟩ :: b.pending }

def addToken (type : String) (start stop : Nat) : Building Unit := do
  requireOffset start
  requireOffset stop
  requireOrder type start stop
  requirePlace type ⟨start, stop⟩
  modify fun b => { b with nextId := b.nextId + 1 }.place (.token b.nextId type ⟨start, stop⟩)

def finishNode (stop : Nat) : Building Unit := do
  match (← get).pending with
  | [] => throw .noOpenNode
  | node :: outer =>
      requireOffset stop
      requireOrder node.name node.start stop
      if let some child := node.children.find? fun child => stop < child.stop then
        throw (.outsideParent child.label node.name child.span)
      modify fun b =>
        { b with pending := outer }.place (.rule node.id node.name ⟨node.start, stop⟩ node.children)

def perform : Step → Building Unit
  | .start name offset => startNode name offset
  | .token type start stop => addToken type start stop
  | .finish stop => finishNode stop

def step (b : Builder) (s : Step) : Except BuildError Unit × Builder :=
  (perform s).run.run b

/-- Every step in turn, going on after refused ones. -/
def run (b : Builder) : List Step → List (Except BuildError Unit) × Builder
  | [] => ([], b)
  | s :: rest =>
      let (outcome, next) := b.step s
      let (outcomes, last) := next.run rest
      (outcome :: outcomes, last)

/-- The tree, once every node is finished. -/
def finish (b : Builder) : Except BuildError ParseTree :=
  match b.pending, b.root with
  | [], some root => .ok ⟨b.text, root⟩
  | [], none => .error .empty
  | pending, _ => .error (.unbalanced pending.length)

end Builder

/-- Where building a tree was refused: at a step, or at its end. -/
structure Refusal where
  step : Option Nat
  error : BuildError
  deriving DecidableEq, Repr

namespace Builder

/-- The tree of a builder after some steps, all of which have to be accepted. -/
def build (b : Builder) (position : Nat) : List Step → Except Refusal ParseTree
  | [] => b.finish.mapError fun error => ⟨none, error⟩
  | s :: rest =>
      match b.step s with
      | (.ok (), next) => next.build (position + 1) rest
      | (.error error, _) => .error ⟨some position, error⟩

end Builder

def ParseTree.ofSteps (text : String) (steps : List Step) : Except Refusal ParseTree :=
  (Builder.ofText text).build 0 steps

end StatementSegments
