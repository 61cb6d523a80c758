import StatementSegments.Proofs.NodeIntervals
import StatementSegments.Proofs.TextSlices

namespace StatementSegments

section Numbered

variable {α : Type} {before after : List (Nat × α)} {entries : List (Nat × α)} {i n : Nat} {a : α}

theorem eq_length_of_map_fst (h : (before ++ (i, a) :: after).map Prod.fst = List.range n) :
    i = before.length := by
  rw [List.map_append, List.map_cons, ← List.singleton_append] at h
  simpa using eq_range'_of_append_eq_range h

theorem getElem?_map_snd (h : entries.map Prod.fst = List.range n) (hmem : (i, a) ∈ entries) :
    (entries.map Prod.snd)[i]? = some a := by
  obtain ⟨before, after, rfl⟩ := List.append_of_mem hmem
  rw [eq_length_of_map_fst h]
  simp

theorem setIfInBounds_map_snd (h : (before ++ (i, a) :: after).map Prod.fst = List.range n)
    (b : α) :
    ((before ++ (i, a) :: after).map Prod.snd).toArray.setIfInBounds i b =
      ((before ++ (i, b) :: after).map Prod.snd).toArray := by
  rw [eq_length_of_map_fst h]
  simp

end Numbered

namespace Node

/-- The cell of a node that is complete. -/
def cell (text : StatementText) (parent : Option Nat) (n : Node) : Cell where
  label := n.label
  isToken := n.isToken
  parent := parent
  children := n.children.map id
  span := n.span
  first := text.boundary n.start
  last := text.boundary (n.stop + 1)

mutual

/-- The cells of a node and of all below it, each with its number. -/
def entries (text : StatementText) (parent : Option Nat) : Node → List (Nat × Cell)
  | token id type span => [(id, (token id type span).cell text parent)]
  | rule id name span children =>
      (id, (rule id name span children).cell text parent) :: entriesOfAll text id children

def entriesOfAll (text : StatementText) (parent : Nat) : List Node → List (Nat × Cell)
  | [] => []
  | n :: rest => n.entries text (some parent) ++ entriesOfAll text parent rest

end

variable {text : StatementText} {parent : Option Nat}

theorem entriesOfAll_eq_flatMap (parent : Nat) (ns : List Node) :
    entriesOfAll text parent ns = ns.flatMap (entries text (some parent)) := by
  induction ns with
  | nil => rfl
  | cons n ns ih => rw [entriesOfAll, ih, List.flatMap_cons]

theorem entries_eq_cons (n : Node) :
    n.entries text parent =
      (n.id, n.cell text parent) :: n.children.flatMap (entries text (some n.id)) := by
  cases n with
  | token id type span => rfl
  | rule id name span children => rw [entries, entriesOfAll_eq_flatMap]; rfl

theorem map_fst_entries (n : Node) (parent : Option Nat) :
    (n.entries text parent).map Prod.fst = n.nodes.map id := by
  induction n using induction_children generalizing parent with
  | step n ih =>
      rw [entries_eq_cons, nodes_eq_cons, List.map_cons, List.map_cons, List.map_flatMap,
        List.map_flatMap]
      congr 1
      exact List.flatMap_congr fun c hc => ih c hc (some n.id)

theorem self_mem_entries (n : Node) (parent : Option Nat) :
    (n.id, n.cell text parent) ∈ n.entries text parent := by
  rw [entries_eq_cons]
  exact List.mem_cons_self

theorem child_mem_entries {m n c : Node} (hm : m ∈ n.nodes) (hc : c ∈ m.children) :
    (c.id, c.cell text (some m.id)) ∈ n.entries text parent := by
  induction n using induction_children generalizing parent with
  | step n ih =>
      rw [entries_eq_cons]
      apply List.mem_cons_of_mem
      rcases mem_nodes_iff.mp hm with rfl | ⟨d, hd, hm⟩
      · exact List.mem_flatMap_of_mem hc (c.self_mem_entries _)
      · exact List.mem_flatMap_of_mem hd (ih d hd hm)

end Node

namespace OpenNode

/-- The cell of a rule node that is not finished. The node started last within it is already one of
its children. -/
def cell (parent inner : Option Nat) (o : OpenNode) : Cell where
  label := o.name
  isToken := false
  parent := parent
  children := o.children.map Node.id ++ inner.toList
  span := Span.point o.start
  first := 0
  last := 0

/-- The cells of open nodes and of all they hold, for nodes listed from the innermost outwards. -/
def entries (text : StatementText) (inner : Option Nat) : List OpenNode → List (Nat × Cell)
  | [] => []
  | o :: outer =>
      entries text (some o.id) outer ++
        (o.id, o.cell (outer.head?.map OpenNode.id) inner) ::
          o.children.flatMap (Node.entries text (some o.id))

theorem map_fst_entries (text : StatementText) (inner : Option Nat) (os : List OpenNode) :
    (entries text inner os).map Prod.fst =
      os.reverse.flatMap fun o => o.id :: (o.children.flatMap Node.nodes).map Node.id := by
  induction os generalizing inner with
  | nil => rfl
  | cons o outer ih =>
      have hchildren : (o.children.flatMap (Node.entries text (some o.id))).map Prod.fst =
          (o.children.flatMap Node.nodes).map Node.id := by
        rw [List.map_flatMap, List.map_flatMap]
        exact List.flatMap_congr fun c _ => c.map_fst_entries (some o.id)
      rw [entries, List.map_append, List.map_cons, hchildren, ih, List.reverse_cons,
        List.flatMap_append, List.flatMap_singleton]

end OpenNode

namespace Builder

variable {b : Builder}

/-- The cells of a builder, where the innermost open node already has `inner` as a child. -/
def entries (inner : Option Nat) (b : Builder) : List (Nat × Cell) :=
  b.root.toList.flatMap (Node.entries b.text none) ++ OpenNode.entries b.text inner b.pending

/-- The arena of a builder when the node numbered `inner` has got its place, but no cell yet. -/
def arenaWith (inner : Option Nat) (b : Builder) : ArenaBuilder where
  text := b.text
  cells := ((b.entries inner).map Prod.snd).toArray
  opened := b.pending.map OpenNode.id
  root := ((b.pending.getLast?.map OpenNode.id).or inner).or (b.root.map Node.id)

/-- A builder laid out in an arena. -/
def arena (b : Builder) : ArenaBuilder :=
  b.arenaWith none

theorem map_fst_entries (inner : Option Nat) (b : Builder) :
    (b.entries inner).map Prod.fst = b.ids := by
  rw [entries, List.map_append, OpenNode.map_fst_entries, ids, List.map_flatMap, List.map_flatMap]
  congr 1
  exact List.flatMap_congr fun n _ => n.map_fst_entries none

section Places

variable (hids : b.ids = List.range b.nextId)
include hids

theorem size_cells_arena : b.arena.cells.size = b.nextId := by
  have hlength := congrArg List.length ((b.map_fst_entries none).trans hids)
  simpa [arena, arenaWith] using hlength

theorem getElem?_cells_arena {id : Nat} {cell : Cell} (h : (id, cell) ∈ b.entries none) :
    b.arena.cells[id]? = some cell := by
  rw [arena, arenaWith, List.getElem?_toArray]
  exact getElem?_map_snd ((b.map_fst_entries none).trans hids) h

end Places

end Builder

/-- A tree laid out in an arena. -/
def ParseTree.arena (tree : ParseTree) : Arena where
  text := tree.text
  cells := ((tree.root.entries tree.text none).map Prod.snd).toArray
  root := tree.root.id

theorem Builder.finish_arena (b : Builder) : b.arena.finish = b.finish.map ParseTree.arena := by
  rcases b with ⟨text, nextId, _ | ⟨o, outer⟩, _ | root⟩
  · rfl
  · simp [finish, ArenaBuilder.finish, arena, arenaWith, entries, OpenNode.entries, ParseTree.arena,
      Except.map]
  · simp [finish, ArenaBuilder.finish, arena, arenaWith, Except.map]
  · simp [finish, ArenaBuilder.finish, arena, arenaWith, Except.map]

namespace ParseTree.IsBuilt

variable {tree : ParseTree} (hbuilt : tree.IsBuilt)
include hbuilt

/-- Every node has a cell under its number, which names its parent and its children. -/
theorem cellAt_arena {n : Node} (hn : n ∈ tree.nodes) :
    tree.arena.cellAt n.id = .ok (n.cell tree.text ((tree.parent? n.id).map Node.id)) := by
  have hmem : (n.id, n.cell tree.text ((tree.parent? n.id).map Node.id)) ∈
      tree.root.entries tree.text none := by
    by_cases hid : n.id = 0
    · have hroot : n = tree.root :=
        Node.eq_of_id_eq hbuilt.ids_nodup hn tree.root.self_mem_nodes
          (hid.trans hbuilt.root_id.symm)
      rw [hid, hbuilt.parent?_root, ← hid, hroot]
      exact tree.root.self_mem_entries none
    · obtain ⟨p, hp, hchild, hparent⟩ := hbuilt.exists_parent hn hid
      rw [hparent]
      exact Node.child_mem_entries hp hchild
  have hids : (tree.root.entries tree.text none).map Prod.fst = List.range tree.size :=
    (tree.root.map_fst_entries none).trans hbuilt.ids_eq_range
  have hget : tree.arena.cells[n.id]? =
      some (n.cell tree.text ((tree.parent? n.id).map Node.id)) := by
    rw [arena, List.getElem?_toArray]
    exact getElem?_map_snd hids hmem
  rw [Arena.cellAt, Checked.fetch, hget]

end ParseTree.IsBuilt

end StatementSegments
