import StatementSegments.Proofs.ArenaLayout
import StatementSegments.Proofs.ArenaWork

namespace StatementSegments

namespace ArenaBuilder

variable {a : ArenaBuilder}

theorem runOn_refuseIf (condition : Prop) [Decidable condition] (e : BuildError) :
    runOn (refuseIf condition e) a = .ok (if condition then .error e else .ok (), a) := by
  unfold refuseIf
  split <;> rfl

theorem runOn_requireOffset (offset : Nat) :
    runOn (requireOffset offset) a =
      .ok (if a.text.length ≤ offset then .error (.offsetOutOfRange offset a.text.length)
        else .ok (), a) := by
  have hsize : a.text.boundaries.size ≠ 0 := by
    rw [a.text.boundaries_eq, List.size_toArray, length_boundariesFrom]
    exact Nat.succ_ne_zero _
  have hpred : Checked.pred a.text.boundaries.size = .ok a.text.length := by
    rw [Checked.pred, if_neg hsize, StatementText.length]
  rw [requireOffset, runOn_bind_of_ok runOn_get, hpred, runOn_bind_of_ok (runOn_checked_ok _),
    runOn_refuseIf]

theorem runOn_cellAt {id : Nat} {cell : Cell} (h : a.cells[id]? = some cell) :
    runOn (cellAt id) a = .ok (.ok cell, a) := by
  rw [cellAt, runOn_bind_of_ok runOn_get, Checked.fetch, h, runOn_checked_ok]

theorem runOn_modifyCell {id : Nat} {cell : Cell} (h : a.cells[id]? = some cell)
    (f : Cell → Cell) :
    runOn (modifyCell id f) a =
      .ok (.ok (), { a with cells := a.cells.setIfInBounds id (f cell) }) := by
  rw [modifyCell, runOn_bind_of_ok (runOn_cellAt h), runOn_modify]

theorem runOn_bytesOf {start stop : Nat} (horder : start ≤ stop) (hstop : stop < a.text.length)
    (hsize : a.text.length < UInt64.size) :
    runOn (bytesOf start stop) a =
      .ok (.ok (a.text.boundary start, a.text.boundary (stop + 1)), a) := by
  have hstart : start ≤ a.text.length := Nat.le_trans horder (Nat.le_of_lt hstop)
  have hsucc : Checked.succ stop = .ok (stop + 1) := by
    rw [Checked.succ, if_pos (Nat.lt_of_le_of_lt hstop hsize)]
  rw [bytesOf, runOn_bind_of_ok runOn_get]
  simp only [Checked.fetch, a.text.getElem?_boundaries hstart, a.text.getElem?_boundaries hstop,
    hsucc, runOn_bind_of_ok (runOn_checked_ok _), runOn_pure]

theorem runOn_firstBeyond? (stop : Nat) {cells : List (Nat × Cell)}
    (h : ∀ entry ∈ cells, a.cells[entry.1]? = some entry.2) :
    runOn (firstBeyond? stop (cells.map Prod.fst)) a =
      .ok (.ok ((cells.map Prod.snd).find? fun cell => stop < cell.span.stop), a) := by
  induction cells with
  | nil => rfl
  | cons entry rest ih =>
      obtain ⟨hentry, hrest⟩ := List.forall_mem_cons.mp h
      rw [List.map_cons, firstBeyond?, runOn_bind_of_ok (runOn_cellAt hentry), List.map_cons,
        List.find?_cons]
      by_cases hbeyond : stop < entry.2.span.stop
      · simp [hbeyond]
      · simp [hbeyond, ih hrest]

end ArenaBuilder

namespace Builder

open ArenaBuilder (link attach)

variable {b : Builder}

/-- Work on the layout of a builder has the outcome of other work on the builder itself, and leaves
the layout of what the other leaves. -/
def Mirrors (b : Builder) (x : ArenaBuilding Unit) (y : Building Unit) : Prop :=
  ArenaBuilder.runOn x b.arena = .ok ((runOn y b).1, (runOn y b).2.arena)

theorem Mirrors.bind {x : ArenaBuilding Unit} {y : Building Unit} {f : Unit → ArenaBuilding Unit}
    {g : Unit → Building Unit} (hlooks : OnlyLooks y) (h : b.Mirrors x y)
    (hrest : runOn y b = (.ok (), b) → b.Mirrors (f ()) (g ())) :
    b.Mirrors (x >>= f) (y >>= g) := by
  unfold Mirrors at h hrest ⊢
  have hlook := hlooks b
  rw [runOn_bind]
  rcases hy : runOn y b with ⟨e | u, next⟩
  · rw [hy] at h
    rw [ArenaBuilder.runOn_bind_of_refused h]
  · rw [hy] at h hlook
    dsimp only at h hlook
    subst hlook
    rw [ArenaBuilder.runOn_bind_of_ok h]
    exact hrest hy

theorem Mirrors.of_runOn {α : Type} {x : ArenaBuilding α} {v : α} {f : α → ArenaBuilding Unit}
    {y : Building Unit} (h : ArenaBuilder.runOn x b.arena = .ok (.ok v, b.arena))
    (hrest : b.Mirrors (f v) y) : b.Mirrors (x >>= f) y := by
  unfold Mirrors
  rw [ArenaBuilder.runOn_bind_of_ok h]
  exact hrest

theorem requireOffset_mirrors (b : Builder) (offset : Nat) :
    b.Mirrors (ArenaBuilder.requireOffset offset) (requireOffset offset) := by
  unfold Mirrors
  rw [ArenaBuilder.runOn_requireOffset, runOn_requireOffset]
  change Except.ok (if b.text.length ≤ offset then _ else _, b.arena) = _
  split <;> rfl

theorem requireOrder_mirrors (b : Builder) (label : String) (start stop : Nat) :
    b.Mirrors (ArenaBuilder.requireOrder label start stop) (requireOrder label start stop) := by
  unfold Mirrors
  rw [ArenaBuilder.requireOrder, ArenaBuilder.runOn_refuseIf, runOn_requireOrder]
  split <;> rfl

theorem opened_of_nil (h : b.pending = []) : b.arena.opened = [] := by
  rw [arena, arenaWith, h, List.map_nil]

theorem opened_of_cons {parent : OpenNode} {outer : List OpenNode}
    (h : b.pending = parent :: outer) :
    b.arena.opened = parent.id :: outer.map OpenNode.id := by
  rw [arena, arenaWith, h, List.map_cons]

theorem entries_of_cons {parent : OpenNode} {outer : List OpenNode}
    (h : b.pending = parent :: outer) (inner : Option Nat) :
    b.entries inner =
      (b.root.toList.flatMap (Node.entries b.text none) ++
        OpenNode.entries b.text (some parent.id) outer) ++
      (parent.id, parent.cell (outer.head?.map OpenNode.id) inner) ::
        parent.children.flatMap (Node.entries b.text (some parent.id)) := by
  rw [entries, h, OpenNode.entries, List.append_assoc]

/-- The arena of a builder with a new cell, which has got its place and stands behind all others. -/
def arenaWithCell (cell : Cell) (b : Builder) : ArenaBuilder :=
  { b.arenaWith (some b.nextId) with
    cells := (b.arenaWith (some b.nextId)).cells.push
      { cell with parent := b.pending.head?.map OpenNode.id } }

section Places

variable (hids : b.ids = List.range b.nextId)
include hids

theorem cell_of_cons {parent : OpenNode} {outer : List OpenNode}
    (h : b.pending = parent :: outer) :
    b.arena.cells[parent.id]? = some (parent.cell (outer.head?.map OpenNode.id) none) := by
  apply getElem?_cells_arena hids
  rw [entries_of_cons h]
  exact List.mem_append_right _ List.mem_cons_self

theorem cell_of_child {parent : OpenNode} {outer : List OpenNode}
    (h : b.pending = parent :: outer) {c : Node} (hc : c ∈ parent.children) :
    b.arena.cells[c.id]? = some (c.cell b.text (some parent.id)) := by
  apply getElem?_cells_arena hids
  rw [entries_of_cons h]
  apply List.mem_append_right
  exact List.mem_cons_of_mem _ (List.mem_flatMap_of_mem hc (c.self_mem_entries _))

theorem setIfInBounds_of_cons {parent : OpenNode} {outer : List OpenNode}
    (h : b.pending = parent :: outer) (cell : Cell) :
    b.arena.cells.setIfInBounds parent.id cell =
      (((b.root.toList.flatMap (Node.entries b.text none) ++
          OpenNode.entries b.text (some parent.id) outer) ++
        (parent.id, cell) ::
          parent.children.flatMap (Node.entries b.text (some parent.id))).map
            Prod.snd).toArray := by
  have hrange := (b.map_fst_entries none).trans hids
  rw [entries_of_cons h] at hrange
  rw [arena, arenaWith, entries_of_cons h]
  exact setIfInBounds_map_snd hrange cell

theorem requireRoom_mirrors {parent : OpenNode} {outer : List OpenNode}
    (h : b.pending = parent :: outer) (cell : Cell) :
    b.Mirrors (ArenaBuilder.requireRoom cell (parent.cell (outer.head?.map OpenNode.id) none))
      (requirePlace cell.label cell.span) := by
  have hlast : (parent.cell (outer.head?.map OpenNode.id) none).children.getLast? =
      parent.children.getLast?.map Node.id := by
    simp [OpenNode.cell]
  unfold Mirrors ArenaBuilder.requireRoom
  rw [runOn_requirePlace_cons cell.label cell.span h, hlast]
  by_cases hstart : cell.span.start < parent.start
  · rw [if_pos hstart]
    apply ArenaBuilder.runOn_bind_of_refused
    rw [ArenaBuilder.runOn_refuseIf]
    exact congrArg (fun r => Except.ok (r, b.arena)) (if_pos hstart)
  · have hwithin : ArenaBuilder.runOn (ArenaBuilder.refuseIf (cell.span.start < parent.start)
        (.outsideParent cell.label parent.name cell.span)) b.arena = .ok (.ok (), b.arena) := by
      rw [ArenaBuilder.runOn_refuseIf, if_neg hstart]
    rw [if_neg hstart]
    refine (ArenaBuilder.runOn_bind_of_ok hwithin).trans ?_
    cases hprevious : parent.children.getLast? with
    | none => rfl
    | some previous =>
        have hget := cell_of_child hids h (List.mem_of_getLast? hprevious)
        simp only [Option.map_some]
        rw [ArenaBuilder.runOn_bind_of_ok (ArenaBuilder.runOn_cellAt hget),
          ArenaBuilder.runOn_refuseIf]
        change Except.ok (if cell.span.start ≤ previous.stop then _ else _, b.arena) = _
        split <;> rfl

/-- The children of an open node are found by their numbers, the first one beyond an offset too. -/
theorem runOn_firstBeyond?_children {parent : OpenNode} {outer : List OpenNode}
    (h : b.pending = parent :: outer) (stop : Nat) :
    ArenaBuilder.runOn
        (ArenaBuilder.firstBeyond? stop (parent.cell (outer.head?.map OpenNode.id) none).children)
        b.arena =
      .ok (.ok ((parent.children.find? fun child => stop < child.stop).map
        (Node.cell b.text (some parent.id))), b.arena) := by
  have hcells : ∀ entry ∈ parent.children.map fun c => (c.id, c.cell b.text (some parent.id)),
      b.arena.cells[entry.1]? = some entry.2 := by
    intro entry hentry
    obtain ⟨c, hc, rfl⟩ := List.mem_map.mp hentry
    exact cell_of_child hids h hc
  have hnumbers : (parent.cell (outer.head?.map OpenNode.id) none).children =
      (parent.children.map fun c => (c.id, c.cell b.text (some parent.id))).map Prod.fst := by
    simp [OpenNode.cell]
  rw [hnumbers, ArenaBuilder.runOn_firstBeyond? stop hcells, List.map_map, List.find?_map]
  rfl

/-- The place of a new cell is refused for the reasons for which that of a new node is. -/
theorem link_refused {cell : Cell} {e : BuildError}
    (he : (runOn (requirePlace cell.label cell.span) b).1 = .error e) :
    ArenaBuilder.runOn (link cell) b.arena = .ok (.error e, b.arena) := by
  rw [link, ArenaBuilder.runOn_bind_of_ok ArenaBuilder.runOn_get]
  rcases hpending : b.pending with _ | ⟨parent, outer⟩
  · rw [runOn_requirePlace_nil _ _ hpending] at he
    simp only [opened_of_nil hpending]
    apply ArenaBuilder.runOn_bind_of_refused
    have hroot : b.arena.root = b.root.map Node.id := by
      rw [arena, arenaWith, hpending]
      rfl
    rw [ArenaBuilder.runOn_refuseIf, hroot, Option.isSome_map]
    split at he
    · next hsome =>
      rw [if_pos hsome]
      exact congrArg (fun r => Except.ok (r, b.arena)) he
    · cases he
  · have hroom := requireRoom_mirrors hids hpending cell
    unfold Mirrors at hroom
    rw [he, requirePlace_onlyLooks] at hroom
    simp only [opened_of_cons hpending]
    rw [ArenaBuilder.runOn_bind_of_ok (ArenaBuilder.runOn_cellAt (cell_of_cons hids hpending))]
    exact ArenaBuilder.runOn_bind_of_refused hroom

theorem link_accepted {cell : Cell} (hroom : b.HasRoomAt cell.span.start) :
    ArenaBuilder.runOn (link cell) b.arena = .ok (.ok (), b.arenaWith (some b.nextId)) := by
  have hplace : runOn (requirePlace cell.label cell.span) b = (.ok (), b) :=
    requirePlace_ok_iff.mpr ⟨hroom, rfl⟩
  rw [link, ArenaBuilder.runOn_bind_of_ok ArenaBuilder.runOn_get]
  rcases hpending : b.pending with _ | ⟨parent, outer⟩
  · rw [HasRoomAt, hpending] at hroom
    have hroot : ¬ b.arena.root.isSome = true := by
      simp [arena, arenaWith, hpending, hroom]
    have hfree : ArenaBuilder.runOn (ArenaBuilder.refuseIf (b.arena.root.isSome = true)
        (.multipleRoots cell.label)) b.arena = .ok (.ok (), b.arena) := by
      rw [ArenaBuilder.runOn_refuseIf, if_neg hroot]
    simp only [opened_of_nil hpending]
    rw [ArenaBuilder.runOn_bind_of_ok hfree, ArenaBuilder.runOn_modify, size_cells_arena hids]
    simp [arena, arenaWith, entries, OpenNode.entries, hpending]
  · have hmirror := requireRoom_mirrors hids hpending cell
    unfold Mirrors at hmirror
    rw [hplace] at hmirror
    have hcell := cell_of_cons hids hpending
    simp only [opened_of_cons hpending]
    rw [ArenaBuilder.runOn_bind_of_ok (ArenaBuilder.runOn_cellAt hcell),
      ArenaBuilder.runOn_bind_of_ok hmirror, ArenaBuilder.runOn_modifyCell hcell,
      setIfInBounds_of_cons hids hpending, size_cells_arena hids]
    have hlinked : { parent.cell (outer.head?.map OpenNode.id) none with
        children := (parent.cell (outer.head?.map OpenNode.id) none).children ++ [b.nextId] } =
          parent.cell (outer.head?.map OpenNode.id) (some b.nextId) := by
      simp [OpenNode.cell]
    rw [hlinked, ← entries_of_cons hpending]
    simp [arena, arenaWith, hpending, List.getLast?_cons]

theorem attach_accepted {cell : Cell} (hroom : b.HasRoomAt cell.span.start) :
    ArenaBuilder.runOn (attach cell) b.arena = .ok (.ok b.nextId, b.arenaWithCell cell) := by
  rw [attach, ArenaBuilder.runOn_bind_of_ok ArenaBuilder.runOn_get,
    ArenaBuilder.runOn_bind_of_ok (link_accepted hids hroom),
    ArenaBuilder.runOn_bind_of_ok (ArenaBuilder.runOn_modify _), ArenaBuilder.runOn_pure,
    size_cells_arena hids, arenaWithCell, ← List.head?_map]
  rfl

theorem Mirrors.attach {cell : Cell} {f : Nat → ArenaBuilding Unit} {g : Unit → Building Unit}
    (hrest : b.HasRoomAt cell.span.start →
      ArenaBuilder.runOn (f b.nextId) (b.arenaWithCell cell) =
        .ok ((runOn (g ()) b).1, (runOn (g ()) b).2.arena)) :
    b.Mirrors (attach cell >>= f) (requirePlace cell.label cell.span >>= g) := by
  have hlook := requirePlace_onlyLooks cell.label cell.span b
  unfold Mirrors
  rw [runOn_bind]
  rcases hplace : runOn (requirePlace cell.label cell.span) b with ⟨e | u, next⟩
  · rw [hplace] at hlook
    dsimp only at hlook
    subst hlook
    have he := congrArg Prod.fst hplace
    have hrefused : ArenaBuilder.runOn (ArenaBuilder.attach cell) next.arena =
        .ok (.error e, next.arena) := by
      rw [ArenaBuilder.attach, ArenaBuilder.runOn_bind_of_ok ArenaBuilder.runOn_get]
      exact ArenaBuilder.runOn_bind_of_refused (link_refused hids he)
    exact ArenaBuilder.runOn_bind_of_refused hrefused
  · obtain ⟨hroom, rfl⟩ := requirePlace_ok_iff.mp hplace
    exact (ArenaBuilder.runOn_bind_of_ok (attach_accepted hids hroom)).trans (hrest hroom)

end Places

theorem arenaWithCell_start (name : String) (start : Nat) :
    { b.arenaWithCell ⟨name, false, none, [], Span.point start, 0, 0⟩ with
      opened := b.nextId :: (b.arenaWithCell
        ⟨name, false, none, [], Span.point start, 0, 0⟩).opened } =
      arena { b with
        nextId := b.nextId + 1, pending := ⟨b.nextId, name, start, []⟩ :: b.pending } := by
  have hroot : (b.pending.getLast?.map OpenNode.id).getD b.nextId =
      (b.pending.getLast?.getD ⟨b.nextId, name, start, []⟩).id := by
    cases b.pending.getLast? <;> rfl
  simp [arena, arenaWith, arenaWithCell, entries, OpenNode.entries, OpenNode.cell,
    List.getLast?_cons, hroot]

section Placing

variable (hroot : b.pending = [] → b.root = none)
include hroot

theorem entries_place (n : Node) :
    (b.place n).entries none =
      b.entries (some n.id) ++ n.entries b.text (b.pending.head?.map OpenNode.id) := by
  rcases hpending : b.pending with _ | ⟨parent, outer⟩
  · rw [place_of_nil hpending]
    simp [entries, OpenNode.entries, hpending, hroot hpending]
  · rw [place_of_cons hpending]
    simp [entries, OpenNode.entries, OpenNode.cell, hpending]

/-- A node that is placed gets its cells behind all others. -/
theorem arena_place (n : Node) :
    (b.place n).arena =
      { b.arenaWith (some n.id) with
        cells := ((b.entries (some n.id) ++
          n.entries b.text (b.pending.head?.map OpenNode.id)).map Prod.snd).toArray } := by
  rw [arena, arenaWith, entries_place hroot]
  rcases hpending : b.pending with _ | ⟨parent, outer⟩
  · rw [place_of_nil hpending]
    simp [arenaWith, hpending]
  · rw [place_of_cons hpending]
    simp only [arenaWith, hpending, List.getLast?_cons]
    cases outer.getLast? <;> rfl

theorem arenaWithCell_token (type : String) (start stop : Nat) :
    b.arenaWithCell
        ⟨type, true, none, [], ⟨start, stop⟩, b.text.boundary start, b.text.boundary (stop + 1)⟩ =
      (place (.token b.nextId type ⟨start, stop⟩) { b with nextId := b.nextId + 1 }).arena := by
  have hplace := arena_place (b := { b with nextId := b.nextId + 1 }) hroot
    (.token b.nextId type ⟨start, stop⟩)
  rw [hplace]
  simp [arenaWithCell, arenaWith, entries, Node.entries, Node.cell, Node.id, Node.label,
    Node.isToken, Node.children, Node.span, Node.start, Node.stop]

end Placing

variable {text : StatementText} (h : Coherent text b)
include h

theorem arena_closing {node : OpenNode} {outer : List OpenNode}
    (hpending : b.pending = node :: outer) (stop : Nat) :
    { b.arena with
      opened := outer.map OpenNode.id
      cells := b.arena.cells.setIfInBounds node.id
        { node.cell (outer.head?.map OpenNode.id) none with
          span := ⟨node.start, stop⟩
          first := b.text.boundary node.start
          last := b.text.boundary (stop + 1) } } =
      (place (.rule node.id node.name ⟨node.start, stop⟩ node.children)
        { b with pending := outer }).arena := by
  have hroot : b.root = none := h.wellPlaced.root_eq_none (by simp [hpending])
  rw [arena_place (b := { b with pending := outer }) fun _ => hroot,
    setIfInBounds_of_cons h.ids_eq hpending]
  simp [arena, arenaWith, entries, hpending, List.getLast?_cons, Node.entries_eq_cons, Node.cell,
    OpenNode.cell, Node.id, Node.label, Node.isToken, Node.children, Node.span, Node.start,
    Node.stop]

theorem startNode_mirrors (name : String) (start : Nat) :
    b.Mirrors (ArenaBuilder.startNode name start) (startNode name start) := by
  apply Mirrors.bind (requireOffset_onlyLooks start) (requireOffset_mirrors b start)
  intro _
  apply Mirrors.attach h.ids_eq
  intro _
  rw [ArenaBuilder.runOn_modify, runOn_modify]
  exact congrArg (fun a => Except.ok (Except.ok (), a)) (arenaWithCell_start name start)

variable (hsize : b.text.length < UInt64.size)
include hsize

theorem addToken_mirrors (type : String) (start stop : Nat) :
    b.Mirrors (ArenaBuilder.addToken type start stop) (addToken type start stop) := by
  apply Mirrors.bind (requireOffset_onlyLooks start) (requireOffset_mirrors b start)
  intro _
  apply Mirrors.bind (requireOffset_onlyLooks stop) (requireOffset_mirrors b stop)
  intro hstop
  apply Mirrors.bind (requireOrder_onlyLooks type start stop)
    (requireOrder_mirrors b type start stop)
  intro horder
  have hstop : stop < b.text.length := (requireOffset_ok_iff.mp hstop).1
  have horder : start ≤ stop := (requireOrder_ok_iff.mp horder).1
  apply Mirrors.of_runOn (ArenaBuilder.runOn_bytesOf horder hstop hsize)
  apply Mirrors.attach h.ids_eq
  intro hroom
  have hroot : b.pending = [] → b.root = none := by
    intro hpending
    rwa [HasRoomAt, hpending] at hroom
  rw [ArenaBuilder.runOn_pure, runOn_modify]
  exact congrArg (fun a => Except.ok (Except.ok (), a)) (arenaWithCell_token hroot type start stop)

theorem finishNode_mirrors (stop : Nat) :
    b.Mirrors (ArenaBuilder.finishNode stop) (finishNode stop) := by
  unfold Mirrors
  rw [ArenaBuilder.finishNode, finishNode, runOn_bind]
  rw [ArenaBuilder.runOn_bind_of_ok ArenaBuilder.runOn_get]
  rcases hpending : b.pending with _ | ⟨node, outer⟩
  · simp only [opened_of_nil hpending, runOn_get, hpending]
    rfl
  simp only [opened_of_cons hpending, runOn_get, hpending]
  change b.Mirrors _ _
  apply Mirrors.bind (requireOffset_onlyLooks stop) (requireOffset_mirrors b stop)
  intro hstop
  have hstop : stop < b.text.length := (requireOffset_ok_iff.mp hstop).1
  have hcell := cell_of_cons h.ids_eq hpending
  apply Mirrors.of_runOn (ArenaBuilder.runOn_cellAt hcell)
  apply Mirrors.bind (requireOrder_onlyLooks node.name node.start stop)
    (requireOrder_mirrors b node.name node.start stop)
  intro horder
  have horder : node.start ≤ stop := (requireOrder_ok_iff.mp horder).1
  apply Mirrors.of_runOn (runOn_firstBeyond?_children h.ids_eq hpending stop)
  cases node.children.find? fun child => stop < child.stop with
  | some child => rfl
  | none =>
      -- Nothing is refused any more: the node is closed, and only its own cell is rewritten.
      unfold Mirrors
      simp only [Option.map_none]
      have hbytes : ArenaBuilder.runOn (ArenaBuilder.bytesOf node.start stop)
          { b.arena with opened := outer.map OpenNode.id } =
            .ok (.ok (b.text.boundary node.start, b.text.boundary (stop + 1)),
              { b.arena with opened := outer.map OpenNode.id }) :=
        ArenaBuilder.runOn_bytesOf horder hstop hsize
      rw [ArenaBuilder.runOn_bind_of_ok (ArenaBuilder.runOn_modify _), runOn_modify]
      refine (ArenaBuilder.runOn_bind_of_ok hbytes).trans ?_
      have hopened : { b.arena with opened := outer.map OpenNode.id }.cells[node.id]? =
          some (node.cell (outer.head?.map OpenNode.id) none) := hcell
      refine (ArenaBuilder.runOn_modifyCell hopened _).trans ?_
      exact congrArg (fun a => Except.ok (Except.ok (), a)) (arena_closing h hpending stop)

theorem step_arena (s : Step) : b.arena.step s = .ok ((b.step s).1, (b.step s).2.arena) := by
  cases s with
  | start name offset => exact startNode_mirrors h name offset
  | token type start stop => exact addToken_mirrors h hsize type start stop
  | finish stop => exact finishNode_mirrors h hsize stop

/-- A builder and its layout give the same outcomes step by step, and no step has a fault. -/
theorem run_arena (steps : List Step) :
    b.arena.run steps = .ok ((b.run steps).1, (b.run steps).2.arena) := by
  induction steps generalizing b with
  | nil => rfl
  | cons s rest ih =>
      have hnext : Coherent text (b.step s).2 := run_induction Coherent.of_accepts [s] h
      rw [ArenaBuilder.run, step_arena h hsize]
      change ((b.step s).2.arena.run rest >>= _) = _
      rw [ih hnext (by rwa [hnext.text_eq, ← h.text_eq])]
      rfl

end Builder

end StatementSegments
