import Mathlib.Order.Monotone.Defs
import StatementSegments.Proofs.AcceptedRuns
import StatementSegments.Proofs.CarriedSelections
import StatementSegments.Proofs.SelectedParts

/-!
Trees moved within a text. A builder compares offsets with each other and with the length of its
text only, so the steps of a tree can be made again under any map that keeps the order of offsets;
and what is moved together with its text has the texts it had.
-/
namespace StatementSegments

section Moved

variable (g : Nat → Nat)

namespace Node

mutual

def mapOffsets : Node → Node
  | token id type span => token id type (span.mapOffsets g)
  | rule id name span children => rule id name (span.mapOffsets g) (mapAllOffsets children)

def mapAllOffsets : List Node → List Node
  | [] => []
  | n :: rest => n.mapOffsets :: mapAllOffsets rest

end

theorem mapAllOffsets_eq_map (ns : List Node) : mapAllOffsets g ns = ns.map (·.mapOffsets g) := by
  induction ns with
  | nil => rfl
  | cons n ns ih => rw [mapAllOffsets, ih, List.map_cons]

theorem children_mapOffsets (n : Node) :
    (n.mapOffsets g).children = n.children.map (·.mapOffsets g) := by
  cases n with
  | token id type span => rfl
  | rule id name span children => exact mapAllOffsets_eq_map g children

@[simp]
theorem span_mapOffsets (n : Node) : (n.mapOffsets g).span = n.span.mapOffsets g := by
  cases n <;> rfl

@[simp]
theorem label_mapOffsets (n : Node) : (n.mapOffsets g).label = n.label := by
  cases n <;> rfl

theorem keepsShape_mapOffsets : KeepsShape (mapOffsets g) where
  id n := by cases n <;> rfl
  isToken n := by cases n <;> rfl
  label n _ := n.label_mapOffsets g
  isPercent n := by cases n <;> rfl
  children := children_mapOffsets g

end Node

def Step.mapOffsets : Step → Step
  | start name offset => start name (g offset)
  | token type first last => token type (g first) (g last)
  | finish stop => finish (g stop)

def OpenNode.mapOffsets (o : OpenNode) : OpenNode :=
  { o with start := g o.start, children := o.children.map (·.mapOffsets g) }

/-- What a builder has so far, over another text. -/
def Builder.mapOffsets (text : StatementText) (b : Builder) : Builder where
  text := text
  nextId := b.nextId
  pending := b.pending.map (·.mapOffsets g)
  root := b.root.map (·.mapOffsets g)

end Moved

namespace Builder

variable {g : Nat → Nat} {text : StatementText} {b b' : Builder} {s : Step}

theorem pending_mapOffsets_of_cons {o : OpenNode} {outer : List OpenNode}
    (h : b.pending = o :: outer) :
    (b.mapOffsets g text).pending = o.mapOffsets g :: outer.map (·.mapOffsets g) := by
  rw [mapOffsets, h, List.map_cons]

theorem place_mapOffsets (n : Node) :
    (b.place n).mapOffsets g text = (b.mapOffsets g text).place (n.mapOffsets g) := by
  rcases hpending : b.pending with _ | ⟨parent, outer⟩
  · have hmoved : (b.mapOffsets g text).pending = [] := by rw [mapOffsets, hpending, List.map_nil]
    rw [place_of_nil hpending, place_of_nil hmoved]
    rfl
  · rw [place_of_cons hpending, place_of_cons (pending_mapOffsets_of_cons hpending)]
    simp [mapOffsets, OpenNode.mapOffsets]

variable (hg : StrictMono g) (hlength : ∀ offset < b.text.length, g offset < text.length)
include hg

theorem HasRoomAt.mapOffsets {start : Nat} (h : b.HasRoomAt start) :
    (b.mapOffsets g text).HasRoomAt (g start) := by
  unfold HasRoomAt at h ⊢
  rcases hpending : b.pending with _ | ⟨parent, outer⟩
  · rw [hpending] at h
    simp [Builder.mapOffsets, hpending, h]
  · rw [hpending] at h
    simp only [pending_mapOffsets_of_cons hpending, OpenNode.mapOffsets, List.getLast?_map]
    refine ⟨hg.monotone h.1, ?_⟩
    intro previous hprevious
    obtain ⟨last, hlast, rfl⟩ := Option.map_eq_some_iff.mp hprevious
    rw [Node.stop, Node.span_mapOffsets]
    exact hg (h.2 last hlast)

include hlength

theorem Accepts.mapOffsets (h : Accepts b s b') :
    Accepts (b.mapOffsets g text) (s.mapOffsets g) (b'.mapOffsets g text) := by
  cases h with
  | start hoffset hroom => exact .start (hlength _ hoffset) (hroom.mapOffsets hg)
  | token hstop horder hroom =>
      rw [place_mapOffsets]
      exact .token (hlength _ hstop) (hg.monotone horder) (hroom.mapOffsets hg)
  | @finish node outer stop hpending hstop horder hwithin =>
      rw [place_mapOffsets, Node.mapOffsets, Node.mapAllOffsets_eq_map]
      refine .finish (pending_mapOffsets_of_cons hpending) (hlength _ hstop) (hg.monotone horder) ?_
      intro c hc
      obtain ⟨d, hd, rfl⟩ := List.mem_map.mp hc
      rw [Node.stop, Node.span_mapOffsets]
      exact hg.monotone (hwithin d hd)

theorem AcceptsAll.mapOffsets {steps : List Step} (h : AcceptsAll b steps b') :
    AcceptsAll (b.mapOffsets g text) (steps.map (·.mapOffsets g)) (b'.mapOffsets g text) := by
  induction h with
  | nil b => exact .nil _
  | @cons b next last s rest hstep hrest ih =>
      refine .cons (hstep.mapOffsets hg hlength) (ih ?_)
      rw [text_of_accepts hstep]
      exact hlength

end Builder

theorem StatementText.part_append {pre text post : String} {start stop : Nat}
    (horder : start ≤ stop) (hstop : stop < text.length) :
    (ofString (pre ++ text ++ post)).part (start + pre.length) (stop + pre.length) =
      (ofString text).part start stop := by
  rw [← String.length_toList] at hstop
  have hbehind : start + pre.length = pre.toList.length + start := by
    rw [String.length_toList, Nat.add_comm]
  have hcount : stop + pre.length + 1 - (start + pre.length) = stop + 1 - start := by omega
  rw [← String.toList_inj, toList_part, toList_part]
  simp only [ofString, String.toList_append, List.append_assoc, List.extract_eq_take_drop]
  rw [hcount, hbehind, List.drop_length_add_append,
    List.drop_append_of_le_length (by omega), List.take_append_of_le_length]
  rw [List.length_drop]
  omega

namespace ParseTree

variable {text : String} {steps : List Step} {tree : ParseTree}

theorem finish_of_ofSteps (h : ofSteps text steps = .ok tree) :
    ((Builder.ofText text).run steps).2.finish = .ok tree := by
  obtain ⟨last, haccepts, hfinish⟩ := Builder.build_eq_ok_iff.mp h
  rw [haccepts.run_eq]
  exact hfinish

theorem isBuilt_of_ofSteps (h : ofSteps text steps = .ok tree) : tree.IsBuilt :=
  ⟨text, steps, finish_of_ofSteps h⟩

theorem text_eq_of_ofSteps (h : ofSteps text steps = .ok tree) :
    tree.text = StatementText.ofString text :=
  text_eq_of_finish (finish_of_ofSteps h)

/-- The tree behind and before other texts. -/
def between (pre post : String) (tree : ParseTree) : ParseTree where
  text := StatementText.ofString (pre ++ tree.text.content ++ post)
  root := tree.root.mapOffsets (· + pre.length)

theorem ofSteps_between (h : ofSteps text steps = .ok tree) (pre post : String) :
    ofSteps (pre ++ text ++ post) (steps.map (·.mapOffsets (· + pre.length))) =
      .ok (tree.between pre post) := by
  obtain ⟨last, haccepts, hfinish⟩ := Builder.build_eq_ok_iff.mp h
  obtain ⟨-, hpending, hroot⟩ := Builder.finish_ok_iff.mp hfinish
  have htext := text_eq_of_ofSteps h
  refine Builder.build_eq_ok_iff.mpr
    ⟨last.mapOffsets (· + pre.length) (StatementText.ofString (pre ++ text ++ post)), ?_, ?_⟩
  · refine haccepts.mapOffsets (fun a b hab => Nat.add_lt_add_right hab _) ?_
    intro offset hoffset
    rw [StatementText.length_eq] at hoffset ⊢
    simp only [Builder.ofText, StatementText.ofString, String.length_append] at hoffset ⊢
    omega
  · rw [Builder.finish_ok_iff]
    simp [Builder.mapOffsets, between, hpending, hroot, htext, StatementText.ofString]

theorem textOf_between (h : ofSteps text steps = .ok tree) (pre post : String) {n : Node}
    (hn : n ∈ tree.nodes) :
    (tree.between pre post).textOf (n.mapOffsets (· + pre.length)) = tree.textOf n := by
  have hbuilt := isBuilt_of_ofSteps h
  have hmoved := isBuilt_of_ofSteps (ofSteps_between h pre post)
  have hmem : n.mapOffsets (· + pre.length) ∈ (tree.between pre post).nodes := by
    rw [nodes_of_keepsShape (Node.keepsShape_mapOffsets (· + pre.length)) rfl]
    exact List.mem_map_of_mem hn
  have hfits := hbuilt.nested n hn
  have hstop := hfits.stop_lt
  rw [text_eq_of_ofSteps h, StatementText.length_eq] at hstop
  rw [hmoved.textOf_eq_part hmem, hbuilt.textOf_eq_part hn, Node.start, Node.stop,
    Node.span_mapOffsets, text_eq_of_ofSteps h]
  dsimp only [between]
  rw [text_eq_of_ofSteps h]
  exact StatementText.part_append hfits.start_le_stop hstop

theorem isImage_between (h : ofSteps text steps = .ok tree) (pre post : String)
    (markers : MarkerNumbering) :
    Statement.IsImage (Node.mapOffsets (· + pre.length)) (· + pre.length) ⟨tree, markers⟩
      ⟨tree.between pre post, markers⟩ where
  keepsShape := Node.keepsShape_mapOffsets (· + pre.length)
  root := rfl
  span n := n.span_mapOffsets (· + pre.length)
  textOf _ hn := textOf_between h pre post hn
  number? _ _ _ := rfl

end ParseTree

/-- Steps build the same tree behind and before any other texts, and the same is extracted from it,
but for moved offsets. -/
theorem ofSteps_moved {text : String} {steps : List Step} {tree : ParseTree}
    (h : ParseTree.ofSteps text steps = .ok tree) (pre post : String) :
    ∃ moved,
      ParseTree.ofSteps (pre ++ text ++ post) (steps.map (·.mapOffsets (· + pre.length))) =
        .ok moved ∧
      List.Forall₂ (fun n m =>
        m.id = n.id ∧ m.isToken = n.isToken ∧ m.label = n.label ∧
        m.span = ⟨n.start + pre.length, n.stop + pre.length⟩ ∧
        m.children.map Node.id = n.children.map Node.id ∧
        (moved.parent? m.id).map Node.id = (tree.parent? n.id).map Node.id ∧
        moved.textOf m = tree.textOf n) tree.nodes moved.nodes ∧
      MarkerNumbering.ofNode moved.root = .ofNode tree.root ∧
      ∀ dialect markers,
        (Statement.select dialect ⟨moved, markers⟩).outcome =
          ((Statement.select dialect ⟨tree, markers⟩).outcome.map
            (Select.mapOffsets (· + pre.length))).mapError
              (ExtractionError.mapOffsets (· + pre.length)) := by
  have hshape := Node.keepsShape_mapOffsets (· + pre.length)
  have hroot : (tree.between pre post).root = tree.root.mapOffsets (· + pre.length) := rfl
  refine ⟨tree.between pre post, ParseTree.ofSteps_between h pre post, ?_, ?_, ?_⟩
  · rw [ParseTree.nodes_of_keepsShape hshape hroot, List.forall₂_map_right_iff, List.forall₂_same]
    intro n hn
    refine ⟨hshape.id n, hshape.isToken n, n.label_mapOffsets _, n.span_mapOffsets _, ?_, ?_,
      ParseTree.textOf_between h pre post hn⟩
    · rw [hshape.children, List.map_map]
      exact List.map_congr_left fun c _ => hshape.id c
    · rw [hshape.id, ParseTree.parent?_of_keepsShape hshape hroot, Option.map_map]
      congr 1
      exact funext hshape.id
  · exact MarkerNumbering.ofNode_keepsShape hshape tree.root
  · intro dialect markers
    exact (ParseTree.isImage_between h pre post markers).select dialect

theorem ofSteps_ordersTree :
    ParseTree.ofSteps "SELECT o.c, d FROM orders o, u LIMIT ?" ordersTree.root.steps =
      .ok ordersTree := by
  rfl

/-- The statement is moved by three characters, one of which has three bytes. -/
theorem ordersTree_moved :
    ParseTree.ofSteps "SELECT o.c, d FROM orders o, u LIMIT ?" ordersTree.root.steps =
        .ok ordersTree ∧
      ∃ moved,
        ParseTree.ofSteps "(列 SELECT o.c, d FROM orders o, u LIMIT ?)"
          (ordersTree.root.steps.map (·.mapOffsets (· + 3))) = .ok moved ∧
        (Statement.select .mySql ⟨moved, ⟨[(22, 7)]⟩⟩).outcome =
          .ok (ordersSelect.mapOffsets (· + 3)) ∧
        (ordersSelect.mapOffsets (· + 3)).columns =
          [⟨⟨10, 12⟩, "c", some "o", some ⟨"orders", 22⟩⟩, ⟨⟨15, 15⟩, "d", none, none⟩] := by
  obtain ⟨moved, hsteps, -, -, hselect⟩ := ofSteps_moved ofSteps_ordersTree "(列 " ")"
  refine ⟨ofSteps_ordersTree, moved, hsteps, ?_, rfl⟩
  rw [hselect, select_ordersTree]
  rfl

end StatementSegments
