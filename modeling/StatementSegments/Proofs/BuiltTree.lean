import StatementSegments.Proofs.AcceptedSteps
import StatementSegments.Proofs.SpanNesting

/-!
Trees that a builder gives. While nodes are open, what they hold already lies in their order in the
text, and all nodes are numbered in the order in which they come in the tree that is being built;
so the finished tree is well formed.
-/
namespace StatementSegments

namespace OpenNode

/-- The node starts no later than an offset, and all that it holds lies before that offset. -/
def IsBefore (o : OpenNode) (start : Nat) : Prop :=
  o.start ≤ start ∧ ∀ c ∈ o.children, c.stop < start

theorem IsBefore.mono {o : OpenNode} {start later : Nat} (h : o.IsBefore start)
    (hle : start ≤ later) : o.IsBefore later :=
  ⟨Nat.le_trans h.1 hle, fun c hc => Nat.lt_of_lt_of_le (h.2 c hc) hle⟩

/-- The node covers characters once it is closed behind all that it holds. -/
structure Fits (length : Nat) (o : OpenNode) : Prop where
  start_lt : o.start < length
  nested : ∀ c ∈ o.children, c.Nested length
  start_le : ∀ c ∈ o.children, o.start ≤ c.start
  follows : o.children.Pairwise fun a b => a.stop < b.start

theorem Fits.isBefore {length start : Nat} {o : OpenNode} (h : o.Fits length)
    (hstart : o.start ≤ start) (hlast : ∀ last ∈ o.children.getLast?, last.stop < start) :
    o.IsBefore start := by
  refine ⟨hstart, fun c hc => ?_⟩
  rcases List.eq_nil_or_concat' o.children with hnil | ⟨init, last, hchildren⟩
  · rw [hnil] at hc
    cases hc
  have hfollows := h.follows
  rw [hchildren, List.pairwise_append] at hfollows
  have hstop : last.stop < start := hlast last (by simp [hchildren])
  have horder : last.start ≤ last.stop := (h.nested last (by simp [hchildren])).fits.start_le_stop
  rw [hchildren, List.mem_append, List.mem_singleton] at hc
  rcases hc with hc | rfl
  · have hbehind : c.stop < last.start := hfollows.2.2 c hc last (List.mem_singleton_self last)
    omega
  · exact hstop

theorem Fits.nested_rule {length stop : Nat} {o : OpenNode} (h : o.Fits length)
    (horder : o.start ≤ stop) (hstop : stop < length) (hwithin : ∀ c ∈ o.children, c.stop ≤ stop) :
    (Node.rule o.id o.name ⟨o.start, stop⟩ o.children).Nested length := by
  rw [Node.nested_iff]
  refine ⟨⟨horder, hstop, ?_, h.follows⟩, h.nested⟩
  intro c hc
  exact ⟨h.start_le c hc, hwithin c hc⟩

theorem Fits.add_child {length : Nat} {o : OpenNode} {n : Node} (h : o.Fits length)
    (hnode : n.Nested length) (hbefore : o.IsBefore n.start) :
    OpenNode.Fits length { o with children := o.children ++ [n] } where
  start_lt := h.start_lt
  nested c hc := by
    rcases List.mem_append.mp hc with hc | hc
    · exact h.nested c hc
    · exact List.mem_singleton.mp hc ▸ hnode
  start_le c hc := by
    rcases List.mem_append.mp hc with hc | hc
    · exact h.start_le c hc
    · exact List.mem_singleton.mp hc ▸ hbefore.1
  follows := by
    rw [List.pairwise_append]
    refine ⟨h.follows, List.pairwise_singleton _ _, ?_⟩
    intro a ha b hb
    exact List.mem_singleton.mp hb ▸ hbefore.2 a ha

end OpenNode

namespace Builder

/-- The innermost open node lies before an offset; if none is open, there is no root yet. -/
def IsBefore (b : Builder) (start : Nat) : Prop :=
  match b.pending with
  | parent :: _ => parent.IsBefore start
  | [] => b.root = none

/-- What lies in the text so far lies there in order. -/
structure WellPlaced (b : Builder) : Prop where
  root_eq_none : b.pending ≠ [] → b.root = none
  fits : ∀ o ∈ b.pending, o.Fits b.text.length
  nested : b.pending.Pairwise fun inner outer => outer.IsBefore inner.start
  root : ∀ r ∈ b.root, r.Nested b.text.length

variable {b b' : Builder} {s : Step}

theorem wellPlaced_ofText (text : String) : (ofText text).WellPlaced where
  root_eq_none _ := rfl
  fits := by simp [ofText]
  nested := by simp [ofText]
  root := by simp [ofText]

theorem WellPlaced.isBefore (h : b.WellPlaced) {start : Nat} (hroom : b.HasRoomAt start) :
    b.IsBefore start := by
  unfold HasRoomAt at hroom
  unfold IsBefore
  rcases hpending : b.pending with _ | ⟨parent, outer⟩
  · rw [hpending] at hroom
    exact hroom
  · rw [hpending] at hroom
    exact (h.fits parent (by simp [hpending])).isBefore hroom.1 hroom.2

theorem place_of_nil {n : Node} (h : b.pending = []) : b.place n = { b with root := some n } := by
  rw [place, h]

theorem place_of_cons {n : Node} {parent : OpenNode} {outer : List OpenNode}
    (h : b.pending = parent :: outer) :
    b.place n =
      { b with pending := { parent with children := parent.children ++ [n] } :: outer } := by
  rw [place, h]

theorem place_text (n : Node) : (b.place n).text = b.text := by
  unfold place
  split <;> rfl

theorem place_nextId (n : Node) : (b.place n).nextId = b.nextId := by
  unfold place
  split <;> rfl

theorem text_of_accepts (hstep : Accepts b s b') : b'.text = b.text := by
  cases hstep with
  | start hoffset hroom => rfl
  | token hstop horder hroom => exact place_text _
  | finish hpending hstop horder hwithin => exact place_text _

theorem WellPlaced.place (h : b.WellPlaced) {n : Node} (hnode : n.Nested b.text.length)
    (hbefore : b.IsBefore n.start) : (b.place n).WellPlaced := by
  unfold IsBefore at hbefore
  rcases hpending : b.pending with _ | ⟨parent, outer⟩
  · rw [place_of_nil hpending]
    refine ⟨fun hne => absurd hpending hne, h.fits, h.nested, ?_⟩
    rintro r ⟨⟩
    exact hnode
  · rw [hpending] at hbefore
    have hfits := h.fits
    have hnested := h.nested
    rw [hpending, List.forall_mem_cons] at hfits
    rw [hpending, List.pairwise_cons] at hnested
    rw [place_of_cons hpending]
    refine ⟨fun _ => h.root_eq_none (by simp [hpending]), ?_, ?_, h.root⟩
    · exact List.forall_mem_cons.mpr ⟨hfits.1.add_child hnode hbefore, hfits.2⟩
    · exact List.pairwise_cons.mpr hnested

theorem WellPlaced.outer (h : b.WellPlaced) {node : OpenNode} {outer : List OpenNode}
    (hpending : b.pending = node :: outer) :
    ({ b with pending := outer } : Builder).WellPlaced ∧
      ({ b with pending := outer } : Builder).IsBefore node.start := by
  have hroot : b.root = none := h.root_eq_none (by simp [hpending])
  have hfits := h.fits
  have hnested := h.nested
  rw [hpending, List.forall_mem_cons] at hfits
  rw [hpending, List.pairwise_cons] at hnested
  refine ⟨⟨fun _ => hroot, hfits.2, hnested.2, h.root⟩, ?_⟩
  cases outer with
  | nil => exact hroot
  | cons parent outer => exact hnested.1 parent List.mem_cons_self

theorem WellPlaced.pending_isBefore (h : b.WellPlaced) {start : Nat} (hbefore : b.IsBefore start) :
    b.root = none ∧ ∀ o ∈ b.pending, o.IsBefore start := by
  unfold IsBefore at hbefore
  rcases hpending : b.pending with _ | ⟨parent, outer⟩
  · rw [hpending] at hbefore
    exact ⟨hbefore, List.forall_mem_nil _⟩
  · rw [hpending] at hbefore
    have hnested := h.nested
    rw [hpending, List.pairwise_cons] at hnested
    refine ⟨h.root_eq_none (by simp [hpending]), List.forall_mem_cons.mpr ⟨hbefore, ?_⟩⟩
    intro o ho
    exact (hnested.1 o ho).mono hbefore.1

theorem WellPlaced.startNode (h : b.WellPlaced) {name : String} {offset : Nat}
    (hoffset : offset < b.text.length) (hbefore : b.IsBefore offset) :
    ({ b with nextId := b.nextId + 1, pending := ⟨b.nextId, name, offset, []⟩ :: b.pending } :
      Builder).WellPlaced := by
  obtain ⟨hroot, hpending⟩ := h.pending_isBefore hbefore
  have hnew : OpenNode.Fits b.text.length ⟨b.nextId, name, offset, []⟩ :=
    ⟨hoffset, List.forall_mem_nil _, List.forall_mem_nil _, List.Pairwise.nil⟩
  exact ⟨fun _ => hroot, List.forall_mem_cons.mpr ⟨hnew, h.fits⟩,
    List.pairwise_cons.mpr ⟨hpending, h.nested⟩, h.root⟩

theorem WellPlaced.of_accepts (h : b.WellPlaced) (hstep : Accepts b s b') : b'.WellPlaced := by
  cases hstep with
  | start hoffset hroom => exact h.startNode hoffset (h.isBefore hroom)
  | @token type start stop hstop horder hroom =>
      have htoken : (Node.token b.nextId type ⟨start, stop⟩).Nested b.text.length :=
        Node.nested_token horder hstop
      have hnext : ({ b with nextId := b.nextId + 1 } : Builder).WellPlaced :=
        ⟨h.root_eq_none, h.fits, h.nested, h.root⟩
      exact hnext.place htoken (h.isBefore hroom)
  | finish hpending hstop horder hwithin =>
      obtain ⟨houter, hbefore⟩ := h.outer hpending
      have hfits := h.fits _ (hpending ▸ List.mem_cons_self)
      exact houter.place (hfits.nested_rule horder hstop hwithin) hbefore

/-- The numbers of the nodes in the tree so far, every node before the nodes below it. -/
def ids (b : Builder) : List Nat :=
  (b.root.toList.flatMap Node.nodes).map Node.id ++
    b.pending.reverse.flatMap fun o => o.id :: (o.children.flatMap Node.nodes).map Node.id

theorem ids_place {n : Node} (hroot : b.pending = [] → b.root = none) :
    (b.place n).ids = b.ids ++ n.nodes.map Node.id := by
  rcases hpending : b.pending with _ | ⟨parent, outer⟩
  · rw [place_of_nil hpending]
    simp [ids, hpending, hroot hpending]
  · rw [place_of_cons hpending]
    simp [ids, hpending]

theorem ids_finish {node : OpenNode} {outer : List OpenNode} {span : Span}
    (hpending : b.pending = node :: outer) (hroot : outer = [] → b.root = none) :
    (({ b with pending := outer } : Builder).place
      (.rule node.id node.name span node.children)).ids = b.ids := by
  rw [ids_place hroot]
  simp [ids, hpending, Node.nodes_eq_cons, Node.id, Node.children]

theorem ids_eq_range_of_accepts (hplaced : b.WellPlaced) (h : b.ids = List.range b.nextId)
    (hstep : Accepts b s b') : b'.ids = List.range b'.nextId := by
  cases hstep with
  | start hoffset hroom =>
      rw [List.range_succ, ← h]
      simp [ids]
  | token hstop horder hroom =>
      obtain ⟨hroot, -⟩ := hplaced.pending_isBefore (hplaced.isBefore hroom)
      rw [place_nextId, List.range_succ, ← h]
      exact ids_place fun _ => hroot
  | finish hpending hstop horder hwithin =>
      have hroot : b.root = none := hplaced.root_eq_none (by simp [hpending])
      rw [ids_finish hpending fun _ => hroot, place_nextId, h]

/-- The invariant of building. -/
structure Coherent (text : StatementText) (b : Builder) : Prop where
  text_eq : b.text = text
  wellPlaced : b.WellPlaced
  ids_eq : b.ids = List.range b.nextId

theorem Coherent.of_accepts {text : StatementText} (h : Coherent text b)
    (hstep : Accepts b s b') : Coherent text b' where
  text_eq := (text_of_accepts hstep).trans h.text_eq
  wellPlaced := h.wellPlaced.of_accepts hstep
  ids_eq := ids_eq_range_of_accepts h.wellPlaced h.ids_eq hstep

theorem coherent_ofText (text : String) : Coherent (StatementText.ofString text) (ofText text) :=
  ⟨rfl, wellPlaced_ofText text, rfl⟩

theorem coherent_run (text : String) (steps : List Step) :
    Coherent (StatementText.ofString text) ((ofText text).run steps).2 :=
  run_induction Coherent.of_accepts steps (coherent_ofText text)

theorem finish_ok_iff {tree : ParseTree} :
    b.finish = .ok tree ↔ b.text = tree.text ∧ b.pending = [] ∧ b.root = some tree.root := by
  rcases tree with ⟨text, root⟩
  rcases b with ⟨text', nextId, _ | ⟨o, outer⟩, _ | root'⟩ <;> simp [finish]

end Builder

namespace ParseTree

/-- A builder over some text gives the tree after some steps, of which any may have been refused. -/
def IsBuilt (tree : ParseTree) : Prop :=
  ∃ text steps, ((Builder.ofText text).run steps).2.finish = .ok tree

variable {tree : ParseTree}

theorem text_eq_of_finish {text : String} {steps : List Step}
    (h : ((Builder.ofText text).run steps).2.finish = .ok tree) :
    tree.text = StatementText.ofString text := by
  rw [← (Builder.finish_ok_iff.mp h).1]
  exact (Builder.coherent_run text steps).text_eq

namespace IsBuilt

theorem nested (h : tree.IsBuilt) : tree.root.Nested tree.text.length := by
  obtain ⟨text, steps, h⟩ := h
  obtain ⟨htext, -, hroot⟩ := Builder.finish_ok_iff.mp h
  exact htext ▸ (Builder.coherent_run text steps).wellPlaced.root tree.root hroot

/-- Nodes are numbered in the order in which they come. -/
theorem ids_eq_range (h : tree.IsBuilt) : tree.nodes.map Node.id = List.range tree.size := by
  obtain ⟨text, steps, h⟩ := h
  obtain ⟨-, hpending, hroot⟩ := Builder.finish_ok_iff.mp h
  have hids := (Builder.coherent_run text steps).ids_eq
  have hnodes : tree.nodes.map Node.id =
      List.range ((Builder.ofText text).run steps).2.nextId := by
    simpa [Builder.ids, hpending, hroot, nodes] using hids
  have hsize : tree.size = ((Builder.ofText text).run steps).2.nextId := by
    simpa [size] using congrArg List.length hnodes
  rw [hsize, hnodes]

theorem ids_pairwise (h : tree.IsBuilt) : tree.nodes.Pairwise fun a b => a.id < b.id := by
  have hrange := List.pairwise_lt_range (n := tree.size)
  rwa [← h.ids_eq_range, List.pairwise_map] at hrange

theorem ids_nodup (h : tree.IsBuilt) : (tree.nodes.map Node.id).Nodup := by
  rw [h.ids_eq_range]
  exact List.nodup_range

theorem root_id (h : tree.IsBuilt) : tree.root.id = 0 := by
  have hids := h.ids_eq_range
  rw [size, nodes, Node.nodes_eq_cons, List.map_cons, List.length_cons,
    List.range_succ_eq_map] at hids
  exact (List.cons.inj hids).1

theorem children_ids_pairwise (h : tree.IsBuilt) {n : Node} (hn : n ∈ tree.nodes) :
    (n :: n.children).Pairwise fun a b => a.id < b.id :=
  h.ids_pairwise.sublist ((Node.cons_children_sublist n).trans (Node.nodes_isInfix hn).sublist)

end IsBuilt

/-- What is promised of a tree. Numbers are those of look-ups and follow the order of the tree;
spans lie in the text, in the spans of their parents and one behind the other. -/
structure WellFormed (tree : ParseTree) : Prop where
  ids : tree.nodes.map Node.id = List.range tree.size
  node : ∀ id n, tree.node? id = some n ↔ n ∈ tree.nodes ∧ n.id = id
  root : tree.node? 0 = some tree.root
  parent_root : tree.parent? 0 = none
  parent : ∀ n ∈ tree.nodes, n.id ≠ 0 →
    ∃ p ∈ tree.nodes, tree.parent? n.id = some p ∧ p.id < n.id ∧ p.isToken = false ∧
      (p.children.map Node.id).count n.id = 1
  child : ∀ n ∈ tree.nodes, ∀ c ∈ n.children,
    tree.node? c.id = some c ∧ tree.parent? c.id = some n
  children : ∀ n ∈ tree.nodes, (n.children.map Node.id).Pairwise (· < ·)
  token : ∀ n ∈ tree.nodes, n.isToken = true → n.children = []
  span : ∀ n ∈ tree.nodes, n.start ≤ n.stop ∧ n.stop < tree.text.content.length
  encloses : ∀ n ∈ tree.nodes, ∀ c ∈ n.children, n.span.Encloses c.span
  siblings : ∀ n ∈ tree.nodes, n.children.Pairwise fun a b => a.stop < b.start

namespace IsBuilt

theorem parent?_root (h : tree.IsBuilt) : tree.parent? 0 = none := by
  rw [Option.eq_none_iff_forall_ne_some]
  intro p hp
  obtain ⟨hmem, c, hc, hid⟩ := (parent?_eq_some_iff h.ids_nodup).mp hp
  exact Node.root_id_ne h.ids_nodup hmem hc (hid.trans h.root_id.symm)

theorem parent?_child (h : tree.IsBuilt) {n c : Node} (hn : n ∈ tree.nodes)
    (hc : c ∈ n.children) : tree.parent? c.id = some n :=
  (parent?_eq_some_iff h.ids_nodup).mpr ⟨hn, c, hc, rfl⟩

theorem exists_parent (h : tree.IsBuilt) {n : Node} (hn : n ∈ tree.nodes) (hid : n.id ≠ 0) :
    ∃ p ∈ tree.nodes, n ∈ p.children ∧ tree.parent? n.id = some p := by
  have hne : n ≠ tree.root := by
    rintro rfl
    exact hid h.root_id
  obtain ⟨p, hp, hchild⟩ := Node.exists_parent hn hne
  exact ⟨p, hp, hchild, h.parent?_child hp hchild⟩

theorem count_child_id (h : tree.IsBuilt) {n c : Node} (hn : n ∈ tree.nodes)
    (hc : c ∈ n.children) : (n.children.map Node.id).count c.id = 1 := by
  have hsorted := (List.pairwise_cons.mp (h.children_ids_pairwise hn)).2
  have hnodup : (n.children.map Node.id).Nodup :=
    List.pairwise_map.mpr (hsorted.imp Nat.ne_of_lt)
  exact List.count_eq_one_of_mem hnodup (List.mem_map_of_mem hc)

theorem wellFormed (h : tree.IsBuilt) : tree.WellFormed where
  ids := h.ids_eq_range
  node _ _ := node?_eq_some_iff h.ids_nodup
  root := (node?_eq_some_iff h.ids_nodup).mpr ⟨tree.root.self_mem_nodes, h.root_id⟩
  parent_root := h.parent?_root
  parent n hn hid := by
    obtain ⟨p, hp, hchild, hparent⟩ := h.exists_parent hn hid
    have hlt : p.id < n.id := (List.pairwise_cons.mp (h.children_ids_pairwise hp)).1 n hchild
    refine ⟨p, hp, hparent, hlt, ?_, h.count_child_id hp hchild⟩
    cases p with
    | token id type span => cases hchild
    | rule id name span children => rfl
  child n hn c hc := by
    have hmem : c ∈ tree.nodes := Node.mem_nodes_trans (Node.mem_nodes_of_mem_children hc) hn
    exact ⟨(node?_eq_some_iff h.ids_nodup).mpr ⟨hmem, rfl⟩, h.parent?_child hn hc⟩
  children n hn := List.pairwise_map.mpr (List.pairwise_cons.mp (h.children_ids_pairwise hn)).2
  token n hn htoken := by
    cases n with
    | token id type span => rfl
    | rule id name span children => cases htoken
  span n hn := by
    rw [← tree.text.length_eq]
    exact ⟨(h.nested n hn).start_le_stop, (h.nested n hn).stop_lt⟩
  encloses n hn := (h.nested n hn).encloses
  siblings n hn := (h.nested n hn).follows

end IsBuilt

/-- Whatever steps are made over a text, and whichever of them are refused: a tree that comes out
in the end is a well-formed tree over that text. -/
theorem finish_wellFormed {text : String} {steps : List Step}
    (h : ((Builder.ofText text).run steps).2.finish = .ok tree) :
    tree.text.content = text ∧ tree.WellFormed := by
  have hbuilt : tree.IsBuilt := ⟨text, steps, h⟩
  rw [text_eq_of_finish h]
  exact ⟨rfl, hbuilt.wellFormed⟩

/-- Steps for a clause with two parameters. Four of them are refused. -/
def limitSteps : List Step :=
  [.start "select" 0, .token "NAME_" 0 0, .start "limitClause" 2, .token "LIMIT" 2 6,
    .start "limitOffset" 8, .start "parameterMarker" 7, .start "parameterMarker" 8,
    .token "QUESTION_" 8 8, .finish 12, .finish 8, .finish 8, .token "COMMA_" 9 9,
    .start "limitRowCount" 11, .start "parameterMarker" 11, .token "QUESTION_" 11 11,
    .token "QUESTION_" 11 11, .finish 11, .finish 11, .finish 10, .finish 11, .finish 11]

def limitTree : ParseTree where
  text := StatementText.ofString "列 LIMIT ?, ?"
  root :=
    .rule 0 "select" ⟨0, 11⟩
      [.token 1 "NAME_" ⟨0, 0⟩,
        .rule 2 "limitClause" ⟨2, 11⟩
          [.token 3 "LIMIT" ⟨2, 6⟩,
            .rule 4 "limitOffset" ⟨8, 8⟩
              [.rule 5 "parameterMarker" ⟨8, 8⟩ [.token 6 "QUESTION_" ⟨8, 8⟩]],
            .token 7 "COMMA_" ⟨9, 9⟩,
            .rule 8 "limitRowCount" ⟨11, 11⟩
              [.rule 9 "parameterMarker" ⟨11, 11⟩ [.token 10 "QUESTION_" ⟨11, 11⟩]]]]

theorem finish_limitSteps :
    ((Builder.ofText "列 LIMIT ?, ?").run limitSteps).2.finish = .ok limitTree :=
  rfl

theorem limitTree_wellFormed :
    ((Builder.ofText "列 LIMIT ?, ?").run limitSteps).2.finish = .ok limitTree ∧
      limitTree.text.content = "列 LIMIT ?, ?" ∧ limitTree.WellFormed :=
  ⟨finish_limitSteps, finish_wellFormed finish_limitSteps⟩

end ParseTree

end StatementSegments
