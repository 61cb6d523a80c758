import StatementSegments.Proofs.CarriedSelections
import StatementSegments.Proofs.SelectedParts

namespace StatementSegments

/-! Offsets that are left as they are -/

theorem Span.mapOffsets_id : Span.mapOffsets id = id :=
  rfl

theorem TableRef.mapOffsets_id : TableRef.mapOffsets id = id :=
  rfl

theorem Table.mapOffsets_id : Table.mapOffsets id = id :=
  rfl

theorem Column.mapOffsets_id : Column.mapOffsets id = id := by
  funext c
  simp [Column.mapOffsets, Span.mapOffsets_id, TableRef.mapOffsets_id]

theorem BoundSegment.mapOffsets_id : BoundSegment.mapOffsets id = id :=
  rfl

theorem Top.mapOffsets_id : Top.mapOffsets id = id :=
  rfl

theorem Limit.mapOffsets_id : Limit.mapOffsets id = id := by
  funext l
  simp [Limit.mapOffsets, Span.mapOffsets_id, BoundSegment.mapOffsets_id]

theorem Select.mapOffsets_id : Select.mapOffsets id = id := by
  funext selected
  simp [Select.mapOffsets, Top.mapOffsets_id, Limit.mapOffsets_id, Table.mapOffsets_id,
    Column.mapOffsets_id]

theorem ExtractionError.mapOffsets_id : ExtractionError.mapOffsets id = id := by
  funext e
  cases e <;> rfl

/-- Where offsets stay as they are, an image has the same segments and the same failures. -/
theorem Statement.IsImage.outcome_select_eq {f : Node → Node} {s s' : Statement}
    (h : Statement.IsImage f id s s') (dialect : Dialect) :
    (s'.select dialect).outcome = (s.select dialect).outcome := by
  have hcarries := h.select dialect
  rw [Logged.Carries, ExtractionError.mapOffsets_id, Select.mapOffsets_id] at hcarries
  rw [hcarries]
  cases (s.select dialect).outcome <;> rfl

theorem map_eq_of_forall₂ {α β : Type} {R : α → β → Prop} {f : α → β} {as : List α} {bs : List β}
    (h : List.Forall₂ R as bs) (hf : ∀ a ∈ as, ∀ b ∈ bs, R a b → f a = b) : as.map f = bs := by
  induction h with
  | nil => rfl
  | @cons a b as bs hab hrest ih =>
      rw [List.map_cons, hf a List.mem_cons_self b List.mem_cons_self hab, ih]
      exact fun a ha b hb => hf a (List.mem_cons_of_mem _ ha) b (List.mem_cons_of_mem _ hb)

namespace Node

/-- A token may have either of the types: they are one type, or none of them stands for a
percentage. -/
def TypesAlike (type type' : String) : Prop :=
  type' = type ∨
    type ≠ Rule.percentKeyword.spelling ∧ type' ≠ Rule.percentKeyword.spelling

/-- The trees are the same but for the types of tokens, which are alike. -/
inductive SameButTypes : Node → Node → Prop where
  | token (id : Nat) (span : Span) {type type' : String} (h : TypesAlike type type') :
      SameButTypes (.token id type span) (.token id type' span)
  | rule (id : Nat) (name : String) (span : Span) {children children' : List Node}
      (h : List.Forall₂ SameButTypes children children') :
      SameButTypes (.rule id name span children) (.rule id name span children')

section Retyped

variable (types : Nat → String → String)

mutual

/-- The tree with other types for its tokens, which may depend on their numbers. -/
def retype : Node → Node
  | token id type span => token id (types id type) span
  | rule id name span children => rule id name span (retypeAll children)

def retypeAll : List Node → List Node
  | [] => []
  | n :: rest => n.retype :: retypeAll rest

end

theorem retypeAll_eq_map (ns : List Node) : retypeAll types ns = ns.map (·.retype types) := by
  induction ns with
  | nil => rfl
  | cons n ns ih => rw [retypeAll, ih, List.map_cons]

theorem span_retype (n : Node) : (n.retype types).span = n.span := by
  cases n <;> rfl

variable {types}

theorem keepsShape_retype
    (htypes : ∀ id type, types id type = Rule.percentKeyword.spelling ↔
      type = Rule.percentKeyword.spelling) : KeepsShape (retype types) where
  id n := by cases n <;> rfl
  isToken n := by cases n <;> rfl
  label n hn := by
    cases n with
    | token id type span => cases hn
    | rule id name span children => rfl
  isPercent n := by
    cases n with
    | token id type span =>
        rw [Bool.eq_iff_iff]
        simpa [retype, isTokenOf, isToken, label] using htypes id type
    | rule id name span children => rfl
  children n := by
    cases n with
    | token id type span => rfl
    | rule id name span children => exact retypeAll_eq_map types children

theorem sameButTypes_retype (htypes : ∀ id type, TypesAlike type (types id type)) (n : Node) :
    n.SameButTypes (n.retype types) := by
  induction n using induction_children with
  | step n ih =>
      cases n with
      | token id type span => exact .token id span (htypes id type)
      | rule id name span children =>
          rw [retype, retypeAll_eq_map]
          refine .rule id name span ?_
          rw [List.forall₂_map_right_iff, List.forall₂_same]
          exact ih

end Retyped

end Node

namespace ParseTree

variable {tree : ParseTree}

/-- The type that the token with a number has in the tree, in place of one that it may have. -/
def typeAt (tree : ParseTree) (id : Nat) (type : String) : String :=
  match tree.node? id with
  | some n =>
      if type = Rule.percentKeyword.spelling ∨ n.label = Rule.percentKeyword.spelling then type
      else n.label
  | none => type

theorem typeAt_eq_percent_iff (id : Nat) (type : String) :
    tree.typeAt id type = Rule.percentKeyword.spelling ↔
      type = Rule.percentKeyword.spelling := by
  unfold typeAt
  cases tree.node? id with
  | none => exact Iff.rfl
  | some n =>
      dsimp only
      split
      · exact Iff.rfl
      · rename_i hneither
        rw [not_or] at hneither
        exact iff_of_false hneither.2 hneither.1

theorem typeAt_of_mem (hids : (tree.nodes.map Node.id).Nodup) {n : Node} (hn : n ∈ tree.nodes)
    {type : String} (halike : Node.TypesAlike type n.label) :
    tree.typeAt n.id type = n.label := by
  rw [typeAt, (node?_eq_some_iff hids).mpr ⟨hn, rfl⟩]
  dsimp only
  split
  · rename_i hpercent
    rcases halike with hsame | ⟨hleft, hright⟩
    · exact hsame.symm
    · exact absurd hpercent (not_or.mpr ⟨hleft, hright⟩)
  · rfl

/-- Since numbers tell nodes apart, the types of one tree can be read off those of another. -/
theorem retype_typeAt (hids : (tree.nodes.map Node.id).Nodup) {n m : Node} (hm : m ∈ tree.nodes)
    (h : n.SameButTypes m) : n.retype tree.typeAt = m := by
  induction n using Node.induction_children generalizing m with
  | step n ih =>
      cases h with
      | token id span halike =>
          rw [Node.retype]
          exact congrArg (Node.token id · span) (typeAt_of_mem hids hm halike)
      | @rule id name span children children' hchildren =>
          rw [Node.retype, Node.retypeAll_eq_map]
          refine congrArg (Node.rule id name span) (map_eq_of_forall₂ hchildren ?_)
          intro c hc d hd hsame
          have hmem : d ∈ (Node.rule id name span children').nodes :=
            Node.mem_nodes_of_mem_children hd
          exact ih c hc (Node.mem_nodes_trans hmem hm) hsame

/-- The trees are over one text and the same but for the types of tokens. -/
structure SameButTypes (tree tree' : ParseTree) : Prop where
  text : tree'.text = tree.text
  root : tree.root.SameButTypes tree'.root

variable {tree' : ParseTree}

theorem SameButTypes.isImage (h : tree.SameButTypes tree')
    (hids : (tree'.nodes.map Node.id).Nodup) (markers : MarkerNumbering) :
    Statement.IsImage (Node.retype tree'.typeAt) id ⟨tree, markers⟩ ⟨tree', markers⟩ where
  keepsShape := Node.keepsShape_retype typeAt_eq_percent_iff
  root := (retype_typeAt hids tree'.root.self_mem_nodes h.root).symm
  span n := Node.span_retype _ n
  textOf n _ := by simp only [textOf, h.text, Node.span_retype]
  number? _ _ _ := rfl

end ParseTree

/-- From trees that differ in the types of tokens only, and in none that stands for a percentage,
the same is extracted. -/
theorem select_sameButTypes {tree tree' : ParseTree} (hbuilt : tree'.IsBuilt)
    (h : tree.SameButTypes tree') :
    (∀ dialect markers, (Statement.select dialect ⟨tree', markers⟩).outcome =
      (Statement.select dialect ⟨tree, markers⟩).outcome) ∧
    MarkerNumbering.ofNode tree'.root = MarkerNumbering.ofNode tree.root := by
  constructor
  · intro dialect markers
    exact (h.isImage hbuilt.ids_nodup markers).outcome_select_eq dialect
  · have himage := h.isImage hbuilt.ids_nodup .empty
    have hroot : tree'.root = tree.root.retype tree'.typeAt := himage.root
    rw [hroot]
    exact MarkerNumbering.ofNode_keepsShape himage.keepsShape tree.root

/-- Names of rules as the types of tokens. -/
def misleadingType (id : Nat) (type : String) : String :=
  if type = Rule.percentKeyword.spelling then type
  else
    match id % 4 with
    | 0 => "top"
    | 1 => "alias"
    | 2 => "columnName"
    | _ => "parameterMarker"

theorem typesAlike_misleadingType (id : Nat) (type : String) :
    Node.TypesAlike type (misleadingType id type) := by
  unfold misleadingType
  split
  · exact Or.inl rfl
  · rename_i hother
    refine Or.inr ⟨hother, ?_⟩
    split <;> decide

def misleadingTree : ParseTree :=
  ⟨ordersTree.text, ordersTree.root.retype misleadingType⟩

theorem misleadingTree_isBuilt : misleadingTree.IsBuilt :=
  ⟨"SELECT o.c, d FROM orders o, u LIMIT ?", misleadingTree.root.steps, rfl⟩

/-- The first and the last token have the names of the alias of a table and of a marker. -/
theorem misleadingTree_select :
    misleadingTree.IsBuilt ∧ ordersTree.SameButTypes misleadingTree ∧
      .token 1 "alias" ⟨0, 5⟩ ∈ misleadingTree.nodes ∧
      .token 23 "parameterMarker" ⟨37, 37⟩ ∈ misleadingTree.nodes ∧
      (Statement.select .mySql ⟨misleadingTree, ⟨[(22, 7)]⟩⟩).outcome = .ok ordersSelect ∧
      MarkerNumbering.ofNode misleadingTree.root = MarkerNumbering.ofNode ordersTree.root := by
  have hsame : ordersTree.SameButTypes misleadingTree :=
    ⟨rfl, Node.sameButTypes_retype typesAlike_misleadingType ordersTree.root⟩
  obtain ⟨hselect, hmarkers⟩ := select_sameButTypes misleadingTree_isBuilt hsame
  refine ⟨misleadingTree_isBuilt, hsame, ?_, ?_, ?_, hmarkers⟩
  · simp [misleadingTree, ordersTree, Node.ofToken, Node.retype, Node.retypeAll, misleadingType,
      ParseTree.nodes, Node.nodes, Rule.spelling]
  · simp [misleadingTree, ordersTree, Node.ofToken, Node.retype, Node.retypeAll, misleadingType,
      ParseTree.nodes, Node.nodes, Rule.spelling]
  · rw [hselect, select_ordersTree]

end StatementSegments
