import StatementSegments.Proofs.BoundSources
import StatementSegments.Proofs.MissingNames
import StatementSegments.Proofs.SelectedParts

namespace StatementSegments

namespace Logged

variable {ε α β : Type} {excused : ε → Prop} {x y : Logged ε α}

/-- The second computation is the first one, records and all, unless that one fails in a way that
is excused. -/
def AgreesUnless (excused : ε → Prop) (x y : Logged ε α) : Prop :=
  y = x ∨ ∃ e, x.outcome = .error e ∧ excused e

namespace AgreesUnless

theorem refl (x : Logged ε α) : AgreesUnless excused x x :=
  Or.inl rfl

theorem of_error {e : ε} (h : x.outcome = .error e) (he : excused e) : AgreesUnless excused x y :=
  Or.inr ⟨e, h, he⟩

theorem bind {f g : α → Logged ε β} (hxy : AgreesUnless excused x y)
    (hnext : ∀ a, x.outcome = .ok a → AgreesUnless excused (f a) (g a)) :
    AgreesUnless excused (x >>= f) (y >>= g) := by
  rcases hxy with rfl | ⟨e, hx, he⟩
  · rcases y with ⟨records, e | a⟩
    · exact refl _
    · rcases hnext a rfl with hsame | ⟨e, hfail, he⟩
      · left
        rw [bind_ok, bind_ok, hsame]
      · exact of_error hfail he
  · exact of_error (outcome_bind_of_error hx) he

theorem bind_right {f g : α → Logged ε β}
    (hnext : ∀ a, x.outcome = .ok a → AgreesUnless excused (f a) (g a)) :
    AgreesUnless excused (x >>= f) (x >>= g) :=
  (refl x).bind hnext

theorem bind_left {f : α → Logged ε β} (hxy : AgreesUnless excused x y) :
    AgreesUnless excused (x >>= f) (y >>= f) :=
  hxy.bind fun a _ => refl (f a)

theorem mapM_option {o : Option α} {f g : α → Logged ε β}
    (h : ∀ a, o = some a → AgreesUnless excused (f a) (g a)) :
    AgreesUnless excused (o.mapM f) (o.mapM g) := by
  cases o with
  | none => exact refl _
  | some a =>
      rw [Option.mapM_some, Option.mapM_some, map_eq_pure_bind, map_eq_pure_bind]
      exact (h a rfl).bind_left

theorem ite_bind {c : Prop} [Decidable c] {z : Logged ε α} {f g : α → Logged ε β}
    (hxy : AgreesUnless excused x y) (hnext : ∀ a, AgreesUnless excused (f a) (g a)) :
    AgreesUnless excused (if c then x >>= f else z >>= f) (if c then y >>= g else z >>= g) := by
  split
  · exact hxy.bind fun a _ => hnext a
  · exact bind_right fun a _ => hnext a

end AgreesUnless

end Logged

open Logged (AgreesUnless)

namespace Statement

variable {tree : ParseTree} {markers markers' : MarkerNumbering} {excused : ExtractionError → Prop}

/-- Every marker of the tree has one number in both numberings, or none in the first one, and then
it is excused that an extraction fails for want of it. -/
def NumberedAlikeUnless (excused : ExtractionError → Prop) (tree : ParseTree)
    (markers markers' : MarkerNumbering) : Prop :=
  ∀ n ∈ tree.nodes, n.isRule .parameterMarker = true →
    markers'.number? n.id = markers.number? n.id ∨
      markers.number? n.id = none ∧ excused (.unindexedParameterMarker n.start)

/-- The failure is that at a marker of the tree without a number. -/
def IsForUnnumbered (tree : ParseTree) (markers : MarkerNumbering) (e : ExtractionError) : Prop :=
  ∃ n ∈ tree.nodes, n.isRule .parameterMarker = true ∧ markers.number? n.id = none ∧
    e = .unindexedParameterMarker n.start

theorem numberedAlikeUnless_of_extends
    (hextends : ∀ id index, markers.number? id = some index → markers'.number? id = some index) :
    NumberedAlikeUnless (IsForUnnumbered tree markers) tree markers markers' := by
  intro n hn hrule
  rcases hnumber : markers.number? n.id with _ | index
  · exact Or.inr ⟨rfl, n, hn, hrule, hnumber, rfl⟩
  · exact Or.inl (hextends n.id index hnumber)

variable (h : NumberedAlikeUnless excused tree markers markers')
include h

theorem markerIndex_agrees {n : Node} (hn : n ∈ tree.nodes)
    (hrule : n.isRule .parameterMarker = true) :
    AgreesUnless excused (markerIndex ⟨tree, markers⟩ n) (markerIndex ⟨tree, markers'⟩ n) := by
  unfold markerIndex
  rcases h n hn hrule with hsame | ⟨hnone, he⟩
  · dsimp only
    rw [hsame]
    exact .refl _
  · refine .of_error ?_ he
    dsimp only
    rw [hnone]
    rfl

theorem expression?_agrees {n : Node} (hn : n ∈ tree.nodes) :
    AgreesUnless excused (expression? ⟨tree, markers⟩ n) (expression? ⟨tree, markers'⟩ n) := by
  unfold expression?
  cases !n.isToken && n.children.isEmpty with
  | true => exact .refl _
  | false =>
      rcases hmarker : n.solely? .parameterMarker with _ | marker
      · -- Without a marker nothing is asked of the numbers.
        exact .refl _
      · obtain ⟨hnarrows, hrule⟩ := Node.solely?_eq_some hmarker
        have hmem := Node.mem_nodes_trans hnarrows.mem_nodes hn
        exact (markerIndex_agrees h hmem hrule).bind_left

theorem expression_agrees {n : Node} (hn : n ∈ tree.nodes) :
    AgreesUnless excused (expression ⟨tree, markers⟩ n) (expression ⟨tree, markers'⟩ n) :=
  (expression?_agrees h hn).bind_left

theorem boundAt_agrees (construct : String) {value : Node} (hvalue : value ∈ tree.nodes) :
    AgreesUnless excused (boundAt ⟨tree, markers⟩ construct value)
      (boundAt ⟨tree, markers'⟩ construct value) :=
  (expression_agrees h hvalue).bind_left

theorem top?_agrees :
    AgreesUnless excused (top? ⟨tree, markers⟩ tree.root) (top? ⟨tree, markers'⟩ tree.root) := by
  unfold top?
  rcases hclause : tree.root.nearest? .top with _ | clause
  · exact .refl _
  · refine .bind_right fun value hvalue => ?_
    have hmem := Node.mem_nodes_trans (Node.mem_nodes_of_required hvalue)
      (Node.nearest?_eq_some hclause).1
    exact (boundAt_agrees h "TOP expression" hmem).bind_left

theorem limit?_agrees :
    AgreesUnless excused (limit? ⟨tree, markers⟩ tree.root)
      (limit? ⟨tree, markers'⟩ tree.root) := by
  unfold limit?
  rcases hclause : tree.root.nearest? .limitClause with _ | clause
  · exact .refl _
  · have hbound : ∀ (construct : String) (r : Rule) (value : Node),
        clause.nearest? r = some value →
          AgreesUnless excused (boundAt ⟨tree, markers⟩ construct value)
            (boundAt ⟨tree, markers'⟩ construct value) := fun construct _ _ hvalue =>
      boundAt_agrees h construct (Node.mem_nodes_of_nearest? hclause hvalue)
    refine AgreesUnless.bind (.mapM_option (hbound "LIMIT offset" _)) fun offset _ => ?_
    exact AgreesUnless.bind_left (.mapM_option (hbound "LIMIT row count" _))

theorem select_agrees (dialect : Dialect) :
    AgreesUnless excused (select dialect ⟨tree, markers⟩) (select dialect ⟨tree, markers'⟩) := by
  unfold select
  refine .bind_right fun tables _ => .bind_right fun columns _ => .bind_right fun resolved _ => ?_
  refine AgreesUnless.ite_bind (top?_agrees h) fun top => ?_
  exact AgreesUnless.ite_bind (limit?_agrees h) fun limit => .refl _

end Statement

/-- A selection depends on no numbers but those of the markers of its tree, and further numbers only
help where one was missing. -/
theorem select_numberings (tree : ParseTree) (markers markers' : MarkerNumbering)
    (dialect : Dialect) :
    ((∀ n ∈ tree.nodes, n.isRule .parameterMarker = true →
        markers'.number? n.id = markers.number? n.id) →
      Statement.select dialect ⟨tree, markers'⟩ = Statement.select dialect ⟨tree, markers⟩) ∧
    ((∀ id index, markers.number? id = some index → markers'.number? id = some index) →
      Statement.select dialect ⟨tree, markers'⟩ = Statement.select dialect ⟨tree, markers⟩ ∨
        ∃ n ∈ tree.nodes, n.isRule .parameterMarker = true ∧ markers.number? n.id = none ∧
          (Statement.select dialect ⟨tree, markers⟩).outcome =
            .error (.unindexedParameterMarker n.start)) := by
  constructor
  · intro hsame
    have halike : Statement.NumberedAlikeUnless (fun _ => False) tree markers markers' :=
      fun n hn hrule => Or.inl (hsame n hn hrule)
    rcases Statement.select_agrees halike dialect with heq | ⟨e, -, hfalse⟩
    · exact heq
    · exact hfalse.elim
  · intro hextends
    have halike : Statement.NumberedAlikeUnless (Statement.IsForUnnumbered tree markers) tree
        markers markers' := Statement.numberedAlikeUnless_of_extends hextends
    rcases Statement.select_agrees halike dialect with heq | ⟨e, herror, n, hn, hrule, hnone, rfl⟩
    · exact Or.inl heq
    · exact Or.inr ⟨n, hn, hrule, hnone, herror⟩

/-- A number for a node that is no marker changes nothing, and the empty numbering lacks the number
of the marker at 37. -/
theorem ordersTree_numberings :
    (∀ n ∈ ordersTree.nodes, n.isRule .parameterMarker = true →
      (MarkerNumbering.mk [(3, 1), (22, 7)]).number? n.id =
        (MarkerNumbering.mk [(22, 7)]).number? n.id) ∧
    Statement.select .mySql ⟨ordersTree, ⟨[(3, 1), (22, 7)]⟩⟩ =
      Statement.select .mySql ⟨ordersTree, ⟨[(22, 7)]⟩⟩ ∧
    (∀ id index, MarkerNumbering.empty.number? id = some index →
      (MarkerNumbering.mk [(22, 7)]).number? id = some index) ∧
    (Statement.select .mySql ⟨ordersTree, .empty⟩).outcome =
      .error (.unindexedParameterMarker 37) := by
  obtain ⟨hsame, -⟩ := select_numberings ordersTree ⟨[(22, 7)]⟩ ⟨[(3, 1), (22, 7)]⟩ .mySql
  obtain ⟨-, hextends⟩ := select_numberings ordersTree .empty ⟨[(22, 7)]⟩ .mySql
  have halike : ∀ n ∈ ordersTree.nodes, n.isRule .parameterMarker = true →
      (MarkerNumbering.mk [(3, 1), (22, 7)]).number? n.id =
        (MarkerNumbering.mk [(22, 7)]).number? n.id := by decide
  have hempty : ∀ id index, MarkerNumbering.empty.number? id = some index →
      (MarkerNumbering.mk [(22, 7)]).number? id = some index := nofun
  have hstart : ∀ n ∈ ordersTree.nodes, n.isRule .parameterMarker = true → n.start = 37 := by
    decide
  refine ⟨halike, hsame halike, hempty, ?_⟩
  rcases hextends hempty with heq | ⟨n, hn, hrule, -, herror⟩
  · -- The bound of the first selection is a parameter, for which some marker has a number.
    have hok : (Statement.select .mySql ⟨ordersTree, .empty⟩).outcome = .ok ordersSelect := by
      rw [← heq]
      exact select_ordersTree
    have hmem : (⟨⟨37, 37⟩, .ofParameter 7⟩ : BoundSegment) ∈ ordersSelect.bounds := by decide
    obtain ⟨value, -, -, marker, -, -, hdenotes⟩ := Statement.isReadFrom_of_mem_bounds hok hmem
    cases hdenotes with
    | parameter _ hindex => cases hindex
  · rw [herror, hstart n hn hrule]

end StatementSegments
