import StatementSegments.Proofs.BoundSources
import StatementSegments.Proofs.NodeMaps

namespace StatementSegments

namespace Node

/-- The node, then its only child and so on, for as long as a node has a rule node as its only
child. -/
inductive IsChain : Node → List Node → Prop where
  | last {n : Node} (hend : ∀ c, n.children = [c] → c.isToken = true) : IsChain n [n]
  | step {n c : Node} {rest : List Node} (hchildren : n.children = [c]) (hrule : c.isToken = false)
      (hrest : IsChain c rest) : IsChain n (n :: rest)

theorem IsChain.eq_chain {n : Node} {ns : List Node} (h : n.IsChain ns) : ns = n.chain := by
  induction h with
  | last hend => rw [chain_eq_singleton hend]
  | step hchildren hrule hrest ih => rw [chain_of_children_eq hchildren hrule, ih]

theorem isChain_chain (n : Node) : n.IsChain n.chain := by
  induction n using induction_children with
  | step n ih =>
      by_cases honly : ∃ c, n.children = [c] ∧ c.isToken = false
      · obtain ⟨c, hc, hrule⟩ := honly
        rw [chain_of_children_eq hc hrule]
        exact .step hc hrule (ih c (by simp [hc]))
      · have hend : ∀ c, n.children = [c] → c.isToken = true := by
          intro c hc
          by_contra hrule
          exact honly ⟨c, hc, Bool.eq_false_iff.mpr hrule⟩
        rw [chain_eq_singleton hend]
        exact .last hend

theorem isChain_iff {n : Node} {ns : List Node} : n.IsChain ns ↔ ns = n.chain := by
  constructor
  · exact IsChain.eq_chain
  · rintro rfl
    exact n.isChain_chain

/-- The first of the nodes that the rule `r` made. -/
def IsFirstBy (r : Rule) (ns : List Node) (m : Node) : Prop :=
  m.isRule r = true ∧ ∃ before after, ns = before ++ m :: after ∧ ∀ k ∈ before, k.isRule r = false

/-- The rule `r` made none of the nodes. -/
def NoneBy (r : Rule) (ns : List Node) : Prop :=
  ∀ m ∈ ns, m.isRule r = false

instance (r : Rule) (ns : List Node) : Decidable (NoneBy r ns) :=
  inferInstanceAs (Decidable (∀ m ∈ ns, m.isRule r = false))

variable {n m : Node} {r : Rule}

theorem solely?_eq_some_iff : n.solely? r = some m ↔ IsFirstBy r n.chain m := by
  rw [solely?, List.find?_eq_some_iff_append, IsFirstBy]
  simp only [Bool.not_eq_true']

theorem solely?_eq_none_iff : n.solely? r = none ↔ NoneBy r n.chain := by
  rw [solely?, List.find?_eq_none, NoneBy]
  simp only [Bool.not_eq_true]

end Node

namespace Statement

open Node (IsFirstBy NoneBy)

/-- Of the kinds of literals, the first one that has a node among these, and the first such node. -/
def IsFirstLiteral (ns : List Node) (kind : LiteralKind) (m : Node) : Prop :=
  IsFirstBy kind.rule ns m ∧ ∃ before after, LiteralKind.all = before ++ kind :: after ∧
    ∀ earlier ∈ before, NoneBy earlier.rule ns

/-- What the chain of a node says that the node is. -/
inductive IsResolved (s : Statement) (n : Node) (chain : List Node) :
    Except ExtractionError (Option Expression) → Prop where
  | nothing (hhollow : IsHollow n) : IsResolved s n chain (.ok none)
  | parameter {marker : Node} {index : Nat} (hsolid : ¬IsHollow n)
      (hmarker : IsFirstBy .parameterMarker chain marker)
      (hindex : s.markers.number? marker.id = some index) :
      IsResolved s n chain (.ok (some (.parameter n.span index)))
  | unindexed {marker : Node} (hsolid : ¬IsHollow n)
      (hmarker : IsFirstBy .parameterMarker chain marker)
      (hindex : s.markers.number? marker.id = none) :
      IsResolved s n chain (.error (.unindexedParameterMarker marker.start))
  | literal {kind : LiteralKind} {m : Node} {value : Literal} (hsolid : ¬IsHollow n)
      (hmarker : NoneBy .parameterMarker chain) (hliteral : IsFirstLiteral chain kind m)
      (hvalue : kind.Denotes (Blank.trim (s.tree.textOf m)) value) :
      IsResolved s n chain (.ok (some (.literal n.span value)))
  | invalid {kind : LiteralKind} {m : Node} (hsolid : ¬IsHollow n)
      (hmarker : NoneBy .parameterMarker chain) (hliteral : IsFirstLiteral chain kind m)
      (hvalue : ∀ value, ¬kind.Denotes (Blank.trim (s.tree.textOf m)) value) :
      IsResolved s n chain (.error (.invalidLiteral (Blank.trim (s.tree.textOf m)) m.start))
  | column {m : Node} {c : Column} (hsolid : ¬IsHollow n)
      (hmarker : NoneBy .parameterMarker chain)
      (hliteral : ∀ kind : LiteralKind, NoneBy kind.rule chain)
      (hcolumn : IsFirstBy .columnName chain m) (hspan : c.span = m.span)
      (hfound : (s.tree.column? m).outcome = .ok (some c)) :
      IsResolved s n chain (.ok (some (.column c)))
  | nameless {m : Node} (hsolid : ¬IsHollow n) (hmarker : NoneBy .parameterMarker chain)
      (hliteral : ∀ kind : LiteralKind, NoneBy kind.rule chain)
      (hcolumn : IsFirstBy .columnName chain m) (hname : NoneBy .name m.nodes) :
      IsResolved s n chain
        (.error (.missingNode .name Rule.columnName.spelling m.start))
  | complex (hsolid : ¬IsHollow n) (hmarker : NoneBy .parameterMarker chain)
      (hliteral : ∀ kind : LiteralKind, NoneBy kind.rule chain)
      (hcolumn : NoneBy .columnName chain) :
      IsResolved s n chain (.ok (some (.complex n.span (s.tree.textOf n))))

variable {s : Statement} {n m : Node} {kind : LiteralKind}

theorem literalNode?_eq_some_iff :
    literalNode? n = some (kind, m) ↔ IsFirstLiteral n.chain kind m := by
  simp only [literalNode?, List.findSome?_eq_some_iff, Option.map_eq_some_iff,
    Option.map_eq_none_iff, Node.solely?_eq_some_iff, Node.solely?_eq_none_iff, IsFirstLiteral]
  constructor
  · rintro ⟨before, _, after, hall, ⟨m, hm, ⟨⟩⟩, hbefore⟩
    exact ⟨hm, before, after, hall, hbefore⟩
  · rintro ⟨hm, before, after, hall, hbefore⟩
    exact ⟨before, kind, after, hall, ⟨m, hm, rfl⟩, hbefore⟩

theorem literalNode?_eq_none_iff :
    literalNode? n = none ↔ ∀ kind : LiteralKind, NoneBy kind.rule n.chain := by
  simp only [literalNode?, List.findSome?_eq_none_iff, Option.map_eq_none_iff,
    Node.solely?_eq_none_iff]
  refine forall_congr' fun kind => ?_
  have hmem : kind ∈ LiteralKind.all := by cases kind <;> decide
  exact forall_prop_of_true hmem

/-- Whatever the chain says that a node is, that is what it resolves to. -/
theorem IsResolved.outcome_eq {r : Except ExtractionError (Option Expression)}
    (h : s.IsResolved n n.chain r) : (s.expression? n).outcome = r := by
  unfold expression?
  cases h with
  | nothing hhollow =>
      rw [if_pos (isHollow_iff.mpr hhollow)]
      rfl
  | parameter hsolid hmarker hindex =>
      rw [if_neg (isHollow_iff.not.mpr hsolid), Node.solely?_eq_some_iff.mpr hmarker]
      simp [markerIndex, hindex]
  | @unindexed marker hsolid hmarker hindex =>
      rw [if_neg (isHollow_iff.not.mpr hsolid), Node.solely?_eq_some_iff.mpr hmarker]
      have hat : (s.markerIndex marker).outcome =
          .error (.unindexedParameterMarker marker.start) := by
        simp [markerIndex, hindex]
      simp [Logged.outcome_bind_of_error hat]
  | literal hsolid hmarker hliteral hvalue =>
      rw [if_neg (isHollow_iff.not.mpr hsolid), Node.solely?_eq_none_iff.mpr hmarker,
        literalNode?_eq_some_iff.mpr hliteral]
      simp [Logged.outcome_bind_of_ok (literalAt_eq_ok_iff.mpr hvalue)]
  | @invalid kind m hsolid hmarker hliteral hvalue =>
      rw [if_neg (isHollow_iff.not.mpr hsolid), Node.solely?_eq_none_iff.mpr hmarker,
        literalNode?_eq_some_iff.mpr hliteral]
      have hat := literalAt_eq_error_iff.mpr ⟨hvalue, rfl⟩
      simp [Logged.outcome_bind_of_error hat]
  | column hsolid hmarker hliteral hcolumn hspan hfound =>
      rw [if_neg (isHollow_iff.not.mpr hsolid), Node.solely?_eq_none_iff.mpr hmarker,
        literalNode?_eq_none_iff.mpr hliteral, Node.solely?_eq_some_iff.mpr hcolumn]
      simp [Logged.outcome_bind_of_ok hfound]
  | @nameless m hsolid hmarker hliteral hcolumn hname =>
      rw [if_neg (isHollow_iff.not.mpr hsolid), Node.solely?_eq_none_iff.mpr hmarker,
        literalNode?_eq_none_iff.mpr hliteral, Node.solely?_eq_some_iff.mpr hcolumn,
        ← Node.label_of_isRule hcolumn.1]
      have hat : (s.tree.columnAt m).outcome = .error (.missingNode .name m.label m.start) :=
        ParseTree.columnAt_eq_error_iff.mpr ⟨Node.lacks_iff.mpr hname, rfl⟩
      simp [ParseTree.column?_bind_of_isRule hcolumn.1, Logged.outcome_bind_of_error hat]
  | complex hsolid hmarker hliteral hcolumn =>
      rw [if_neg (isHollow_iff.not.mpr hsolid), Node.solely?_eq_none_iff.mpr hmarker,
        literalNode?_eq_none_iff.mpr hliteral, Node.solely?_eq_none_iff.mpr hcolumn]
      rfl

/-- The chain of a node always says something. -/
theorem exists_isResolved (s : Statement) (n : Node) : ∃ r, s.IsResolved n n.chain r := by
  by_cases hhollow : IsHollow n
  · exact ⟨_, .nothing hhollow⟩
  rcases hmarker : n.solely? .parameterMarker with _ | marker
  · rw [Node.solely?_eq_none_iff] at hmarker
    rcases hliteral : literalNode? n with _ | ⟨kind, m⟩
    · rw [literalNode?_eq_none_iff] at hliteral
      rcases hcolumn : n.solely? .columnName with _ | m
      · exact ⟨_, .complex hhollow hmarker hliteral (Node.solely?_eq_none_iff.mp hcolumn)⟩
      · rw [Node.solely?_eq_some_iff] at hcolumn
        rcases hat : (s.tree.columnAt m).outcome with e | c
        · have hname := Node.lacks_iff.mp (ParseTree.columnAt_eq_error_iff.mp hat).1
          exact ⟨_, .nameless hhollow hmarker hliteral hcolumn hname⟩
        · have hfound := (ParseTree.column?_eq_some_iff hcolumn.1).mpr hat
          exact ⟨_, .column hhollow hmarker hliteral hcolumn (ParseTree.columnAt_span hat) hfound⟩
    · rw [literalNode?_eq_some_iff] at hliteral
      rcases hat : (s.literalAt kind m).outcome with e | value
      · exact ⟨_, .invalid hhollow hmarker hliteral (literalAt_eq_error_iff.mp hat).1⟩
      · exact ⟨_, .literal hhollow hmarker hliteral (literalAt_eq_ok_iff.mp hat)⟩
  · rw [Node.solely?_eq_some_iff] at hmarker
    rcases hindex : s.markers.number? marker.id with _ | index
    · exact ⟨_, .unindexed hhollow hmarker hindex⟩
    · exact ⟨_, .parameter hhollow hmarker hindex⟩

/-- The chain of a node is one list, and it decides what the node resolves to: there is just one
outcome that it allows for. Nothing comes of a rule node without children, and only of that. -/
theorem expression?_outcome_iff (s : Statement) (n : Node) :
    ∃ chain, (∀ ns, n.IsChain ns ↔ ns = chain) ∧
      (∀ r, (s.expression? n).outcome = r ↔ s.IsResolved n chain r) ∧
      ((s.expression? n).outcome = .ok none ↔ n.isToken = false ∧ n.children = []) := by
  have hiff : ∀ r, (s.expression? n).outcome = r ↔ s.IsResolved n n.chain r := by
    intro r
    constructor
    · rintro rfl
      obtain ⟨r, hr⟩ := s.exists_isResolved n
      rwa [hr.outcome_eq]
    · exact IsResolved.outcome_eq
  refine ⟨n.chain, fun ns => Node.isChain_iff, hiff, ?_⟩
  rw [hiff]
  constructor
  · intro h
    cases h with
    | nothing hhollow => exact hhollow
  · exact IsResolved.nothing

end Statement

def innerNumber : Node :=
  .rule 3 "numberLiterals" ⟨0, 2⟩ [.token 4 "NUMBER_" ⟨0, 2⟩]

def outerBoolean : Node :=
  .rule 2 "booleanLiterals" ⟨0, 2⟩ [innerNumber]

def numberExpression : Node :=
  .rule 1 "expr" ⟨0, 2⟩ [outerBoolean]

def maybeBoolean : Node :=
  .rule 6 "booleanLiterals" ⟨4, 8⟩ [.token 7 "IDENTIFIER_" ⟨4, 8⟩]

def maybeExpression : Node :=
  .rule 5 "expr" ⟨4, 8⟩ [maybeBoolean]

/-- A number below a boolean, and a boolean that is neither true nor false. -/
def literalsStatement : Statement where
  tree :=
    ⟨StatementText.ofString "2.5 maybe",
      .rule 0 "select" ⟨0, 8⟩ [numberExpression, maybeExpression]⟩
  markers := .empty

theorem isChain_numberExpression :
    numberExpression.IsChain [numberExpression, outerBoolean, innerNumber] :=
  .step rfl rfl (.step rfl rfl (.last (by rintro _ ⟨⟩; rfl)))

theorem isChain_maybeExpression : maybeExpression.IsChain [maybeExpression, maybeBoolean] :=
  .step rfl rfl (.last (by rintro _ ⟨⟩; rfl))

theorem LiteralKind.not_denotes_maybe (value : Literal) : ¬boolean.Denotes "maybe" value := by
  intro h
  cases h with
  | @boolean _ b hvalue => cases b <;> exact absurd hvalue (by decide)

/-- Of the two kinds the number is the earlier one, although it stands further down. -/
theorem literalsStatement_outcomes :
    literalsStatement.tree.IsBuilt ∧ Magnitude.fiveHalves.toRat = 5 / 2 ∧
      (literalsStatement.expression? numberExpression).outcome =
        .ok (some (.literal ⟨0, 2⟩ (.decimal (.finite false .fiveHalves)))) ∧
      (literalsStatement.expression? maybeExpression).outcome =
        .error (.invalidLiteral "maybe" 4) := by
  have hbuilt : literalsStatement.tree.IsBuilt :=
    ⟨"2.5 maybe", literalsStatement.tree.root.steps, rfl⟩
  refine ⟨hbuilt, Magnitude.toRat_fiveHalves, ?_, ?_⟩
  · obtain ⟨_, hchain, houtcome, -⟩ := literalsStatement.expression?_outcome_iff numberExpression
    obtain rfl := (hchain _).mp isChain_numberExpression
    have hsolid : ¬Statement.IsHollow numberExpression := fun h => List.cons_ne_nil _ _ h.2
    have hmarker : Node.NoneBy .parameterMarker [numberExpression, outerBoolean, innerNumber] := by
      decide
    have hliteral : Statement.IsFirstLiteral [numberExpression, outerBoolean, innerNumber] .number
        innerNumber :=
      ⟨⟨by decide, [numberExpression, outerBoolean], [], rfl, by decide⟩, [], _, rfl, by simp⟩
    have htrim : Blank.trim (literalsStatement.tree.textOf innerNumber) = "2.5" := rfl
    have hdenotes := LiteralKind.denotes_fiveHalves
    rw [← htrim] at hdenotes
    exact (houtcome _).mpr (.literal hsolid hmarker hliteral hdenotes)
  · obtain ⟨_, hchain, houtcome, -⟩ := literalsStatement.expression?_outcome_iff maybeExpression
    obtain rfl := (hchain _).mp isChain_maybeExpression
    have hsolid : ¬Statement.IsHollow maybeExpression := fun h => List.cons_ne_nil _ _ h.2
    have hmarker : Node.NoneBy .parameterMarker [maybeExpression, maybeBoolean] := by decide
    have hearlier : ∀ kind ∈ [LiteralKind.number, .string],
        Node.NoneBy kind.rule [maybeExpression, maybeBoolean] := by decide
    have hliteral : Statement.IsFirstLiteral [maybeExpression, maybeBoolean] .boolean
        maybeBoolean :=
      ⟨⟨by decide, [maybeExpression], [], rfl, by decide⟩, _, _, rfl, hearlier⟩
    have htrim : Blank.trim (literalsStatement.tree.textOf maybeBoolean) = "maybe" := rfl
    have hinvalid := LiteralKind.not_denotes_maybe
    rw [← htrim] at hinvalid ⊢
    exact (houtcome _).mpr (.invalid hsolid hmarker hliteral hinvalid)

end StatementSegments
