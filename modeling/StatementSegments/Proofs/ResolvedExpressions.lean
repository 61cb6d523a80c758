import StatementSegments.Extraction.Expression
import StatementSegments.Proofs.LiteralTexts
import StatementSegments.Proofs.NamedReferences

namespace StatementSegments.Statement

/-- A rule node that holds nothing. -/
def IsHollow (n : Node) : Prop :=
  n.isToken = false ∧ n.children = []

theorem isHollow_iff {n : Node} :
    (!n.isToken && n.children.isEmpty) = true ↔ IsHollow n := by
  simp [IsHollow]

/-- The outcomes that an expression can have. -/
inductive ResolvesTo (s : Statement) (n : Node) : Except ExtractionError Expression → Prop where
  | hollow (hhollow : IsHollow n) : ResolvesTo s n (.error (.unresolvedExpression n.span))
  | parameter {marker : Node} {index : Nat} (hmarker : n.solely? .parameterMarker = some marker)
      (hindex : s.markers.number? marker.id = some index) :
      ResolvesTo s n (.ok (.parameter n.span index))
  | unindexed {marker : Node} (hmarker : n.solely? .parameterMarker = some marker)
      (hindex : s.markers.number? marker.id = none) :
      ResolvesTo s n (.error (.unindexedParameterMarker marker.start))
  | literal {kind : LiteralKind} {node : Node} {value : Literal}
      (hmarker : n.solely? .parameterMarker = none) (hnode : n.solely? kind.rule = some node)
      (hdenotes : kind.Denotes (Blank.trim (s.tree.textOf node)) value) :
      ResolvesTo s n (.ok (.literal n.span value))
  | invalid {kind : LiteralKind} {node : Node} (hmarker : n.solely? .parameterMarker = none)
      (hnode : n.solely? kind.rule = some node)
      (hinvalid : ∀ value, ¬kind.Denotes (Blank.trim (s.tree.textOf node)) value) :
      ResolvesTo s n (.error (.invalidLiteral (Blank.trim (s.tree.textOf node)) node.start))
  | column {node : Node} {c : Column} (hnode : n.solely? .columnName = some node)
      (hcolumn : (s.tree.columnAt node).outcome = .ok c) : ResolvesTo s n (.ok (.column c))
  | nameless {node : Node} (hnode : n.solely? .columnName = some node)
      (hname : node.lacks .name = true) :
      ResolvesTo s n (.error (.missingNode .name node.label node.start))
  | complex (hmarker : n.solely? .parameterMarker = none) (hliteral : literalNode? n = none) :
      ResolvesTo s n (.ok (.complex n.span (s.tree.textOf n)))

variable {s : Statement} {n : Node}

theorem literalNode?_eq_some {kind : LiteralKind} {node : Node}
    (h : literalNode? n = some (kind, node)) : n.solely? kind.rule = some node := by
  obtain ⟨kind', -, hkind⟩ := List.exists_of_findSome?_eq_some h
  obtain ⟨found, hfound, heq⟩ := Option.map_eq_some_iff.mp hkind
  cases heq
  exact hfound

theorem literalAt_eq_ok_iff {kind : LiteralKind} {value : Literal} :
    (s.literalAt kind n).outcome = .ok value ↔
      kind.Denotes (Blank.trim (s.tree.textOf n)) value := by
  rw [← LiteralKind.read?_eq_some_iff, literalAt]
  cases kind.read? (Blank.trim (s.tree.textOf n)) <;> simp

theorem literalAt_eq_error_iff {kind : LiteralKind} {e : ExtractionError} :
    (s.literalAt kind n).outcome = .error e ↔
      (∀ value, ¬kind.Denotes (Blank.trim (s.tree.textOf n)) value) ∧
        e = .invalidLiteral (Blank.trim (s.tree.textOf n)) n.start := by
  rw [← LiteralKind.read?_eq_none_iff, literalAt]
  cases kind.read? (Blank.trim (s.tree.textOf n)) <;> simp [eq_comm]

theorem expression_resolvesTo (s : Statement) (n : Node) :
    s.ResolvesTo n (s.expression n).outcome := by
  unfold expression expression?
  by_cases hhollow : IsHollow n
  · rw [if_pos (isHollow_iff.mpr hhollow)]
    exact .hollow hhollow
  rw [if_neg (isHollow_iff.not.mpr hhollow)]
  rcases hmarker : n.solely? .parameterMarker with _ | marker
  · rcases hliteral : literalNode? n with _ | ⟨kind, node⟩
    · rcases hcolumn : n.solely? .columnName with _ | node
      · exact .complex hmarker hliteral
      · have hrule := (Node.solely?_eq_some hcolumn).2
        dsimp only
        rw [ParseTree.column?_bind_of_isRule hrule]
        rcases hc : (s.tree.columnAt node).outcome with e | c
        · obtain ⟨hname, rfl⟩ := ParseTree.columnAt_eq_error_iff.mp hc
          simpa [Logged.outcome_bind_of_error hc] using .nameless hcolumn hname
        · simpa [Logged.outcome_bind_of_ok hc] using .column hcolumn hc
    · have hnode := literalNode?_eq_some hliteral
      rcases hat : (s.literalAt kind node).outcome with e | value
      · obtain ⟨hinvalid, rfl⟩ := literalAt_eq_error_iff.mp hat
        simpa [Logged.outcome_bind_of_error hat] using .invalid hmarker hnode hinvalid
      · have hdenotes := literalAt_eq_ok_iff.mp hat
        simpa [Logged.outcome_bind_of_ok hat] using .literal hmarker hnode hdenotes
  · rcases hindex : s.markers.number? marker.id with _ | index
    · simpa [markerIndex, hindex] using .unindexed hmarker hindex
    · simpa [markerIndex, hindex] using .parameter hmarker hindex

theorem expression_of_literalNode? {kind : LiteralKind} {node : Node} (hhollow : ¬IsHollow n)
    (hmarker : n.solely? .parameterMarker = none) (hliteral : literalNode? n = some (kind, node)) :
    (s.expression n).outcome = (s.literalAt kind node).outcome.map (.literal n.span) := by
  unfold expression expression?
  rw [if_neg (isHollow_iff.not.mpr hhollow)]
  simp only [hmarker, hliteral]
  rcases s.literalAt kind node with ⟨records, e | value⟩ <;> rfl

section Numbers

variable {value node : Node}

theorem literalNode?_number (h : value.solely? .numberLiterals = some node) :
    literalNode? value = some (.number, node) := by
  simp [literalNode?, LiteralKind.all, LiteralKind.rule, h]

theorem not_isHollow_of_solely? {r : Rule} (hrule : value.isRule r = false)
    (h : value.solely? r = some node) : ¬IsHollow value := by
  rintro ⟨-, hchildren⟩
  obtain ⟨hnarrows, hnode⟩ := Node.solely?_eq_some h
  cases hnarrows with
  | refl => simp [hrule] at hnode
  | step honly _ => simp [hchildren] at honly

theorem expression_of_number {x : Literal} (hrule : value.isRule .numberLiterals = false)
    (hmarker : value.solely? .parameterMarker = none)
    (hnode : value.solely? .numberLiterals = some node)
    (hx : LiteralKind.number.Denotes (Blank.trim (s.tree.textOf node)) x) :
    (s.expression value).outcome = .ok (.literal value.span x) := by
  rw [expression_of_literalNode? (not_isHollow_of_solely? hrule hnode) hmarker
    (literalNode?_number hnode), literalAt_eq_ok_iff.mpr hx]
  rfl

end Numbers

end StatementSegments.Statement
