import StatementSegments.Proofs.BoundSources

namespace StatementSegments

namespace LiteralKind

variable {text : String} {v : ℤ}

theorem denotes_of_int64 (h : Numeral.Writes text.toList v) (hlow : -2 ^ 63 ≤ v)
    (hhigh : v < 2 ^ 63) : number.Denotes text (.integer (Int64.ofInt v)) := by
  rw [← Int64.toInt_ofInt_of_le hlow hhigh] at h
  exact .integer h

/-- An integer of more than 64 bits is read as a decimal. -/
theorem denotes_of_not_int64 (h : Numeral.Writes text.toList v) (hout : v < -2 ^ 63 ∨ 2 ^ 63 ≤ v) :
    ∃ x, number.Denotes text (.decimal x) ∧
      x.toInt64? = if -2 ^ 63 - 2 ^ 10 ≤ v ∧ v < 0 then some Int64.minValue else none := by
  obtain ⟨negative, n, hv, hwrites⟩ := h.writesBinary64
  refine ⟨.ofQuotient negative n 1, .decimal ?_ hwrites, ?_⟩
  · intro k hk
    have hlow : -2 ^ 63 ≤ k.toInt := k.minValue_le_toInt
    have hhigh : k.toInt ≤ 2 ^ 63 - 1 := k.toInt_le
    have heq := h.unique hk
    omega
  · have hn : 2 ^ 63 ≤ n := by
      cases negative <;> simp at hv <;> omega
    rw [Binary64.toInt64?_ofQuotient_one negative hn]
    refine if_congr ?_ rfl rfl
    cases negative <;> simp at hv ⊢ <;> omega

theorem exists_denotes_of_writes (h : Numeral.Writes text.toList v) :
    ∃ x, number.Denotes text x ∧
      (-2 ^ 63 ≤ v → v < 2 ^ 63 → x.toInt64? = some (Int64.ofInt v)) ∧
      (-2 ^ 63 - 2 ^ 10 ≤ v → v < -2 ^ 63 → x.toInt64? = some Int64.minValue) ∧
      (v < -2 ^ 63 - 2 ^ 10 ∨ 2 ^ 63 ≤ v → x.toInt64? = none) := by
  by_cases hrange : -2 ^ 63 ≤ v ∧ v < 2 ^ 63
  · refine ⟨_, denotes_of_int64 h hrange.1 hrange.2, fun _ _ => rfl, ?_, ?_⟩ <;> omega
  · obtain ⟨x, hdenotes, hvalue⟩ := denotes_of_not_int64 h (by omega)
    refine ⟨_, hdenotes, fun hlow hhigh => absurd ⟨hlow, hhigh⟩ hrange, ?_, ?_⟩
    · intro hlow hhigh
      exact hvalue.trans (if_pos ⟨hlow, by omega⟩)
    · intro hout
      exact hvalue.trans (if_neg (by omega))

end LiteralKind

namespace Bound

variable {construct : String} {span : Span} {x : Literal}

theorem ofExpression_of_none (h : x.toInt64? = none) :
    ofExpression construct (.literal span x) =
      .error (.unsupported construct (Expression.literal span x).describe span) := by
  simp only [ofExpression, h]

end Bound

namespace Node

/-- Whether a node holds the value of a clause that limits rows. -/
def IsBoundValue (n : Node) : Prop :=
  n.isRule .expr = true ∨ n.isRule .limitOffset = true ∨ n.isRule .limitRowCount = true

theorem IsBoundValue.not_number {n : Node} (h : n.IsBoundValue) : n.isRule .numberLiterals = false := by
  rcases h with h | h | h <;> exact isRule_eq_false_of_ne h (by decide)

end Node

namespace Statement

variable {s : Statement} {value node : Node} {v : ℤ}

/-- A value node whose first number is written as an integer and that is no parameter marker. -/
structure IsIntegerValue (s : Statement) (value : Node) (v : ℤ) : Prop where
  isBoundValue : value.IsBoundValue
  noMarker : ∀ w, value.NarrowsTo w → w.isRule .parameterMarker = false
  writes : ∃ node, value.solely? .numberLiterals = some node ∧
    Numeral.Writes (Blank.trim (s.tree.textOf node)).toList v

/-- An integer of 64 bits is the bound it is written as. Integers up to 2¹⁰ below the least one
are rounded to it and are taken for it, and all others are refused. -/
theorem bound_of_isIntegerValue (h : s.IsIntegerValue value v) (construct : String) :
    ∃ e, (s.expression value).outcome = .ok e ∧
      (-2 ^ 63 ≤ v → v < 2 ^ 63 →
        ∃ k : Int64, k.toInt = v ∧ Bound.ofExpression construct e = .ok (.ofLiteral k)) ∧
      (-2 ^ 63 - 2 ^ 10 ≤ v → v < -2 ^ 63 →
        Bound.ofExpression construct e = .ok (.ofLiteral Int64.minValue)) ∧
      (v < -2 ^ 63 - 2 ^ 10 ∨ 2 ^ 63 ≤ v →
        Bound.ofExpression construct e = .error (.unsupported construct e.describe value.span)) := by
  obtain ⟨node, hnode, hwrites⟩ := h.writes
  obtain ⟨x, hdenotes, hin, hnear, hfar⟩ := LiteralKind.exists_denotes_of_writes hwrites
  have hmarker := Node.solely?_eq_none_of_narrowsTo h.noMarker
  refine ⟨.literal value.span x,
    expression_of_number h.isBoundValue.not_number hmarker hnode hdenotes, ?_, ?_, ?_⟩
  · intro hlow hhigh
    exact ⟨.ofInt v, Int64.toInt_ofInt_of_le hlow hhigh,
      Bound.ofExpression_of_some (hin hlow hhigh)⟩
  · intro hlow hhigh
    exact Bound.ofExpression_of_some (hnear hlow hhigh)
  · intro hout
    exact Bound.ofExpression_of_none (hfar hout)

end Statement

def belowLeastNumber : Node :=
  .rule 3 "numberLiterals" ⟨6, 25⟩ [.token 4 "NUMBER_" ⟨6, 25⟩]

def belowLeastValue : Node :=
  .rule 2 "limitRowCount" ⟨6, 25⟩ [belowLeastNumber]

def belowLeastTree : ParseTree where
  text := StatementText.ofString "LIMIT -9223372036854775809"
  root := .rule 0 "limitClause" ⟨0, 25⟩ [.token 1 "LIMIT" ⟨0, 4⟩, belowLeastValue]

def belowLeast : Statement :=
  ⟨belowLeastTree, .ofNode belowLeastTree.root⟩

theorem belowLeastTree_isBuilt : belowLeastTree.IsBuilt :=
  ⟨"LIMIT -9223372036854775809", belowLeastTree.root.steps, rfl⟩

theorem trim_belowLeast :
    Blank.trim (belowLeastTree.textOf belowLeastNumber) = "-9223372036854775809" := by
  rfl

theorem writes_belowLeast : Numeral.Writes "-9223372036854775809".toList (-2 ^ 63 - 1) := by
  have hdigits : Numeral.IsDigits "9223372036854775809".toList := by decide
  exact .minus hdigits

theorem isIntegerValue_belowLeast : belowLeast.IsIntegerValue belowLeastValue (-2 ^ 63 - 1) := by
  have hall : ∀ w ∈ belowLeastValue.nodes, w.isRule .parameterMarker = false := by decide
  refine ⟨Or.inr (Or.inr (by decide)), fun w hw => hall w hw.mem_nodes, belowLeastNumber, rfl, ?_⟩
  rw [belowLeast, trim_belowLeast]
  exact writes_belowLeast

theorem bound_belowLeast :
    belowLeast.IsIntegerValue belowLeastValue (-2 ^ 63 - 1) ∧
      ∃ e, (belowLeast.expression belowLeastValue).outcome = .ok e ∧
        Bound.ofExpression "LIMIT row count" e = .ok (.ofLiteral Int64.minValue) := by
  obtain ⟨e, he, -, hnear, -⟩ :=
    Statement.bound_of_isIntegerValue isIntegerValue_belowLeast "LIMIT row count"
  exact ⟨isIntegerValue_belowLeast, e, he, hnear (by decide) (by decide)⟩

/-- Not every integer of more than 64 bits is refused. -/
theorem not_forall_large_refused :
    ¬∀ (s : Statement) (value : Node) (v : ℤ) (construct : String) (e : Expression),
      s.tree.IsBuilt → s.IsIntegerValue value v → v < -2 ^ 63 ∨ 2 ^ 63 ≤ v →
        (s.expression value).outcome = .ok e →
          Bound.ofExpression construct e =
            .error (.unsupported construct e.describe value.span) := by
  intro h
  obtain ⟨x, hdenotes, -, hnear, -⟩ := LiteralKind.exists_denotes_of_writes writes_belowLeast
  have hnode : belowLeastValue.solely? .numberLiterals = some belowLeastNumber := rfl
  have he : (belowLeast.expression belowLeastValue).outcome = .ok (.literal ⟨6, 25⟩ x) := by
    refine Statement.expression_of_number (by decide) rfl hnode ?_
    rw [belowLeast, trim_belowLeast]
    exact hdenotes
  have hrefused := h belowLeast _ _ "LIMIT row count" _ belowLeastTree_isBuilt
    isIntegerValue_belowLeast (Or.inl (by decide)) he
  rw [Bound.ofExpression_of_some (hnear (by decide) (by decide))] at hrefused
  cases hrefused

end StatementSegments
