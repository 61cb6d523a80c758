import StatementSegments.Proofs.ResolvedExpressions
import StatementSegments.Proofs.StepStreams
import StatementSegments.Proofs.TrimmedTexts

namespace StatementSegments

namespace StringLiteral

/-- The literals of a text: it stands between quotes of either kind and has such quotes doubled, and
the letter N in either case may come before single quotes. -/
inductive Writes : List Char → List Char → Prop where
  | singleQuoted (text : List Char) : Writes ('\'' :: (double '\'' text ++ ['\''])) text
  | national {n : Char} (hn : n = 'N' ∨ n = 'n') (text : List Char) :
      Writes (n :: '\'' :: (double '\'' text ++ ['\''])) text
  | doubleQuoted (text : List Char) : Writes ('"' :: (double '"' text ++ ['"'])) text

variable {literal text : List Char}

theorem Writes.exists_isQuoted (h : Writes literal text) :
    ∃ quote, IsQuoted quote (double quote text) literal := by
  cases h with
  | singleQuoted text => exact ⟨'\'', .singleQuoted _⟩
  | national hn text => exact ⟨'\'', .national hn _⟩
  | doubleQuoted text => exact ⟨'"', .doubleQuoted _⟩

theorem Writes.unquoteChars_eq (h : Writes literal text) : unquoteChars literal = text := by
  obtain ⟨quote, hquoted⟩ := h.exists_isQuoted
  rw [hquoted.unquoteChars_eq, collapse_double]

theorem Writes.unquote_eq {literal text : String} (h : Writes literal.toList text.toList) :
    unquote literal = text := by
  rw [unquote, h.unquoteChars_eq, String.ofList_toList]

theorem Writes.isBlank_head (h : Writes literal text) :
    ∀ c ∈ literal.head?, Blank.isBlank c = false := by
  cases h with
  | national hn text =>
      rintro _ ⟨⟩
      rcases hn with rfl | rfl <;> rfl
  | _ text =>
      rintro _ ⟨⟩
      rfl

theorem Writes.isBlank_last (h : Writes literal text) :
    ∀ c ∈ literal.getLast?, Blank.isBlank c = false := by
  have hconcat : ∃ init quote, literal = init ++ [quote] ∧ (quote = '\'' ∨ quote = '"') := by
    cases h with
    | singleQuoted text => exact ⟨'\'' :: double '\'' text, '\'', rfl, Or.inl rfl⟩
    | @national n hn text =>
        exact ⟨n :: '\'' :: double '\'' text, '\'', rfl, Or.inl rfl⟩
    | doubleQuoted text => exact ⟨'"' :: double '"' text, '"', rfl, Or.inr rfl⟩
  obtain ⟨init, quote, rfl, hquote⟩ := hconcat
  rw [List.getLast?_concat]
  rintro _ ⟨⟩
  rcases hquote with rfl | rfl <;> rfl

end StringLiteral

namespace Statement

variable {s : Statement} {n w : Node} {value : String}

/-- The nodes that a node narrows to have a string literal of a text among them, with or without
blanks around it, and neither a parameter marker nor a number. -/
structure ReachesString (s : Statement) (n w : Node) (value : String) : Prop where
  narrowsTo : n.NarrowsTo w
  isRule : w.isRule .stringLiterals = true
  writes : ∃ before literal after, (s.tree.textOf w).toList = before ++ literal ++ after ∧
    (∀ c ∈ before ++ after, Blank.isBlank c = true) ∧ StringLiteral.Writes literal value.toList
  only : ∀ v, n.NarrowsTo v →
    v.isRule .parameterMarker = false ∧ v.isRule .numberLiterals = false

theorem ReachesString.denotes (h : s.ReachesString n w value) :
    LiteralKind.string.Denotes (Blank.trim (s.tree.textOf w)) (.string value) := by
  obtain ⟨before, literal, after, htext, hblank, hwrites⟩ := h.writes
  have htrim : (Blank.trim (s.tree.textOf w)).toList = literal := by
    rw [Blank.toList_trim, htext]
    apply Blank.trimChars_append _ _ ⟨hwrites.isBlank_head, hwrites.isBlank_last⟩
    · exact fun c hc => hblank c (List.mem_append_left _ hc)
    · exact fun c hc => hblank c (List.mem_append_right _ hc)
  rw [← htrim] at hwrites
  exact .string (StringLiteral.unquote_eq_iff.mp hwrites.unquote_eq)

theorem literalNode?_string (hnumber : n.solely? .numberLiterals = none)
    (hstring : n.solely? .stringLiterals = some w) : literalNode? n = some (.string, w) := by
  simp [literalNode?, LiteralKind.all, LiteralKind.rule, hnumber, hstring]

theorem ReachesString.expression_eq (h : s.ReachesString n w value)
    (hfirst : n.solely? .stringLiterals = some w) (hchildren : n.children ≠ []) :
    (s.expression n).outcome = .ok (.literal n.span (.string value)) := by
  have hmarker := Node.solely?_eq_none_of_narrowsTo fun v hv => (h.only v hv).1
  have hnumber := Node.solely?_eq_none_of_narrowsTo fun v hv => (h.only v hv).2
  have hhollow : ¬IsHollow n := fun hhollow => hchildren hhollow.2
  rw [expression_of_literalNode? hhollow hmarker (literalNode?_string hnumber hfirst),
    literalAt_eq_ok_iff.mpr h.denotes]
  rfl

end Statement

/-- A text is read back from each of its literals, and a node whose first string literal is one of
them resolves to the text. -/
theorem string_literals_read :
    (∀ literal text : String, StringLiteral.Writes literal.toList text.toList →
      StringLiteral.unquote literal = text) ∧
    ∀ (s : Statement) (n w : Node) (value : String), s.ReachesString n w value →
      n.solely? .stringLiterals = some w → n.children ≠ [] →
        (s.expression n).outcome = .ok (.literal n.span (.string value)) := by
  refine ⟨?_, ?_⟩
  · intro literal text h
    exact h.unquote_eq
  · intro s n w value h hfirst hchildren
    exact h.expression_eq hfirst hchildren

def nationalLiteral : Node :=
  .rule 1 "stringLiterals" ⟨0, 8⟩ [.token 2 "STRING_" ⟨0, 7⟩]

def nationalExpression : Node :=
  .rule 0 "expr" ⟨0, 8⟩ [nationalLiteral]

def nationalStatement : Statement where
  tree := ⟨StatementText.ofString "N'it''s' ", nationalExpression⟩
  markers := .empty

theorem reachesString_national :
    nationalStatement.ReachesString nationalExpression nationalLiteral "it's" where
  narrowsTo := .step rfl (.refl nationalLiteral)
  isRule := by decide
  writes := by
    refine ⟨[], "N'it''s'".toList, [' '], ?_, ?_, ?_⟩
    · have htext : nationalStatement.tree.textOf nationalLiteral = "N'it''s' " := rfl
      rw [htext]
      decide
    · exact List.all_eq_true.mp (by decide)
    · exact .national (Or.inl rfl) "it's".toList
  only := by
    have hall : ∀ v ∈ nationalExpression.nodes,
        v.isRule .parameterMarker = false ∧ v.isRule .numberLiterals = false := by
      decide
    exact fun v hv => hall v hv.mem_nodes

theorem nationalExpression_read :
    StringLiteral.unquote "N'it''s'" = "it's" ∧
      nationalStatement.ReachesString nationalExpression nationalLiteral "it's" ∧
      (nationalStatement.expression nationalExpression).outcome =
        .ok (.literal ⟨0, 8⟩ (.string "it's")) := by
  obtain ⟨hunquote, hexpression⟩ := string_literals_read
  have hwrites : StringLiteral.Writes "N'it''s'".toList "it's".toList :=
    .national (Or.inl rfl) "it's".toList
  refine ⟨hunquote _ _ hwrites, reachesString_national, ?_⟩
  exact hexpression _ _ nationalLiteral _ reachesString_national rfl (List.cons_ne_nil _ _)

/-- A string literal below another one, without a token of its own. -/
def innerLiteral : Node :=
  .rule 2 "stringLiterals" ⟨0, 2⟩ []

def outerExpression : Node :=
  .rule 0 "expr" ⟨0, 6⟩ [.rule 1 "stringLiterals" ⟨0, 6⟩ [innerLiteral]]

def nestedLiterals : Statement where
  tree := ⟨StatementText.ofString "'a' 'b'", outerExpression⟩
  markers := .empty

theorem nestedLiterals_isBuilt : nestedLiterals.tree.IsBuilt :=
  ⟨"'a' 'b'", outerExpression.steps, rfl⟩

theorem outerExpression_narrowsTo : outerExpression.NarrowsTo innerLiteral :=
  .step rfl (.step rfl (.refl innerLiteral))

theorem reachesString_nested {n : Node} (hn : n ∈ nestedLiterals.tree.nodes)
    (h : n.NarrowsTo innerLiteral) : nestedLiterals.ReachesString n innerLiteral "a" where
  narrowsTo := h
  isRule := by decide
  writes := by
    refine ⟨[], "'a'".toList, [], ?_, ?_, ?_⟩
    · have htext : nestedLiterals.tree.textOf innerLiteral = "'a'" := rfl
      rw [htext]
      decide
    · exact List.all_eq_true.mp (by decide)
    · exact .singleQuoted "a".toList
  only := by
    have hall : ∀ v ∈ nestedLiterals.tree.nodes,
        v.isRule .parameterMarker = false ∧ v.isRule .numberLiterals = false := by
      decide
    exact fun v hv => hall v (Node.mem_nodes_trans hv.mem_nodes hn)

/-- A literal further down does not count, and neither does one that holds nothing and is the
expression itself. -/
theorem not_forall_reached_read :
    (¬∀ (s : Statement) (n w : Node) (value : String), s.tree.IsBuilt → n ∈ s.tree.nodes →
      s.ReachesString n w value → n.children ≠ [] →
        (s.expression n).outcome = .ok (.literal n.span (.string value))) ∧
    ¬∀ (s : Statement) (n w : Node) (value : String), s.tree.IsBuilt → n ∈ s.tree.nodes →
      s.ReachesString n w value → n.solely? .stringLiterals = some w →
        (s.expression n).outcome = .ok (.literal n.span (.string value)) := by
  constructor
  · intro h
    have hmem : outerExpression ∈ nestedLiterals.tree.nodes := Node.self_mem_nodes _
    have hread := h nestedLiterals outerExpression innerLiteral "a" nestedLiterals_isBuilt hmem
      (reachesString_nested hmem outerExpression_narrowsTo) (List.cons_ne_nil _ _)
    have hactual : (nestedLiterals.expression outerExpression).outcome =
        .ok (.literal ⟨0, 6⟩ (.string "a' 'b")) := by
      rfl
    rw [hactual] at hread
    have hvalue := (Expression.literal.inj (Except.ok.inj hread)).2
    exact absurd (Literal.string.inj hvalue) (by decide)
  · intro h
    have hmem : innerLiteral ∈ nestedLiterals.tree.nodes := outerExpression_narrowsTo.mem_nodes
    have hread := h nestedLiterals innerLiteral innerLiteral "a" nestedLiterals_isBuilt hmem
      (reachesString_nested hmem (.refl innerLiteral)) rfl
    have hactual : (nestedLiterals.expression innerLiteral).outcome =
        .error (.unresolvedExpression ⟨0, 2⟩) := by
      rfl
    rw [hactual] at hread
    cases hread

end StatementSegments
