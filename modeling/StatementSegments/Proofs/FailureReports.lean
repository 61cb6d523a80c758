import StatementSegments.Proofs.BoundSources
import StatementSegments.Proofs.SelectStages
import StatementSegments.Proofs.StepStreams

namespace StatementSegments

/-- The record is no sign of a failure. -/
def LogRecord.IsQuiet (r : LogRecord) : Prop :=
  r.level ≠ .error ∧ r.level ≠ .warn

theorem LogRecord.isQuiet_debug (message : String) : (mk .debug message).IsQuiet :=
  ⟨by simp, by simp⟩

theorem LogRecord.isQuiet_trace (message : String) : (mk .trace message).IsQuiet :=
  ⟨by simp, by simp⟩

namespace Logged

variable {ε α β : Type} {logged : ε → List LogRecord → Prop} {x : Logged ε α} {f : α → Logged ε β}

/-- Only quiet records, and after them those that log the failure, if there is one. -/
inductive Reports (logged : ε → List LogRecord → Prop) : Logged ε α → Prop where
  | ok {records : List LogRecord} {a : α} (hquiet : ∀ r ∈ records, r.IsQuiet) :
      Reports logged ⟨records, .ok a⟩
  | error {quiet last : List LogRecord} {e : ε} (hquiet : ∀ r ∈ quiet, r.IsQuiet)
      (hlast : logged e last) : Reports logged ⟨quiet ++ last, .error e⟩

namespace Reports

theorem of_error {e : ε} (hx : Reports logged x) (h : x.outcome = .error e) :
    ∃ quiet last, x.records = quiet ++ last ∧ (∀ r ∈ quiet, r.IsQuiet) ∧ logged e last := by
  cases hx with
  | ok hquiet => cases h
  | error hquiet hlast =>
      cases h
      exact ⟨_, _, rfl, hquiet, hlast⟩

theorem pure (a : α) : Reports logged (Pure.pure a : Logged ε α) :=
  .ok (List.forall_mem_nil _)

theorem failed {e : ε} {last : List LogRecord} (h : logged e last) :
    Reports logged (⟨last, .error e⟩ : Logged ε α) := by
  rw [← List.nil_append last]
  exact .error (List.forall_mem_nil _) h

theorem fail {e : ε} (h : logged e []) : Reports logged (Logged.fail e : Logged ε α) :=
  failed h

theorem logFail {e : ε} {level : LogLevel} {message : String} (h : logged e [⟨level, message⟩]) :
    Reports logged (log level message >>= fun _ => (Logged.fail e : Logged ε α)) :=
  failed h

theorem andThen {records : List LogRecord} (hquiet : ∀ r ∈ records, r.IsQuiet)
    (hx : Reports logged x) : Reports logged (Logged.andThen records x) := by
  cases hx with
  | ok hnext => exact .ok (List.forall_mem_append.mpr ⟨hquiet, hnext⟩)
  | @error quiet last e hnext hlast =>
      have hrecords : records ++ (quiet ++ last) = records ++ quiet ++ last :=
        (List.append_assoc records quiet last).symm
      rw [Logged.andThen, hrecords]
      exact .error (List.forall_mem_append.mpr ⟨hquiet, hnext⟩) hlast

theorem bind (hx : Reports logged x) (hf : ∀ a, x.outcome = .ok a → Reports logged (f a)) :
    Reports logged (x >>= f) := by
  cases hx with
  | ok hquiet => exact (hf _ rfl).andThen hquiet
  | error hquiet hlast => exact .error hquiet hlast

theorem log_bind {level : LogLevel} {message : String} {next : Unit → Logged ε α}
    (hquiet : (LogRecord.mk level message).IsQuiet) (h : Reports logged (next ())) :
    Reports logged (log level message >>= next) :=
  h.andThen (List.forall_mem_singleton.mpr hquiet)

theorem mapM_option {o : Option α} (h : ∀ a, o = some a → Reports logged (f a)) :
    Reports logged (o.mapM f) := by
  cases o with
  | none => exact pure none
  | some a =>
      rw [Option.mapM_some, map_eq_pure_bind]
      exact (h a rfl).bind fun b _ => pure (some b)

theorem mapM_list {as : List α} (h : ∀ a ∈ as, Reports logged (f a)) :
    Reports logged (as.mapM f) := by
  induction as with
  | nil => exact pure []
  | cons a as ih =>
      rw [List.mapM_cons]
      refine (h a List.mem_cons_self).bind fun b _ => ?_
      exact (ih fun a ha => h a (List.mem_cons_of_mem _ ha)).bind fun bs _ => pure (b :: bs)

theorem ite {c : Prop} [Decidable c] {y : Logged ε α} (hx : Reports logged x)
    (hy : Reports logged y) : Reports logged (if c then x else y) := by
  split
  · exact hx
  · exact hy

theorem ite_bind {c : Prop} [Decidable c] {y : Logged ε α} (hx : Reports logged x)
    (hy : Reports logged y) (hf : ∀ a, Reports logged (f a)) :
    Reports logged (if c then x >>= f else y >>= f) :=
  ite (hx.bind fun a _ => hf a) (hy.bind fun a _ => hf a)

theorem reporting {r : Except ε α} {level : LogLevel} {message : ε → String}
    (h : ∀ e, r = .error e → logged e [⟨level, message e⟩]) :
    Reports logged ((ofExcept r).reporting level message) := by
  cases r with
  | ok a => exact pure a
  | error e => exact failed (h e rfl)

end Reports

end Logged

namespace ExtractionError

/-- How an error is logged. There is no case for an owner bound twice, which no extraction comes to.
-/
inductive IsLoggedAs : ExtractionError → List LogRecord → Prop where
  | missingNode (rule : Rule) (parent : String) (start : Nat) (message : String) :
      IsLoggedAs (.missingNode rule parent start) [⟨.error, message⟩]
  | unindexedParameterMarker (start : Nat) (message : String) :
      IsLoggedAs (.unindexedParameterMarker start) [⟨.error, message⟩]
  | unresolvedExpression (span : Span) (message : String) :
      IsLoggedAs (.unresolvedExpression span) [⟨.error, message⟩]
  | invalidLiteral (text : String) (start : Nat) : IsLoggedAs (.invalidLiteral text start) []
  | unsupported (construct text : String) (span : Span) :
      IsLoggedAs (.unsupported construct text span)
        [⟨.warn, (ExtractionError.unsupported construct text span).message⟩]

theorem IsLoggedAs.exists_level_error_iff {e : ExtractionError} {last : List LogRecord}
    (h : e.IsLoggedAs last) :
    (∃ r ∈ last, r.level = .error) ↔
      e.isInternal = true ∧ ∀ text start, e ≠ .invalidLiteral text start := by
  cases h <;> simp [isInternal]

end ExtractionError

open ExtractionError

namespace Node

theorem required_reports (n : Node) (r : Rule) : (n.required r).Reports IsLoggedAs := by
  unfold required
  cases n.nearest? r with
  | none => exact .logFail (.missingNode ..)
  | some found => exact .pure found

end Node

namespace ParseTree

variable {tree : ParseTree}

theorem columnAt_reports (n : Node) : (tree.columnAt n).Reports IsLoggedAs :=
  (n.required_reports .name).bind fun _ _ => .pure _

theorem tableAt_reports (n : Node) : (tree.tableAt n).Reports IsLoggedAs :=
  (n.required_reports .name).bind fun _ _ => .pure _

theorem column?_reports (n : Node) : (tree.column? n).Reports IsLoggedAs :=
  .mapM_option fun m _ => columnAt_reports m

theorem columns_reports (n : Node) : (tree.columns n).Reports IsLoggedAs :=
  .mapM_list fun m _ => columnAt_reports m

theorem tables_reports (n : Node) : (tree.tables n).Reports IsLoggedAs :=
  .mapM_list fun m _ => tableAt_reports m

end ParseTree

theorem Column.bindOwner_of_unbound {c : Column} (h : c.owner = none) (owner : TableRef) :
    c.bindOwner owner = .ok { c with owner := some owner } := by
  simp [bindOwner, h]

theorem Column.resolve_reports {c : Column} (hunbound : c.owner = none) (tables : List Table) :
    (c.resolve tables).Reports IsLoggedAs := by
  unfold resolve
  cases c.owner? tables with
  | some owner =>
      dsimp only
      rw [bindOwner_of_unbound hunbound]
      exact .pure _
  | none =>
      cases c.unboundReason? tables with
      | none => exact .pure c
      | some reason => exact .log_bind (LogRecord.isQuiet_debug reason) (.pure c)

theorem resolveOwners_reports {columns : List Column} (hunbound : ∀ c ∈ columns, c.owner = none)
    (tables : List Table) : (resolveOwners columns tables).Reports IsLoggedAs :=
  .mapM_list fun c hc => c.resolve_reports (hunbound c hc) tables

namespace Statement

variable (s : Statement)

theorem markerIndex_reports (marker : Node) : (s.markerIndex marker).Reports IsLoggedAs := by
  unfold markerIndex
  cases s.markers.number? marker.id with
  | none => exact .logFail (.unindexedParameterMarker ..)
  | some index => exact .pure index

theorem literalAt_reports (kind : LiteralKind) (n : Node) :
    (s.literalAt kind n).Reports IsLoggedAs := by
  unfold literalAt
  dsimp only
  cases kind.read? (Blank.trim (s.tree.textOf n)) with
  | none => exact .fail (.invalidLiteral ..)
  | some value => exact .pure value

theorem expression?_reports (n : Node) : (s.expression? n).Reports IsLoggedAs := by
  unfold expression?
  refine .ite (.pure none) ?_
  split
  · exact (s.markerIndex_reports _).bind fun _ _ => .pure _
  split
  · exact (s.literalAt_reports _ _).bind fun _ _ => .pure _
  split
  · exact (ParseTree.column?_reports _).bind fun _ _ => .pure _
  · exact .pure _

theorem expression_reports (n : Node) : (s.expression n).Reports IsLoggedAs := by
  refine (s.expression?_reports n).bind fun found _ => ?_
  cases found with
  | none => exact .logFail (.unresolvedExpression ..)
  | some e => exact .pure e

theorem boundAt_reports (construct : String) (value : Node) :
    (s.boundAt construct value).Reports IsLoggedAs := by
  refine (s.expression_reports value).bind fun e _ => ?_
  refine Logged.Reports.bind (.reporting fun error herror => ?_) fun _ _ => .pure _
  obtain ⟨text, span, rfl⟩ := Bound.ofExpression_eq_error herror
  exact .unsupported construct text span

theorem scopeOf_reports (clause : Node) : (s.scopeOf clause).Reports IsLoggedAs := by
  unfold scopeOf
  cases s.tree.parent? clause.id with
  | none => exact .logFail (.missingNode ..)
  | some scope => exact .pure scope

theorem top?_reports (n : Node) : (s.top? n).Reports IsLoggedAs := by
  unfold top?
  cases n.nearest? .top with
  | none => exact .log_bind (LogRecord.isQuiet_trace _) (.pure none)
  | some clause =>
      refine (clause.required_reports .expr).bind fun value _ => ?_
      refine (s.boundAt_reports _ value).bind fun b _ => ?_
      refine (s.scopeOf_reports clause).bind fun scope _ => ?_
      refine (scope.required_reports .aliasName).bind fun aliasNode _ => ?_
      exact .log_bind (LogRecord.isQuiet_debug _) (.pure _)

theorem limit?_reports (n : Node) : (s.limit? n).Reports IsLoggedAs := by
  unfold limit?
  cases n.nearest? .limitClause with
  | none => exact .log_bind (LogRecord.isQuiet_trace _) (.pure none)
  | some clause =>
      refine Logged.Reports.bind (.mapM_option fun value _ => s.boundAt_reports _ value) ?_
      rintro offset -
      refine Logged.Reports.bind (.mapM_option fun value _ => s.boundAt_reports _ value) ?_
      rintro rowCount -
      exact .pure _

theorem select_reports (dialect : Dialect) : (s.select dialect).Reports IsLoggedAs := by
  refine (ParseTree.tables_reports _).bind fun tables _ => ?_
  refine (ParseTree.columns_reports _).bind fun columns hcolumns => ?_
  have hunbound := ParseTree.columns_unbound hcolumns
  refine (resolveOwners_reports hunbound tables).bind fun resolved _ => ?_
  refine .ite_bind (s.top?_reports _) (.pure none) fun top => ?_
  refine .ite_bind (s.limit?_reports _) (.pure none) fun limit => ?_
  exact .log_bind (LogRecord.isQuiet_debug _) (.pure _)

variable {s} {dialect : Dialect} {e : ExtractionError}

/-- An extraction that fails on the tree logs an error, unless it fails on an invalid literal. -/
theorem select_logs_internal (h : (s.select dialect).outcome = .error e)
    (hinternal : e.isInternal = true) :
    (∃ r ∈ (s.select dialect).records, r.level = .error) ↔
      ∀ text start, e ≠ .invalidLiteral text start := by
  obtain ⟨quiet, last, hrecords, hquiet, hlast⟩ := (s.select_reports dialect).of_error h
  have hnone : ¬∃ r ∈ quiet, r.level = .error := by
    rintro ⟨r, hr, hlevel⟩
    exact (hquiet r hr).1 hlevel
  simp only [hrecords, List.mem_append, or_and_right, exists_or, hnone, false_or,
    hlast.exists_level_error_iff, hinternal, true_and]

end Statement

def namelessTree : ParseTree where
  text := StatementText.ofString "t"
  root := .rule 0 "tableName" ⟨0, 0⟩ [.token 1 "IDENTIFIER_" ⟨0, 0⟩]

theorem select_namelessTree :
    (Statement.select .mySql ⟨namelessTree, ⟨[]⟩⟩).outcome =
      .error (.missingNode .name "tableName" 0) :=
  Statement.select_eq_error_iff.mpr
    (Or.inl (ParseTree.tables_eq_error_iff.mpr ⟨namelessTree.root, rfl, rfl⟩))

theorem namelessTree_logs_internal :
    (Statement.select .mySql ⟨namelessTree, ⟨[]⟩⟩).outcome =
        .error (.missingNode .name "tableName" 0) ∧
      ∃ r ∈ (Statement.select .mySql ⟨namelessTree, ⟨[]⟩⟩).records,
        r.level = .error :=
  ⟨select_namelessTree, (Statement.select_logs_internal select_namelessTree rfl).mpr (by simp)⟩

def wordNode : Node :=
  .rule 3 "booleanLiterals" ⟨6, 6⟩ [.token 4 "IDENTIFIER_" ⟨6, 6⟩]

def wordValue : Node :=
  .rule 2 "limitRowCount" ⟨6, 6⟩ [wordNode]

def wordTree : ParseTree where
  text := StatementText.ofString "LIMIT x"
  root := .rule 0 "limitClause" ⟨0, 6⟩ [.token 1 "LIMIT" ⟨0, 4⟩, wordValue]

theorem wordTree_isBuilt : wordTree.IsBuilt :=
  ⟨"LIMIT x", wordTree.root.steps, rfl⟩

def wordStatement : Statement :=
  ⟨wordTree, ⟨[]⟩⟩

theorem expression_wordValue :
    (wordStatement.expression wordValue).outcome = .error (.invalidLiteral "x" 6) := by
  have htext : Blank.trim (wordTree.textOf wordNode) = "x" := rfl
  have hread : LiteralKind.boolean.read? "x" = none := by decide
  have hhollow : ¬Statement.IsHollow wordValue := by
    rintro ⟨-, hchildren⟩
    cases hchildren
  have hliteral : Statement.literalNode? wordValue = some (.boolean, wordNode) := rfl
  rw [Statement.expression_of_literalNode? hhollow rfl hliteral]
  simp only [Statement.literalAt, wordStatement, htext, hread]
  rfl

theorem select_wordTree :
    (wordStatement.select .mySql).outcome = .error (.invalidLiteral "x" 6) := by
  have hclause : wordTree.root.nearest? .limitClause = some wordTree.root := by
    with_unfolding_all rfl
  have hvalue : wordTree.root.nearest? .limitRowCount = some wordValue := by with_unfolding_all rfl
  have hoffset : wordTree.root.nearest? .limitOffset = none := by with_unfolding_all rfl
  have hlimit : (wordStatement.limit? wordTree.root).outcome = .error (.invalidLiteral "x" 6) := by
    refine (Statement.limit?_eq_error_iff hclause).mpr (Or.inr ⟨⟨none, ?_⟩, wordValue, hvalue, ?_⟩)
    · rw [hoffset]
      rfl
    · exact Logged.outcome_bind_of_error expression_wordValue
  have htables : (wordTree.tables wordTree.root).outcome = .ok [] := by with_unfolding_all rfl
  have hcolumns : (wordTree.columns wordTree.root).outcome = .ok [] := by with_unfolding_all rfl
  refine Statement.select_eq_error_iff.mpr (Or.inr ⟨[], htables, Or.inr ⟨[], hcolumns, ?_⟩⟩)
  refine Logged.outcome_bind_eq_error_iff.mpr (Or.inr ⟨none, rfl, ?_⟩)
  exact Logged.outcome_bind_of_error hlimit

/-- Not every internal error is logged. -/
theorem not_forall_internal_logged :
    ¬∀ (s : Statement) (dialect : Dialect) (e : ExtractionError), s.tree.IsBuilt →
      (s.select dialect).outcome = .error e → e.isInternal = true →
        ∃ r ∈ (s.select dialect).records, r.level = .error := by
  intro h
  obtain ⟨r, hr, hlevel⟩ := h wordStatement .mySql _ wordTree_isBuilt select_wordTree rfl
  obtain ⟨quiet, last, hrecords, hquiet, hlast⟩ :=
    (wordStatement.select_reports .mySql).of_error select_wordTree
  cases hlast
  rw [hrecords, List.append_nil] at hr
  exact (hquiet r hr).1 hlevel

end StatementSegments
