import StatementSegments.Proofs.FailureReports

/-!
Levels of the records of an extraction. Nothing is warned of and nothing is an error in the log but
what the extraction fails with, and that is logged once and last; so the log agrees with the result.
-/
namespace StatementSegments

theorem LogRecord.IsQuiet.level_ne {r : LogRecord} {level : LogLevel} (h : r.IsQuiet)
    (hlevel : level = .warn ∨ level = .error) : r.level ≠ level := by
  rcases hlevel with rfl | rfl
  · exact h.2
  · exact h.1

namespace Logged

variable {ε α : Type} {logged : ε → List LogRecord → Prop} {x : Logged ε α} {level : LogLevel}

/-- The records of one level, in their order. -/
def recordsAt (x : Logged ε α) (level : LogLevel) : List LogRecord :=
  x.records.filter fun r => r.level = level

theorem mem_recordsAt_iff {r : LogRecord} :
    r ∈ x.recordsAt level ↔ r ∈ x.records ∧ r.level = level := by
  simp [recordsAt]

theorem recordsAt_of_quiet {quiet last : List LogRecord} (hrecords : x.records = quiet ++ last)
    (hquiet : ∀ r ∈ quiet, r.IsQuiet) (hlevel : level = .warn ∨ level = .error) :
    x.recordsAt level = last.filter fun r => r.level = level := by
  have hnone : quiet.filter (fun r => r.level = level) = [] := by
    rw [List.filter_eq_nil_iff]
    intro r hr
    simpa using (hquiet r hr).level_ne hlevel
  rw [recordsAt, hrecords, List.filter_append, hnone, List.nil_append]

namespace Reports

theorem recordsAt_of_ok {a : α} (hx : Reports logged x) (h : x.outcome = .ok a)
    (hlevel : level = .warn ∨ level = .error) : x.recordsAt level = [] := by
  cases hx with
  | error hquiet hlast => cases h
  | @ok records b hquiet =>
      rw [recordsAt_of_quiet (List.append_nil records).symm hquiet hlevel, List.filter_nil]

/-- What is logged of a failure comes last, and nothing else is loud. -/
theorem exists_last {e : ε} (hx : Reports logged x) (h : x.outcome = .error e) :
    ∃ last, logged e last ∧ last <:+ x.records ∧
      ∀ level, level = .warn ∨ level = .error →
        x.recordsAt level = last.filter fun r => r.level = level := by
  obtain ⟨quiet, last, hrecords, hquiet, hlast⟩ := hx.of_error h
  refine ⟨last, hlast, ⟨quiet, hrecords.symm⟩, ?_⟩
  intro level hlevel
  exact recordsAt_of_quiet hrecords hquiet hlevel

end Reports

end Logged

namespace ExtractionError

variable {e : ExtractionError} {last : List LogRecord}

theorem IsLoggedAs.eq_warning {construct text : String} {span : Span}
    (h : IsLoggedAs (.unsupported construct text span) last) :
    last = [⟨.warn, (ExtractionError.unsupported construct text span).message⟩] := by
  cases h
  rfl

theorem IsLoggedAs.eq_singleton {r : LogRecord} (h : e.IsLoggedAs last) (hr : r ∈ last)
    (hlevel : r.level = .error) : last = [r] ∧ e.isInternal = true := by
  have hinternal : e.isInternal = true := (h.exists_level_error_iff.mp ⟨r, hr, hlevel⟩).1
  refine ⟨?_, hinternal⟩
  cases h with
  | unsupported construct text span => cases hinternal
  | invalidLiteral text start => cases hr
  | _ => rw [List.mem_singleton.mp hr]

end ExtractionError

namespace Logged.Reports

open ExtractionError (IsLoggedAs)

variable {α : Type} {x : Extraction α} (hx : x.Reports IsLoggedAs)
include hx

theorem recordsAt_of_unsupported {construct text : String} {span : Span}
    (h : x.outcome = .error (.unsupported construct text span)) :
    x.recordsAt .warn = [⟨.warn, (ExtractionError.unsupported construct text span).message⟩] ∧
      x.recordsAt .error = [] := by
  obtain ⟨last, hlast, -, hlevels⟩ := hx.exists_last h
  obtain rfl := hlast.eq_warning
  rw [hlevels .warn (Or.inl rfl), hlevels .error (Or.inr rfl)]
  exact ⟨rfl, rfl⟩

theorem recordsAt_of_mem_error {r : LogRecord} (hr : r ∈ x.recordsAt .error) :
    x.recordsAt .error = [r] ∧ x.records.getLast? = some r ∧ x.recordsAt .warn = [] ∧
      ∃ e, x.outcome = .error e ∧ e.isInternal = true := by
  rcases houtcome : x.outcome with e | a
  · obtain ⟨last, hlast, ⟨quiet, hrecords⟩, hlevels⟩ := hx.exists_last houtcome
    have hlevel : r.level = .error := (mem_recordsAt_iff.mp hr).2
    rw [hlevels .error (Or.inr rfl)] at hr ⊢
    rw [hlevels .warn (Or.inl rfl), ← hrecords]
    -- The failure is logged in one record, which is the error.
    obtain ⟨rfl, hinternal⟩ := hlast.eq_singleton (List.mem_filter.mp hr).1 hlevel
    refine ⟨?_, List.getLast?_concat, ?_, e, rfl, hinternal⟩
    · simp [hlevel]
    · simp [hlevel]
  · rw [hx.recordsAt_of_ok houtcome (Or.inr rfl)] at hr
    cases hr

end Logged.Reports

namespace Statement

/-- The log agrees with the result: an unsupported clause is warned of once, and an error in the log
is the last record and stands for an internal failure. -/
theorem select_recordsAt (s : Statement) (dialect : Dialect) :
    (∀ selected, (s.select dialect).outcome = .ok selected →
      (s.select dialect).recordsAt .warn = [] ∧ (s.select dialect).recordsAt .error = []) ∧
    (∀ construct text span,
      (s.select dialect).outcome = .error (.unsupported construct text span) →
      (s.select dialect).recordsAt .warn =
        [⟨.warn, (ExtractionError.unsupported construct text span).message⟩] ∧
      (s.select dialect).recordsAt .error = []) ∧
    ∀ r ∈ (s.select dialect).recordsAt .error,
      (s.select dialect).recordsAt .error = [r] ∧
      (s.select dialect).records.getLast? = some r ∧
      (s.select dialect).recordsAt .warn = [] ∧
      ∃ e, (s.select dialect).outcome = .error e ∧ e.isInternal = true := by
  have hreports := s.select_reports dialect
  refine ⟨?_, ?_, ?_⟩
  · intro selected hok
    exact ⟨hreports.recordsAt_of_ok hok (Or.inl rfl), hreports.recordsAt_of_ok hok (Or.inr rfl)⟩
  · intro construct text span herror
    exact hreports.recordsAt_of_unsupported herror
  · intro r hr
    exact hreports.recordsAt_of_mem_error hr

end Statement

def sumValue : Node :=
  .rule 2 "limitRowCount" ⟨6, 8⟩
    [.token 3 "NUMBER_" ⟨6, 6⟩, .token 4 "PLUS_" ⟨7, 7⟩, .token 5 "NUMBER_" ⟨8, 8⟩]

def sumStatement : Statement where
  tree :=
    { text := StatementText.ofString "LIMIT 1+1"
      root := .rule 0 "limitClause" ⟨0, 8⟩ [.token 1 "LIMIT" ⟨0, 4⟩, sumValue] }
  markers := .empty

theorem expression_sumValue :
    (sumStatement.expression sumValue).outcome = .ok (.complex ⟨6, 8⟩ "1+1") := by
  rfl

theorem select_sumStatement :
    (sumStatement.select .h2).outcome =
      .error (.unsupported "LIMIT row count" "1+1" ⟨6, 8⟩) := by
  have hclause : sumStatement.tree.root.nearest? .limitClause = some sumStatement.tree.root := by
    with_unfolding_all rfl
  have hvalue : sumStatement.tree.root.nearest? .limitRowCount = some sumValue := by
    with_unfolding_all rfl
  have hoffset : sumStatement.tree.root.nearest? .limitOffset = none := by with_unfolding_all rfl
  have hlimit : (sumStatement.limit? sumStatement.tree.root).outcome =
      .error (.unsupported "LIMIT row count" "1+1" ⟨6, 8⟩) := by
    refine (Statement.limit?_eq_error_iff hclause).mpr (Or.inr ⟨⟨none, ?_⟩, sumValue, hvalue, ?_⟩)
    · rw [hoffset]
      rfl
    · exact Logged.outcome_bind_of_ok expression_sumValue
  have htables : (sumStatement.tree.tables sumStatement.tree.root).outcome = .ok [] := by
    with_unfolding_all rfl
  have hcolumns : (sumStatement.tree.columns sumStatement.tree.root).outcome = .ok [] := by
    with_unfolding_all rfl
  refine Statement.select_eq_error_iff.mpr (Or.inr ⟨[], htables, Or.inr ⟨[], hcolumns, ?_⟩⟩)
  exact Logged.outcome_bind_eq_error_iff.mpr
    (Or.inr ⟨none, rfl, Logged.outcome_bind_of_error hlimit⟩)

/-- The warning has the text of the value that is no bound. -/
theorem sumStatement_recordsAt :
    (sumStatement.select .h2).recordsAt .warn =
      [⟨.warn, "Unsupported LIMIT row count: `1+1` at [6, 8]"⟩] := by
  obtain ⟨-, hunsupported, -⟩ := sumStatement.select_recordsAt .h2
  rw [(hunsupported _ _ _ select_sumStatement).1]
  decide

end StatementSegments
