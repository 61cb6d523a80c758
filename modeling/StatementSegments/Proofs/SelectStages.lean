import StatementSegments.Extraction.Select
import StatementSegments.Proofs.ColumnOwners
import StatementSegments.Proofs.NamedReferences

namespace StatementSegments.Statement

variable {ε α : Type} {s : Statement} {dialect : Dialect} {selected : Select}
  {e : ExtractionError}

@[simp]
theorem outcome_ofTree_bind (tree : ParseTree) (f : Statement → Logged ε α) :
    (ofTree tree >>= f).outcome = (f ⟨tree, .ofNode tree.root⟩).outcome :=
  rfl

/-- The last stage, the clauses that a dialect limits the rows with. -/
def clauses (dialect : Dialect) (s : Statement) : Extraction (Option Top × Option Limit) :=
  (if dialect.usesTop then s.top? s.tree.root else pure none) >>= fun top =>
    (if dialect.usesLimit then s.limit? s.tree.root else pure none) >>= fun limit =>
      pure (top, limit)

theorem clauses_eq_ok_iff {top : Option Top} {limit : Option Limit} :
    (s.clauses dialect).outcome = .ok (top, limit) ↔
      (if dialect.usesTop then s.top? s.tree.root else pure none).outcome = .ok top ∧
        (if dialect.usesLimit then s.limit? s.tree.root else pure none).outcome = .ok limit := by
  unfold clauses
  simp only [Logged.outcome_bind_eq_ok_iff, Logged.outcome_pure, Except.ok.injEq, Prod.mk.injEq]
  constructor
  · rintro ⟨top, htop, limit, hlimit, rfl, rfl⟩
    exact ⟨htop, hlimit⟩
  · rintro ⟨htop, hlimit⟩
    exact ⟨top, htop, limit, hlimit, rfl, rfl⟩

theorem clauses_eq_error (h : (s.clauses dialect).outcome = .error e) :
    (s.top? s.tree.root).outcome = .error e ∨ (s.limit? s.tree.root).outcome = .error e := by
  unfold clauses at h
  simp only [Logged.outcome_bind_eq_error_iff, Logged.outcome_ite_none_eq_error_iff,
    Logged.outcome_pure] at h
  rcases h with ⟨-, h⟩ | ⟨top, -, ⟨-, h⟩ | ⟨limit, -, h⟩⟩
  · exact Or.inl h
  · exact Or.inr h
  · cases h

theorem outcome_select (dialect : Dialect) (s : Statement) :
    (s.select dialect).outcome =
      (s.tree.tables s.tree.root >>= fun tables => s.tree.columns s.tree.root >>= fun columns =>
        resolveOwners columns tables >>= fun resolved => s.clauses dialect >>= fun found =>
          pure (⟨found.1, found.2, tables, resolved⟩ : Select)).outcome := by
  unfold select clauses
  refine Logged.outcome_bind_congr fun tables => Logged.outcome_bind_congr fun columns =>
    Logged.outcome_bind_congr fun resolved => ?_
  cases dialect.usesTop <;> cases dialect.usesLimit <;>
    simp only [bind_assoc, pure_bind, if_true, Bool.false_eq_true, if_false]
  · rfl
  · exact Logged.outcome_bind_congr fun limit => rfl
  · exact Logged.outcome_bind_congr fun top => rfl
  · exact Logged.outcome_bind_congr fun top => Logged.outcome_bind_congr fun limit => rfl

/-- What the stages of a selection give, each from what those before it gave. -/
structure IsSelectedFrom (selected : Select) (dialect : Dialect) (s : Statement)
    (columns : List Column) : Prop where
  tables_ok : (s.tree.tables s.tree.root).outcome = .ok selected.tables
  columns_ok : (s.tree.columns s.tree.root).outcome = .ok columns
  columns_eq : selected.columns = columns.map (Column.ownedAmong selected.tables)
  clauses_ok : (s.clauses dialect).outcome = .ok (selected.top, selected.limit)

theorem select_eq_ok_iff :
    (s.select dialect).outcome = .ok selected ↔
      ∃ columns, IsSelectedFrom selected dialect s columns := by
  simp only [outcome_select, Logged.outcome_bind_eq_ok_iff, Logged.outcome_pure,
    Except.ok.injEq]
  constructor
  · rintro ⟨tables, htables, columns, hcolumns, resolved, hresolved, ⟨top, limit⟩, hfound, rfl⟩
    rw [resolveOwners_unbound (ParseTree.columns_unbound hcolumns)] at hresolved
    exact ⟨columns, htables, hcolumns, (Except.ok.inj hresolved).symm, hfound⟩
  · rintro ⟨columns, htables, hcolumns, howners, hclauses⟩
    refine ⟨_, htables, columns, hcolumns, selected.columns, ?_, _, hclauses, rfl⟩
    rw [resolveOwners_unbound (ParseTree.columns_unbound hcolumns), howners]

/-- The first stage that fails is what the extraction fails with. -/
theorem select_eq_error_iff :
    (s.select dialect).outcome = .error e ↔
      (s.tree.tables s.tree.root).outcome = .error e ∨
      ∃ tables, (s.tree.tables s.tree.root).outcome = .ok tables ∧
        ((s.tree.columns s.tree.root).outcome = .error e ∨
        ∃ columns, (s.tree.columns s.tree.root).outcome = .ok columns ∧
          (s.clauses dialect).outcome = .error e) := by
  simp only [outcome_select, Logged.outcome_bind_eq_error_iff, Logged.outcome_pure, reduceCtorEq,
    and_false, exists_false, or_false]
  apply or_congr_right
  refine exists_congr fun tables => and_congr_right fun _ => ?_
  apply or_congr_right
  refine exists_congr fun columns => and_congr_right fun hcolumns => ?_
  -- The owners of columns that were just read can always be bound.
  simp [resolveOwners_unbound (ParseTree.columns_unbound hcolumns) tables]

end StatementSegments.Statement
