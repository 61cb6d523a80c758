import StatementSegments.Proofs.ColumnOwners

/-!
Resolution in several passes. A pass fails on a bound column only if it has an owner for it once
more; a bound column that belongs to no table of the pass goes through as it is. So the owner of a
column is the one that the first pass with an owner for it gives, and no later pass changes it.
-/
namespace StatementSegments

namespace Column

variable {c c' : Column} {tables : List Table} {passes : List (List Table)}
  {owner : Option TableRef} {e : ExtractionError}

/-- The column is bound, and some tables have an owner for it all the same. -/
def IsReboundBy (tables : List Table) (c : Column) : Prop :=
  c.owner.isSome = true ∧ (c.owner? tables).isSome = true

instance (tables : List Table) : DecidablePred (IsReboundBy tables) := fun c =>
  inferInstanceAs (Decidable (c.owner.isSome = true ∧ (c.owner? tables).isSome = true))

theorem isSome_owner?_iff :
    (c.owner? tables).isSome = true ↔ ∃ owner, BelongsTo tables c.qualifier (some owner) := by
  simp only [← owner?_eq_iff_belongsTo, Option.isSome_iff_exists, Option.map_eq_some_iff]
  constructor
  · rintro ⟨t, ht⟩
    exact ⟨t.ref, t, ht, rfl⟩
  · rintro ⟨-, t, ht, -⟩
    exact ⟨t, ht⟩

theorem isReboundBy_iff :
    c.IsReboundBy tables ↔
      c.owner ≠ none ∧ ∃ owner, BelongsTo tables c.qualifier (some owner) := by
  rw [IsReboundBy, isSome_owner?_iff, Option.isSome_iff_ne_none]

def afterPass (tables : List Table) (c : Column) : Column :=
  { c with owner := c.owner.or ((c.owner? tables).map Table.ref) }

theorem resolve_eq_error_iff :
    (c.resolve tables).outcome = .error e ↔
      c.IsReboundBy tables ∧ e = .ownerAlreadyBound c.qualifiedName := by
  unfold resolve IsReboundBy
  rcases c.owner? tables with _ | t
  · rcases c.unboundReason? tables with _ | reason <;> simp
  · by_cases h : c.owner.isSome = true
    · simp [bindOwner, h, eq_comm]
    · simp [bindOwner, h]

theorem resolve_eq_ok_iff :
    (c.resolve tables).outcome = .ok c' ↔ ¬c.IsReboundBy tables ∧ c.afterPass tables = c' := by
  unfold resolve IsReboundBy afterPass
  rcases c.owner? tables with _ | t
  · rcases c.unboundReason? tables with _ | reason <;> simp
  · rcases h : c.owner with _ | owner
    · simp [bindOwner, h]
    · simp [bindOwner, h]

/-- The owner that the first of some passes with an owner for a column gives it. -/
inductive FirstBoundTo (qualifier : Option String) :
    List (List Table) → Option TableRef → Prop where
  | bound {before after : List (List Table)} {tables : List Table} {owner : TableRef}
      (hbefore : ∀ earlier ∈ before, BelongsTo earlier qualifier none)
      (howner : BelongsTo tables qualifier (some owner)) :
      FirstBoundTo qualifier (before ++ tables :: after) (some owner)
  | unbound {passes : List (List Table)}
      (hnone : ∀ tables ∈ passes, BelongsTo tables qualifier none) :
      FirstBoundTo qualifier passes none

def firstOwner? (passes : List (List Table)) (c : Column) : Option TableRef :=
  passes.findSome? fun tables => (c.owner? tables).map Table.ref

theorem firstOwner?_eq_iff :
    c.firstOwner? passes = owner ↔ FirstBoundTo c.qualifier passes owner := by
  constructor
  · rintro rfl
    rcases h : c.firstOwner? passes with _ | owner
    · refine .unbound fun tables htables => ?_
      exact owner?_eq_iff_belongsTo.mp (List.findSome?_eq_none_iff.mp h tables htables)
    · obtain ⟨before, tables, after, rfl, howner, hbefore⟩ := List.findSome?_eq_some_iff.mp h
      exact .bound (fun earlier hearlier => owner?_eq_iff_belongsTo.mp (hbefore earlier hearlier))
        (owner?_eq_iff_belongsTo.mp howner)
  · generalize hqualifier : c.qualifier = qualifier
    rintro (⟨hbefore, howner⟩ | hnone) <;> subst hqualifier
    · simp only [← owner?_eq_iff_belongsTo] at hbefore howner
      exact List.findSome?_eq_some_iff.mpr ⟨_, _, _, rfl, howner, hbefore⟩
    · simp only [← owner?_eq_iff_belongsTo] at hnone
      exact List.findSome?_eq_none_iff.mpr hnone

def afterPasses (passes : List (List Table)) (c : Column) : Column :=
  { c with owner := c.owner.or (c.firstOwner? passes) }

theorem afterPasses_nil (c : Column) : c.afterPasses [] = c := by
  simp [afterPasses, firstOwner?]

theorem afterPasses_afterPass (c : Column) (tables : List Table) (rest : List (List Table)) :
    (c.afterPass tables).afterPasses rest = c.afterPasses (tables :: rest) := by
  have hrest : (c.afterPass tables).firstOwner? rest = c.firstOwner? rest := rfl
  rw [afterPasses, hrest, afterPasses]
  simp only [afterPass, firstOwner?, List.findSome?_cons]
  rcases (c.owner? tables).map Table.ref with _ | t <;> simp

end Column

variable {columns resolved : List Column} {tables : List Table}

/-- A pass fails just where a bound column of the list has an owner among the tables as well. The
error names the first such column; a bound column without an owner among the tables is none. -/
theorem resolveOwners_eq_error_iff {e : ExtractionError} :
    (resolveOwners columns tables).outcome = .error e ↔
      ∃ before c after, columns = before ++ c :: after ∧
        (c.owner ≠ none ∧ ∃ owner, BelongsTo tables c.qualifier (some owner)) ∧
        (∀ b ∈ before, ¬(b.owner ≠ none ∧ ∃ owner, BelongsTo tables b.qualifier (some owner))) ∧
        e = .ownerAlreadyBound c.qualifiedName := by
  simp only [← Column.isReboundBy_iff]
  have hfirst : ∀ (c : Column) (e : ExtractionError), (c.resolve tables).outcome = .error e ↔
      decide (c.IsReboundBy tables) = true ∧ e = .ownerAlreadyBound c.qualifiedName := by
    intro c e
    rw [decide_eq_true_iff, Column.resolve_eq_error_iff]
  rw [resolveOwners, Logged.outcome_mapM_eq_error_iff hfirst]
  simp only [List.find?_eq_some_iff_append]
  constructor
  · rintro ⟨c, ⟨hc, before, after, heq, hbefore⟩, rfl⟩
    exact ⟨before, c, after, heq, by simpa using hc, by simpa using hbefore, rfl⟩
  · rintro ⟨before, c, after, heq, hc, hbefore, rfl⟩
    exact ⟨c, ⟨by simpa using hc, before, after, heq, by simpa using hbefore⟩, rfl⟩

def boundColumn : Column :=
  ⟨⟨7, 7⟩, "c", none, some ⟨"users", 30⟩⟩

-- Among no tables a bound column goes through.
theorem not_forall_bound_refused :
    ¬∀ (columns : List Column) (tables : List Table), (∃ c ∈ columns, c.owner ≠ none) →
      ∃ c ∈ columns, c.owner ≠ none ∧
        (resolveOwners columns tables).outcome = .error (.ownerAlreadyBound c.qualifiedName) := by
  intro h
  obtain ⟨c, -, -, hc⟩ := h [boundColumn] [] ⟨boundColumn, by decide, by decide⟩
  have hok : (resolveOwners [boundColumn] []).outcome = .ok [boundColumn] := rfl
  rw [hok] at hc
  cases hc

theorem resolveOwners_eq_ok (h : (resolveOwners columns tables).outcome = .ok resolved) :
    resolved = columns.map (Column.afterPass tables) := by
  have hall := Logged.outcome_mapM_eq_ok_iff.mp h
  simp only [Column.resolve_eq_ok_iff, List.forall₂_and_left] at hall
  rw [← List.forall₂_map_left_iff, List.forall₂_eq_eq_eq] at hall
  exact hall.2.symm

/-- Columns resolved by one pass after the other, each with tables of its own. -/
def resolveInTurn (columns : List Column) (passes : List (List Table)) :
    Logged ExtractionError (List Column) :=
  passes.foldlM resolveOwners columns

theorem resolveInTurn_append (columns : List Column) (earlier later : List (List Table)) :
    resolveInTurn columns (earlier ++ later) =
      resolveInTurn columns earlier >>= fun mid => resolveInTurn mid later :=
  List.foldlM_append

theorem resolveInTurn_eq_ok {passes : List (List Table)}
    (h : (resolveInTurn columns passes).outcome = .ok resolved) :
    resolved = columns.map (Column.afterPasses passes) := by
  induction passes generalizing columns with
  | nil =>
      cases h
      exact (List.map_id'' Column.afterPasses_nil _).symm
  | cons tables rest ih =>
      rw [resolveInTurn, List.foldlM_cons] at h
      obtain ⟨next, hnext, hrest⟩ := Logged.outcome_bind_eq_ok_iff.mp h
      rw [ih hrest, resolveOwners_eq_ok hnext, List.map_map]
      exact List.map_congr_left fun c _ => c.afterPasses_afterPass tables rest

/-- The owner of a column is the one that the first pass with an owner for it gives, and it stays
the owner to the end. -/
theorem resolveInTurn_firstBoundTo {passes : List (List Table)}
    (hunbound : ∀ c ∈ columns, c.owner = none)
    (hok : (resolveInTurn columns passes).outcome = .ok resolved) :
    ∀ earlier later, passes = earlier ++ later →
      ∃ mid, (resolveInTurn columns earlier).outcome = .ok mid ∧
        (resolveInTurn mid later).outcome = .ok resolved ∧
        List.Forall₂ (fun c c' => c'.span = c.span ∧ c'.name = c.name ∧
          c'.qualifier = c.qualifier ∧
          ∀ owner, c'.owner = owner ↔ Column.FirstBoundTo c.qualifier earlier owner) columns mid ∧
        List.Forall₂ (fun c c' => ∀ owner, c.owner = some owner → c'.owner = some owner)
          mid resolved := by
  rintro earlier later rfl
  rw [resolveInTurn_append] at hok
  obtain ⟨mid, hmid, hlast⟩ := Logged.outcome_bind_eq_ok_iff.mp hok
  refine ⟨mid, hmid, hlast, ?_, ?_⟩
  · rw [resolveInTurn_eq_ok hmid, List.forall₂_map_right_iff, List.forall₂_same]
    intro c hc
    refine ⟨rfl, rfl, rfl, fun owner => ?_⟩
    rw [← Column.firstOwner?_eq_iff, Column.afterPasses, hunbound c hc, Option.none_or]
  · rw [resolveInTurn_eq_ok hlast, List.forall₂_map_right_iff, List.forall₂_same]
    intro c _ owner howner
    rw [Column.afterPasses, howner, Option.some_or]

def aliasPasses : List (List Table) :=
  [[], aliasTables, [.ofRaw ⟨60, 60⟩ "u" none none]]

def aliasResolved : List Column :=
  [⟨⟨30, 33⟩, "id", some "o", some ⟨"orders", 8⟩⟩,
    ⟨⟨36, 44⟩, "id", some "Orders", some ⟨"orders", 8⟩⟩, ⟨⟨47, 52⟩, "id", some "sub", none⟩,
    ⟨⟨55, 56⟩, "id", none, some ⟨"u", 60⟩⟩]

theorem resolveInTurn_aliasPasses :
    (resolveInTurn aliasColumns aliasPasses).outcome = .ok aliasResolved := by
  decide

theorem aliasPasses_firstBoundTo :
    (∀ c ∈ aliasColumns, c.owner = none) ∧
      (resolveInTurn aliasColumns aliasPasses).outcome = .ok aliasResolved ∧
      Column.FirstBoundTo (some "Orders") aliasPasses (some ⟨"orders", 8⟩) ∧
      Column.FirstBoundTo (some "sub") aliasPasses none ∧
      Column.FirstBoundTo none aliasPasses (some ⟨"u", 60⟩) := by
  have hunbound : ∀ c ∈ aliasColumns, c.owner = none := by decide
  obtain ⟨mid, -, hlast, hall, -⟩ := resolveInTurn_firstBoundTo hunbound resolveInTurn_aliasPasses
    aliasPasses [] (List.append_nil _).symm
  cases hlast
  simp only [aliasColumns, aliasResolved, List.forall₂_cons] at hall
  obtain ⟨-, ⟨-, -, -, hnamed⟩, ⟨-, -, -, hunknown⟩, ⟨-, -, -, hlone⟩, -⟩ := hall
  exact ⟨hunbound, resolveInTurn_aliasPasses, (hnamed _).mp rfl, (hunknown _).mp rfl,
    (hlone _).mp rfl⟩

end StatementSegments
