import StatementSegments.Proofs.Outcome
import StatementSegments.Resolution

namespace StatementSegments

/-- The first of some tables that meets a condition. -/
def Table.IsFirst (p : Table → Prop) (tables : List Table) (t : Table) : Prop :=
  p t ∧ ∃ before after, tables = before ++ t :: after ∧ ∀ u ∈ before, ¬p u

theorem Table.find?_eq_some_iff_isFirst {p : Table → Prop} [DecidablePred p]
    {tables : List Table} {t : Table} :
    tables.find? (fun u => p u) = some t ↔ IsFirst p tables t := by
  simp [List.find?_eq_some_iff_append, IsFirst]

theorem Table.IsFirst.mem {p : Table → Prop} {tables : List Table} {t : Table}
    (h : IsFirst p tables t) : t ∈ tables := by
  obtain ⟨-, before, after, rfl, -⟩ := h
  exact List.mem_append_right before List.mem_cons_self

/-- The owner among some tables of a column that has a qualifier or has none. -/
inductive BelongsTo (tables : List Table) : Option String → Option TableRef → Prop where
  | aliased {qualifier : String} {t : Table}
      (hfirst : Table.IsFirst (·.IsAliasedAs qualifier) tables t) :
      BelongsTo tables (some qualifier) (some t.ref)
  | named {qualifier : String} {t : Table}
      (haliases : ∀ u ∈ tables, ¬u.IsAliasedAs qualifier)
      (hfirst : Table.IsFirst (·.IsNamed qualifier) tables t) :
      BelongsTo tables (some qualifier) (some t.ref)
  | unknown {qualifier : String} (haliases : ∀ u ∈ tables, ¬u.IsAliasedAs qualifier)
      (hnames : ∀ u ∈ tables, ¬u.IsNamed qualifier) : BelongsTo tables (some qualifier) none
  | only {t : Table} (htables : tables = [t]) : BelongsTo tables none (some t.ref)
  | ambiguous (hlength : tables.length ≠ 1) : BelongsTo tables none none

theorem BelongsTo.exists_table {tables : List Table} {qualifier : Option String}
    {owner : TableRef} (h : BelongsTo tables qualifier (some owner)) :
    ∃ t ∈ tables, owner = t.ref := by
  cases h with
  | aliased hfirst => exact ⟨_, hfirst.mem, rfl⟩
  | named haliases hfirst => exact ⟨_, hfirst.mem, rfl⟩
  | only htables => exact ⟨_, by simp [htables], rfl⟩

namespace Column

variable {c : Column} {tables : List Table} {owner : Option TableRef}

theorem belongsTo_owner? (c : Column) (tables : List Table) :
    BelongsTo tables c.qualifier ((c.owner? tables).map Table.ref) := by
  unfold owner?
  rcases c.qualifier with _ | qualifier
  · rcases tables with _ | ⟨t, _ | ⟨u, rest⟩⟩
    · exact .ambiguous (by simp)
    · exact .only rfl
    · exact .ambiguous (by simp)
  · rcases halias : tables.find? (fun t => t.IsAliasedAs qualifier) with _ | t
    · have haliases : ∀ u ∈ tables, ¬u.IsAliasedAs qualifier := by simpa using halias
      rcases hname : tables.find? (fun t => t.IsNamed qualifier) with _ | t
      · simpa [halias, hname] using .unknown haliases (by simpa using hname)
      · simpa [halias, hname] using .named haliases (Table.find?_eq_some_iff_isFirst.mp hname)
    · simpa [halias] using .aliased (Table.find?_eq_some_iff_isFirst.mp halias)

theorem owner?_of_belongsTo (h : BelongsTo tables c.qualifier owner) :
    (c.owner? tables).map Table.ref = owner := by
  generalize hqualifier : c.qualifier = qualifier at h
  unfold owner?
  rw [hqualifier]
  cases h with
  | aliased hfirst => simp [Table.find?_eq_some_iff_isFirst.mpr hfirst]
  | @named qualifier t haliases hfirst =>
      have halias : tables.find? (fun u => u.IsAliasedAs qualifier) = none := by
        simpa using haliases
      simp [halias, Table.find?_eq_some_iff_isFirst.mpr hfirst]
  | unknown haliases hnames => simpa using ⟨haliases, hnames⟩
  | only htables => rw [htables]; rfl
  | ambiguous hlength =>
      rcases tables with _ | ⟨t, _ | ⟨u, rest⟩⟩
      · rfl
      · exact absurd rfl hlength
      · rfl

theorem owner?_eq_iff_belongsTo :
    (c.owner? tables).map Table.ref = owner ↔ BelongsTo tables c.qualifier owner := by
  constructor
  · rintro rfl
    exact c.belongsTo_owner? tables
  · exact owner?_of_belongsTo

/-- The column bound to its owner among some tables. -/
def ownedAmong (tables : List Table) (c : Column) : Column :=
  { c with owner := (c.owner? tables).map Table.ref }

theorem resolve_unbound (h : c.owner = none) (tables : List Table) :
    (c.resolve tables).outcome = .ok (c.ownedAmong tables) := by
  unfold resolve ownedAmong
  rcases c.owner? tables with _ | t
  · rcases c.unboundReason? tables with _ | reason <;> simp [← h]
  · simp [bindOwner, h]

end Column

theorem resolveOwners_unbound {columns : List Column} (h : ∀ c ∈ columns, c.owner = none)
    (tables : List Table) :
    (resolveOwners columns tables).outcome = .ok (columns.map (Column.ownedAmong tables)) :=
  Logged.outcome_mapM_of_ok fun c hc => c.resolve_unbound (h c hc) tables

/-- Columns without an owner are resolved against any tables, each in its place. A column keeps its
span, its name and its qualifier, and gets the owner that it has among the tables, or none. -/
theorem resolveOwners_belongsTo {columns : List Column} (hunbound : ∀ c ∈ columns, c.owner = none)
    (tables : List Table) :
    ∃ resolved, (resolveOwners columns tables).outcome = .ok resolved ∧
      List.Forall₂ (fun c c' => c'.span = c.span ∧ c'.name = c.name ∧
        c'.qualifier = c.qualifier ∧
        ∀ owner, c'.owner = owner ↔ BelongsTo tables c.qualifier owner) columns resolved := by
  refine ⟨_, resolveOwners_unbound hunbound tables, ?_⟩
  rw [List.forall₂_map_right_iff, List.forall₂_same]
  intro c _
  exact ⟨rfl, rfl, rfl, fun _ => Column.owner?_eq_iff_belongsTo⟩

/-- The alias of the second table is the name of the first. -/
def aliasTables : List Table :=
  [.ofRaw ⟨5, 5⟩ "o" none none, .ofRaw ⟨8, 13⟩ "orders" none (some "O")]

def aliasColumns : List Column :=
  [.ofRaw ⟨30, 33⟩ "id" (some "o"), .ofRaw ⟨36, 44⟩ "id" (some "[Orders]"),
    .ofRaw ⟨47, 52⟩ "id" (some "sub"), .ofRaw ⟨55, 56⟩ "id" none]

theorem aliasColumns_belongsTo :
    (∀ c ∈ aliasColumns, c.owner = none) ∧
      ∃ resolved, (resolveOwners aliasColumns aliasTables).outcome = .ok resolved ∧
        resolved.map Column.owner = [some ⟨"orders", 8⟩, some ⟨"orders", 8⟩, none, none] := by
  have hunbound : ∀ c ∈ aliasColumns, c.owner = none := by decide
  obtain ⟨resolved, hok, hall⟩ := resolveOwners_belongsTo hunbound aliasTables
  refine ⟨hunbound, resolved, hok, ?_⟩
  simp only [aliasColumns, List.forall₂_cons_left_iff, List.forall₂_nil_left_iff] at hall
  obtain ⟨a, _, ⟨-, -, -, ha⟩, ⟨b, _, ⟨-, -, -, hb⟩, ⟨c, _, ⟨-, -, -, hc⟩,
    ⟨d, _, ⟨-, -, -, hd⟩, rfl, rfl⟩, rfl⟩, rfl⟩, rfl⟩ := hall
  have haliased : a.owner = some ⟨"orders", 8⟩ :=
    (ha _).mpr (.aliased ⟨by decide, [_], [], rfl, by decide⟩)
  have hnamed : b.owner = some ⟨"orders", 8⟩ :=
    (hb _).mpr (.named (by decide) ⟨by decide, [_], [], rfl, by decide⟩)
  have hunknown : c.owner = none := (hc _).mpr (.unknown (by decide) (by decide))
  have hambiguous : d.owner = none := (hd _).mpr (.ambiguous (by decide))
  simp [haliased, hnamed, hunknown, hambiguous]

end StatementSegments
