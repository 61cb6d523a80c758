import Mathlib.Data.List.Pairwise
import Mathlib.Data.Option.Basic
import StatementSegments.Proofs.ColumnOwners

namespace StatementSegments

theorem CaselessEq.congr {a a' b b' : String} (ha : CaselessEq a a') (hb : CaselessEq b b') :
    CaselessEq a b ↔ CaselessEq a' b' := by
  constructor
  · intro h
    exact ha.symm.trans (h.trans hb)
  · intro h
    exact ha.trans (h.trans hb.symm)

/-- Two texts for one identifier, up to the case of its letters. -/
def Identifier.IsRespelling (raw raw' : String) : Prop :=
  CaselessEq (canonical raw) (canonical raw')

instance (raw raw' : String) : Decidable (Identifier.IsRespelling raw raw') :=
  inferInstanceAs (Decidable (CaselessEq _ _))

/-- Two columns made from texts that differ in how the qualifier is spelled, wherever they stand. -/
inductive Column.IsRespelling : Column → Column → Prop where
  | ofRaw (span span' : Span) (name : String) {qualifier qualifier' : Option String}
      (hqualifier : Option.Rel Identifier.IsRespelling qualifier qualifier') :
      IsRespelling (.ofRaw span name qualifier) (.ofRaw span' name qualifier')

/-- Two tables made from texts that differ in how the name and the alias are spelled, wherever they
stand. -/
inductive Table.IsRespelling : Table → Table → Prop where
  | ofRaw (span span' : Span) (owner : Option String) {name name' : String}
      {aliasName aliasName' : Option String} (hname : Identifier.IsRespelling name name')
      (halias : Option.Rel Identifier.IsRespelling aliasName aliasName') :
      IsRespelling (.ofRaw span name owner aliasName) (.ofRaw span' name' owner aliasName')

theorem findIdx?_eq_of_forall₂ {α β : Type} {p : α → Bool} {q : β → Bool} {as : List α}
    {bs : List β} (h : List.Forall₂ (fun a b => p a = q b) as bs) :
    as.findIdx? p = bs.findIdx? q := by
  induction h with
  | nil => rfl
  | cons hab _ ih => rw [List.findIdx?_cons, List.findIdx?_cons, hab, ih]

theorem find?_eq_of_perm {α : Type} {p : α → Bool} {as bs : List α} (hperm : as.Perm bs)
    (hunique : ∀ a ∈ as, ∀ b ∈ as, p a = true → p b = true → a = b) :
    as.find? p = bs.find? p := by
  rcases ha : as.find? p with _ | a
  · rw [eq_comm, List.find?_eq_none]
    intro b hb
    exact List.find?_eq_none.mp ha b (hperm.mem_iff.mpr hb)
  · have haMem := List.mem_of_find?_eq_some ha
    have hpa := List.find?_some ha
    obtain ⟨b, hb⟩ : ∃ b, bs.find? p = some b :=
      Option.isSome_iff_exists.mp (List.find?_isSome.mpr ⟨a, hperm.mem_iff.mp haMem, hpa⟩)
    have hbMem := hperm.mem_iff.mpr (List.mem_of_find?_eq_some hb)
    rw [hb, hunique a haMem b hbMem hpa (List.find?_some hb)]

namespace Table

variable {t t' u : Table} {tables tables' : List Table} {qualifier qualifier' : String}

theorem IsRespelling.isNamed_iff (h : t.IsRespelling t') (hq : CaselessEq qualifier qualifier') :
    t.IsNamed qualifier ↔ t'.IsNamed qualifier' := by
  cases h with
  | ofRaw span span' owner hname halias => exact CaselessEq.congr hname hq

theorem IsRespelling.isAliasedAs_iff (h : t.IsRespelling t')
    (hq : CaselessEq qualifier qualifier') :
    t.IsAliasedAs qualifier ↔ t'.IsAliasedAs qualifier' := by
  cases h with
  | ofRaw span span' owner hname halias =>
      cases halias with
      | none => simp [IsAliasedAs, Table.ofRaw]
      | some halias => simpa [IsAliasedAs, Table.ofRaw] using CaselessEq.congr halias hq

theorem findIdx?_isNamed_eq (h : List.Forall₂ IsRespelling tables tables')
    (hq : CaselessEq qualifier qualifier') :
    (tables.findIdx? fun t => t.IsNamed qualifier) =
      tables'.findIdx? fun t => t.IsNamed qualifier' :=
  findIdx?_eq_of_forall₂ (h.imp fun _ _ ht => decide_eq_decide.mpr (ht.isNamed_iff hq))

theorem findIdx?_isAliasedAs_eq (h : List.Forall₂ IsRespelling tables tables')
    (hq : CaselessEq qualifier qualifier') :
    (tables.findIdx? fun t => t.IsAliasedAs qualifier) =
      tables'.findIdx? fun t => t.IsAliasedAs qualifier' :=
  findIdx?_eq_of_forall₂ (h.imp fun _ _ ht => decide_eq_decide.mpr (ht.isAliasedAs_iff hq))

/-- If both tables have an alias, these differ in more than the case of letters. -/
def AliasesDiffer (t u : Table) : Prop :=
  ∀ a b, t.aliasName = some a → u.aliasName = some b → ¬CaselessEq a b

/-- The names of the tables differ in more than the case of letters. -/
def NamesDiffer (t u : Table) : Prop :=
  ¬CaselessEq t.name u.name

instance : Std.Symm AliasesDiffer :=
  ⟨fun _ _ h a b ha hb hab => h b a hb ha hab.symm⟩

instance : Std.Symm NamesDiffer :=
  ⟨fun _ _ h hnames => h hnames.symm⟩

theorem eq_of_isAliasedAs (h : tables.Pairwise AliasesDiffer) (ht : t ∈ tables) (hu : u ∈ tables)
    (hta : t.IsAliasedAs qualifier) (hua : u.IsAliasedAs qualifier) : t = u := by
  by_contra hne
  obtain ⟨a, ha, haq⟩ := hta
  obtain ⟨b, hb, hbq⟩ := hua
  exact h.forall ht hu hne a b ha hb (haq.trans hbq.symm)

theorem eq_of_isNamed (h : tables.Pairwise NamesDiffer) (ht : t ∈ tables) (hu : u ∈ tables)
    (htn : t.IsNamed qualifier) (hun : u.IsNamed qualifier) : t = u := by
  by_contra hne
  exact h.forall ht hu hne (htn.trans hun.symm)

end Table

namespace Column

variable {c c' : Column} {tables tables' : List Table}

/-- The place among some tables of the one that owns the column. -/
def ownerPlace? (tables : List Table) (c : Column) : Option Nat :=
  match c.qualifier with
  | some qualifier =>
      (tables.findIdx? fun t => t.IsAliasedAs qualifier).or
        (tables.findIdx? fun t => t.IsNamed qualifier)
  | none => if tables.length = 1 then some 0 else none

/-- The column is bound to the table at a place, or to none. -/
def IsBoundAt (tables : List Table) (place : Option Nat) (c : Column) : Prop :=
  match place with
  | some i => ∃ t, tables[i]? = some t ∧ c.owner = some t.ref
  | none => c.owner = none

theorem ownerPlace?_lt {i : Nat} (h : c.ownerPlace? tables = some i) : i < tables.length := by
  unfold ownerPlace? at h
  split at h
  · rcases Option.or_eq_some_iff.mp h with halias | ⟨-, hname⟩
    · exact (List.findIdx?_eq_some_iff_getElem.mp halias).1
    · exact (List.findIdx?_eq_some_iff_getElem.mp hname).1
  · obtain ⟨hlength, rfl⟩ : tables.length = 1 ∧ 0 = i := by simpa using h
    omega

/-- The owner is the table that stands at the place. -/
theorem owner?_eq_bind_ownerPlace? (c : Column) (tables : List Table) :
    c.owner? tables = (c.ownerPlace? tables).bind fun i => tables[i]? := by
  unfold owner? ownerPlace?
  rcases c.qualifier with _ | qualifier
  · rcases tables with _ | ⟨t, _ | ⟨u, rest⟩⟩ <;> simp
  · dsimp only
    rw [List.find?_eq_bind_findIdx?_getElem?, List.find?_eq_bind_findIdx?_getElem?]
    rcases halias : tables.findIdx? (fun t => t.IsAliasedAs qualifier) with _ | i
    · simp [halias]
    · have hi : i < tables.length := (List.findIdx?_eq_some_iff_getElem.mp halias).1
      simp [halias, List.getElem?_eq_getElem hi]

theorem isBoundAt_ownedAmong (c : Column) (tables : List Table) :
    (c.ownedAmong tables).IsBoundAt tables (c.ownerPlace? tables) := by
  unfold ownedAmong IsBoundAt
  rw [owner?_eq_bind_ownerPlace?]
  rcases hplace : c.ownerPlace? tables with _ | i
  · rfl
  · have hi := ownerPlace?_lt hplace
    exact ⟨tables[i], List.getElem?_eq_getElem hi, by simp [List.getElem?_eq_getElem hi]⟩

theorem ownerPlace?_eq_of_respelled (hc : c.IsRespelling c')
    (htables : List.Forall₂ Table.IsRespelling tables tables') :
    c'.ownerPlace? tables' = c.ownerPlace? tables := by
  cases hc with
  | ofRaw span span' name hqualifier =>
      cases hqualifier with
      | none => simp [ownerPlace?, Column.ofRaw, htables.length_eq]
      | some hq =>
          have haliases := Table.findIdx?_isAliasedAs_eq htables hq
          have hnames := Table.findIdx?_isNamed_eq htables hq
          simp only [ownerPlace?, Column.ofRaw, Option.map_some, haliases, hnames]

theorem IsRespelling.owner_eq_none (h : c.IsRespelling c') : c.owner = none ∧ c'.owner = none := by
  cases h with
  | ofRaw span span' name hqualifier => exact ⟨rfl, rfl⟩

theorem owner?_eq_of_perm (c : Column) (haliases : tables.Pairwise Table.AliasesDiffer)
    (hnames : tables.Pairwise Table.NamesDiffer) (hperm : tables.Perm tables') :
    c.owner? tables' = c.owner? tables := by
  unfold owner?
  rcases c.qualifier with _ | qualifier
  · rcases tables with _ | ⟨t, _ | ⟨u, rest⟩⟩
    · rw [List.nil_perm.mp hperm]
    · rw [List.singleton_perm.mp hperm]
    · rcases tables' with _ | ⟨t', _ | ⟨u', rest'⟩⟩
      · rfl
      · exact absurd hperm.length_eq (by simp)
      · rfl
  · dsimp only
    rw [find?_eq_of_perm hperm fun t ht u hu hta hua => Table.eq_of_isAliasedAs haliases ht hu
        (of_decide_eq_true hta) (of_decide_eq_true hua),
      find?_eq_of_perm hperm fun t ht u hu htn hun => Table.eq_of_isNamed hnames ht hu
        (of_decide_eq_true htn) (of_decide_eq_true hun)]

end Column

variable {columns columns' : List Column} {tables tables' : List Table}

theorem unbound_of_respelled (h : List.Forall₂ Column.IsRespelling columns columns') :
    (∀ c ∈ columns, c.owner = none) ∧ ∀ c ∈ columns', c.owner = none := by
  have hleft := h.imp fun _ _ hc => And.intro hc.owner_eq_none.1 hc
  have hright := h.flip.imp fun _ _ hc => And.intro hc.owner_eq_none.2 hc
  exact ⟨((List.forall₂_and_left _ _).mp hleft).1, ((List.forall₂_and_left _ _).mp hright).1⟩

theorem map_ownerPlace?_of_respelled (hcolumns : List.Forall₂ Column.IsRespelling columns columns')
    (htables : List.Forall₂ Table.IsRespelling tables tables') :
    columns'.map (Column.ownerPlace? tables') = columns.map (Column.ownerPlace? tables) := by
  rw [← List.forall₂_eq_eq_eq, List.forall₂_map_left_iff, List.forall₂_map_right_iff]
  exact hcolumns.flip.imp fun _ _ hc => Column.ownerPlace?_eq_of_respelled hc htables

theorem forall₂_isBoundAt (columns : List Column) (tables : List Table) :
    List.Forall₂ (Column.IsBoundAt tables) (columns.map (Column.ownerPlace? tables))
      (columns.map (Column.ownedAmong tables)) := by
  rw [List.forall₂_map_left_iff, List.forall₂_map_right_iff, List.forall₂_same]
  intro c _
  exact c.isBoundAt_ownedAmong tables

/-- Columns get the same owners however names are spelled, and in every order of the tables where
these share no alias and no name. -/
theorem resolveOwners_respelled_reordered :
    (∀ (columns columns' : List Column) (tables tables' : List Table),
      List.Forall₂ Column.IsRespelling columns columns' →
      List.Forall₂ Table.IsRespelling tables tables' →
      columns'.map (Column.ownerPlace? tables') = columns.map (Column.ownerPlace? tables) ∧
      ∃ resolved resolved',
        (resolveOwners columns tables).outcome = .ok resolved ∧
        (resolveOwners columns' tables').outcome = .ok resolved' ∧
        List.Forall₂ (Column.IsBoundAt tables) (columns.map (Column.ownerPlace? tables)) resolved ∧
        List.Forall₂ (Column.IsBoundAt tables') (columns.map (Column.ownerPlace? tables))
          resolved') ∧
    ∀ (columns : List Column) (tables tables' : List Table), (∀ c ∈ columns, c.owner = none) →
      tables.Pairwise Table.AliasesDiffer → tables.Pairwise Table.NamesDiffer →
      tables.Perm tables' →
      ∃ resolved, (resolveOwners columns tables).outcome = .ok resolved ∧
        (resolveOwners columns tables').outcome = .ok resolved := by
  refine ⟨?_, ?_⟩
  · intro columns columns' tables tables' hcolumns htables
    obtain ⟨hunbound, hunbound'⟩ := unbound_of_respelled hcolumns
    have hplaces := map_ownerPlace?_of_respelled hcolumns htables
    refine ⟨hplaces, _, _, resolveOwners_unbound hunbound tables,
      resolveOwners_unbound hunbound' tables', forall₂_isBoundAt columns tables, ?_⟩
    rw [← hplaces]
    exact forall₂_isBoundAt columns' tables'
  · intro columns tables tables' hunbound haliases hnames hperm
    have howned : columns.map (Column.ownedAmong tables') =
        columns.map (Column.ownedAmong tables) := by
      refine List.map_congr_left fun c _ => ?_
      rw [Column.ownedAmong, Column.ownedAmong, c.owner?_eq_of_perm haliases hnames hperm]
    refine ⟨_, resolveOwners_unbound hunbound tables, ?_⟩
    rw [resolveOwners_unbound hunbound tables', howned]

/-- The tables of `aliasTables`, spelled in another way. -/
def respelledTables : List Table :=
  [.ofRaw ⟨5, 7⟩ "[O]" none none, .ofRaw ⟨9, 15⟩ " Orders" none (some "'o'")]

def respelledColumns : List Column :=
  [.ofRaw ⟨34, 40⟩ "id" (some "[O] "), .ofRaw ⟨43, 51⟩ "id" (some "oRDERS"),
    .ofRaw ⟨54, 59⟩ "id" (some "SUB"), .ofRaw ⟨62, 63⟩ "id" none]

theorem respelledTables_resolved :
    List.Forall₂ Column.IsRespelling aliasColumns respelledColumns ∧
      List.Forall₂ Table.IsRespelling aliasTables respelledTables ∧
      respelledColumns.map (Column.ownerPlace? respelledTables) = [some 1, some 1, none, none] ∧
      (∀ c ∈ aliasColumns, c.owner = none) ∧ aliasTables.Pairwise Table.AliasesDiffer ∧
      aliasTables.Pairwise Table.NamesDiffer ∧ aliasTables.Perm aliasTables.reverse ∧
      ∃ resolved, (resolveOwners aliasColumns aliasTables.reverse).outcome = .ok resolved ∧
        resolved.map Column.owner = [some ⟨"orders", 8⟩, some ⟨"orders", 8⟩, none, none] := by
  obtain ⟨hrespelled, hreordered⟩ := resolveOwners_respelled_reordered
  have hcolumns : List.Forall₂ Column.IsRespelling aliasColumns respelledColumns :=
    .cons (.ofRaw _ _ _ (.some (by decide))) <| .cons (.ofRaw _ _ _ (.some (by decide))) <|
      .cons (.ofRaw _ _ _ (.some (by decide))) <| .cons (.ofRaw _ _ _ .none) .nil
  have htables : List.Forall₂ Table.IsRespelling aliasTables respelledTables :=
    .cons (.ofRaw _ _ _ (by decide) .none) <|
      .cons (.ofRaw _ _ _ (by decide) (.some (by decide))) .nil
  have hunbound : ∀ c ∈ aliasColumns, c.owner = none := by decide
  have haliases : aliasTables.Pairwise Table.AliasesDiffer :=
    List.pairwise_pair.mpr fun _ _ ha => nomatch ha
  have hnames : aliasTables.Pairwise Table.NamesDiffer :=
    List.pairwise_pair.mpr (by decide : ¬CaselessEq _ _)
  have hperm : aliasTables.Perm aliasTables.reverse := (List.reverse_perm _).symm
  obtain ⟨hplaces, -⟩ := hrespelled _ _ _ _ hcolumns htables
  obtain ⟨resolved, hresolved, hreversed⟩ := hreordered _ _ _ hunbound haliases hnames hperm
  refine ⟨hcolumns, htables, ?_, hunbound, haliases, hnames, hperm, resolved, hreversed, ?_⟩
  · rw [hplaces]
    decide
  · have hok : (resolveOwners aliasColumns aliasTables).outcome =
        .ok (aliasColumns.map (Column.ownedAmong aliasTables)) :=
      resolveOwners_unbound hunbound aliasTables
    rw [hok] at hresolved
    cases hresolved
    decide

end StatementSegments
