import StatementSegments.Proofs.SelectedParts

namespace StatementSegments

namespace ParseTree

/-- No node made by `r` is below another one. -/
def IsFlat (tree : ParseTree) (r : Rule) : Prop :=
  ∀ a ∈ tree.nodes, ∀ b ∈ a.nodes, a.isRule r = true → b.isRule r = true → b = a

theorem IsBuilt.starts_pairwise_of_isFlat {tree : ParseTree} (hbuilt : tree.IsBuilt) {r : Rule}
    (hflat : tree.IsFlat r) :
    (tree.nodes.filter (·.isRule r)).Pairwise fun a b => a.start < b.start := by
  refine (hbuilt.ids_pairwise.filter _).imp_of_mem ?_
  intro a b ha hb hlt
  obtain ⟨ha, harule⟩ := List.mem_filter.mp ha
  obtain ⟨hb, hbrule⟩ := List.mem_filter.mp hb
  have hapart : b ∉ a.nodes := by
    intro hbelow
    rw [hflat a ha b hbelow harule hbrule] at hlt
    exact Nat.lt_irrefl a.id hlt
  calc
    a.start ≤ a.stop := (hbuilt.nested a ha).start_le_stop
    _ < b.start := hbuilt.stop_lt_start_of_not_mem ha hb hlt hapart

end ParseTree

namespace Statement

variable {s : Statement} {dialect : Dialect} {selected : Select}
  (h : (s.select dialect).outcome = .ok selected)
include h

theorem exists_table_of_owner {c : Column} (hc : c ∈ selected.columns) {owner : TableRef}
    (howner : c.owner = some owner) : ∃ t ∈ selected.tables, owner = t.ref := by
  obtain ⟨columns, hselected⟩ := select_eq_ok_iff.mp h
  rw [hselected.columns_eq] at hc
  obtain ⟨unbound, -, rfl⟩ := List.mem_map.mp hc
  exact (Column.owner?_eq_iff_belongsTo.mp howner).exists_table

theorem select_starts_pairwise (hbuilt : s.tree.IsBuilt) (hflat : s.tree.IsFlat .tableName) :
    (selected.tables.map fun t => t.span.start).Pairwise (· < ·) := by
  have hstarts : selected.tables.map (fun t => t.span.start) =
      (s.tree.nodes.filter (·.isRule .tableName)).map fun n => n.span.start := by
    simpa [Function.comp_def] using
      congrArg (List.map Span.start) (select_tables_spans h)
  rw [hstarts, List.pairwise_map]
  exact hbuilt.starts_pairwise_of_isFlat hflat

theorem existsUnique_start (hbuilt : s.tree.IsBuilt) (hflat : s.tree.IsFlat .tableName)
    {t : Table} (ht : t ∈ selected.tables) :
    ∃! i : Nat, (selected.tables.map fun t => t.span.start)[i]? = some t.span.start := by
  obtain ⟨i, hi⟩ := List.mem_iff_getElem?.mp (List.mem_map_of_mem ht)
  refine ⟨i, hi, ?_⟩
  intro j hj
  -- Starts that increase differ, so one start is not found at two places.
  have hnodup : (selected.tables.map fun t => t.span.start).Nodup :=
    (select_starts_pairwise h hbuilt hflat).imp Nat.ne_of_lt
  have hlt : i < (selected.tables.map fun t => t.span.start).length :=
    (List.getElem?_eq_some_iff.mp hi).1
  exact ((List.getElem?_inj hlt hnodup).mp (hi.trans hj.symm)).symm

end Statement

/-- Every owner is named after a table of the selection and says where that one starts; with no
table within another the start alone tells which it is. -/
theorem select_owners {tree : ParseTree} (hbuilt : tree.IsBuilt) {markers : MarkerNumbering}
    {dialect : Dialect} {selected : Select}
    (h : (Statement.select dialect ⟨tree, markers⟩).outcome = .ok selected) :
    (∀ c ∈ selected.columns, ∀ owner, c.owner = some owner →
      ∃ t ∈ selected.tables, owner.name = t.name ∧ owner.start = t.span.start) ∧
    (tree.IsFlat .tableName →
      (selected.tables.map fun t => t.span.start).Pairwise (· < ·) ∧
      ∀ c ∈ selected.columns, ∀ owner, c.owner = some owner →
        ∃! i : Nat, (selected.tables.map fun t => t.span.start)[i]? = some owner.start) := by
  refine ⟨?_, ?_⟩
  · intro c hc owner howner
    obtain ⟨t, ht, rfl⟩ := Statement.exists_table_of_owner h hc howner
    exact ⟨t, ht, rfl, rfl⟩
  · intro hflat
    refine ⟨Statement.select_starts_pairwise h hbuilt hflat, ?_⟩
    intro c hc owner howner
    obtain ⟨t, ht, rfl⟩ := Statement.exists_table_of_owner h hc howner
    exact Statement.existsUnique_start h hbuilt hflat ht

theorem ordersTree_owners :
    ordersTree.IsBuilt ∧
      (Statement.select .mySql ⟨ordersTree, ⟨[(22, 7)]⟩⟩).outcome = .ok ordersSelect ∧
      (∃ t ∈ ordersTables, "orders" = t.name ∧ 19 = t.span.start) ∧
      ∃! i : Nat, (ordersTables.map fun t => t.span.start)[i]? = some 19 := by
  obtain ⟨howners, hflat⟩ := select_owners ordersTree_isBuilt select_ordersTree
  have hcolumn : (⟨⟨7, 9⟩, "c", some "o", some ⟨"orders", 19⟩⟩ : Column) ∈
      ordersSelect.columns := by
    decide
  have hids : ∀ a ∈ ordersTree.nodes, ∀ b ∈ a.nodes,
      a.isRule .tableName = true → b.isRule .tableName = true → b.id = a.id := by
    decide
  have hapart : ordersTree.IsFlat .tableName := by
    intro a ha b hb harule hbrule
    exact Node.eq_of_id_eq ordersTree_isBuilt.ids_nodup (Node.mem_nodes_trans hb ha) ha
      (hids a ha b hb harule hbrule)
  exact ⟨ordersTree_isBuilt, select_ordersTree, howners _ hcolumn _ rfl,
    (hflat hapart).2 _ hcolumn _ rfl⟩

end StatementSegments
