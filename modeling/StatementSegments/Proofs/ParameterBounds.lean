import StatementSegments.Proofs.BoundSources
import StatementSegments.Proofs.BuiltTree
import StatementSegments.Proofs.MarkerNumbers
import StatementSegments.Proofs.SelectStages

namespace StatementSegments

/-- The bounds that are reported, as they are written in a TOP or a LIMIT clause. -/
def Select.bounds (selected : Select) : List BoundSegment :=
  (selected.top.toList.map fun t => ⟨t.span, t.bound⟩) ++
    selected.limit.toList.flatMap fun l => l.offset.toList ++ l.rowCount.toList

theorem Select.mem_bounds_iff {selected : Select} {b : BoundSegment} :
    b ∈ selected.bounds ↔
      (∃ t, selected.top = some t ∧ b = ⟨t.span, t.bound⟩) ∨
        ∃ l, selected.limit = some l ∧ (l.offset = some b ∨ l.rowCount = some b) := by
  simp [bounds, eq_comm]

namespace Statement

variable {s : Statement} {dialect : Dialect} {selected : Select}

theorem isReadFrom_of_top? {t : Top} (h : (s.top? s.tree.root).outcome = .ok (some t)) :
    ∃ value ∈ s.tree.nodes, s.IsReadFrom value t.span t.bound.source := by
  obtain ⟨clause, value, b, hclause, hvalue, hb, hspan, hsource⟩ := top?_eq_some h
  rw [hspan, hsource]
  exact ⟨value, Node.mem_nodes_of_nearest? hclause hvalue, isReadFrom_of_boundAt hb⟩

theorem isReadFrom_of_limit? {l : Limit} {b : BoundSegment}
    (h : (s.limit? s.tree.root).outcome = .ok (some l))
    (hb : l.offset = some b ∨ l.rowCount = some b) :
    ∃ value ∈ s.tree.nodes, s.IsReadFrom value b.span b.bound.source := by
  obtain ⟨clause, hclause, -, hoffset, hrowCount⟩ := limit?_eq_some h
  rcases hb with hb | hb
  · obtain ⟨value, hvalue, hread⟩ := hoffset b hb
    exact ⟨value, Node.mem_nodes_of_nearest? hclause hvalue, isReadFrom_of_boundAt hread⟩
  · obtain ⟨value, hvalue, hread⟩ := hrowCount b hb
    exact ⟨value, Node.mem_nodes_of_nearest? hclause hvalue, isReadFrom_of_boundAt hread⟩

theorem isReadFrom_of_mem_bounds (h : (s.select dialect).outcome = .ok selected)
    {b : BoundSegment} (hb : b ∈ selected.bounds) :
    ∃ value ∈ s.tree.nodes, s.IsReadFrom value b.span b.bound.source := by
  obtain ⟨columns, hselected⟩ := select_eq_ok_iff.mp h
  obtain ⟨htop, hlimit⟩ := clauses_eq_ok_iff.mp hselected.clauses_ok
  rcases Select.mem_bounds_iff.mp hb with ⟨t, ht, rfl⟩ | ⟨l, hl, hb⟩
  · rw [ht] at htop
    exact isReadFrom_of_top? (Logged.outcome_ite_none_eq_some_iff.mp htop).2
  · rw [hl] at hlimit
    exact isReadFrom_of_limit? (Logged.outcome_ite_none_eq_some_iff.mp hlimit).2 hb

end Statement

namespace ParseTree.IsBuilt

variable {tree : ParseTree} (hbuilt : tree.IsBuilt)
include hbuilt

theorem marker_of_isReadFrom {value : Node} (hvalue : value ∈ tree.nodes) {span : Span}
    {index : Nat}
    (h : (Statement.mk tree (.ofNode tree.root)).IsReadFrom value span (.parameter index)) :
    ∃ marker, tree.markers[index]? = some marker ∧ span.Encloses marker.span := by
  obtain ⟨rfl, marker, hnarrows, -, hdenotes⟩ := h
  cases hdenotes with
  | parameter hrule hindex =>
      have hmem := Node.mem_nodes_trans hnarrows.mem_nodes hvalue
      exact ⟨marker, (MarkerNumbering.number?_ofNode_node_iff hbuilt.ids_nodup hmem).mp hindex,
        (hbuilt.nested.below hvalue).encloses hnarrows.mem_nodes⟩

theorem markers_lt_of_start_lt {i j : Nat} {a b : Node} (hi : tree.markers[i]? = some a)
    (hj : tree.markers[j]? = some b) (h : a.start < b.start) : i < j := by
  have hsorted : tree.markers.Pairwise fun a b => a.start ≤ b.start :=
    hbuilt.nested.starts_pairwise.filter _
  obtain ⟨hilt, rfl⟩ := List.getElem?_eq_some_iff.mp hi
  obtain ⟨hjlt, rfl⟩ := List.getElem?_eq_some_iff.mp hj
  by_contra hle
  rcases Nat.lt_or_eq_of_le (Nat.le_of_not_lt hle) with hlt | rfl
  · have hstart := List.pairwise_iff_getElem.mp hsorted j i hjlt hilt hlt
    exact Nat.not_lt_of_le hstart h
  · exact Nat.lt_irrefl _ h

theorem markers_lt_of_encloses {i j : Nat} {a b : Node} {first second : Span}
    (hi : tree.markers[i]? = some a) (hj : tree.markers[j]? = some b)
    (ha : first.Encloses a.span) (hb : second.Encloses b.span)
    (h : first.stop < second.start) : i < j := by
  apply hbuilt.markers_lt_of_start_lt hi hj
  have hmem := (ParseTree.mem_markers_iff.mp (List.mem_of_getElem? hi)).1
  have horder : a.start ≤ a.stop := (hbuilt.nested a hmem).start_le_stop
  calc
    a.start ≤ a.stop := horder
    _ ≤ first.stop := ha.2
    _ < second.start := h
    _ ≤ b.start := hb.1

section Bounds

variable {dialect : Dialect} {selected : Select} {b : BoundSegment}
  (h : ((Statement.mk tree (.ofNode tree.root)).select dialect).outcome = .ok selected)
include h

theorem marker_of_mem_bounds (hb : b ∈ selected.bounds) {index : Nat}
    (hsource : b.bound.source = .parameter index) :
    ∃ marker, tree.markers[index]? = some marker ∧ b.span.Encloses marker.span := by
  obtain ⟨value, hvalue, hread⟩ := Statement.isReadFrom_of_mem_bounds h hb
  rw [hsource] at hread
  exact hbuilt.marker_of_isReadFrom hvalue hread

theorem start_le_stop_of_mem_bounds (hb : b ∈ selected.bounds) : b.span.start ≤ b.span.stop := by
  obtain ⟨value, hvalue, hread⟩ := Statement.isReadFrom_of_mem_bounds h hb
  rw [hread.1]
  exact (hbuilt.nested value hvalue).start_le_stop

end Bounds

end ParseTree.IsBuilt

/-- Parameters that bound the rows are markers of the statement, each within the span of its bound,
and those of an offset and a row count that are apart come in the order of the text. -/
theorem select_bounds_parameter {tree : ParseTree} {dialect : Dialect} {selected : Select}
    (hbuilt : tree.IsBuilt)
    (h : (Statement.ofTree tree >>= Statement.select dialect).outcome = .ok selected) :
    (∀ b ∈ selected.bounds, ∀ index, b.bound.source = .parameter index →
      index < tree.markers.length ∧
        ∃ marker, tree.markers[index]? = some marker ∧ b.span.Encloses marker.span) ∧
    ∀ l offset rowCount i j, selected.limit = some l → l.offset = some offset →
      l.rowCount = some rowCount → offset.bound.source = .parameter i →
      rowCount.bound.source = .parameter j → offset.span.Disjoint rowCount.span →
      i ≠ j ∧ (i < j ∧ offset.span.stop < rowCount.span.start ∨
        j < i ∧ rowCount.span.stop < offset.span.start) := by
  rw [Statement.outcome_ofTree_bind] at h
  refine ⟨?_, ?_⟩
  · intro b hb index hsource
    obtain ⟨marker, hget, hencloses⟩ := hbuilt.marker_of_mem_bounds h hb hsource
    exact ⟨(List.getElem?_eq_some_iff.mp hget).1, marker, hget, hencloses⟩
  · intro l offset rowCount i j hl hoffset hrowCount hi hj hdisjoint
    have hoffsetMem := Select.mem_bounds_iff.mpr (Or.inr ⟨l, hl, Or.inl hoffset⟩)
    have hrowCountMem := Select.mem_bounds_iff.mpr (Or.inr ⟨l, hl, Or.inr hrowCount⟩)
    obtain ⟨a, ha, haspan⟩ := hbuilt.marker_of_mem_bounds h hoffsetMem hi
    obtain ⟨b, hb, hbspan⟩ := hbuilt.marker_of_mem_bounds h hrowCountMem hj
    have hoffsetOrder := hbuilt.start_le_stop_of_mem_bounds h hoffsetMem
    have hrowCountOrder := hbuilt.start_le_stop_of_mem_bounds h hrowCountMem
    rcases hdisjoint.stop_lt_start hoffsetOrder hrowCountOrder with hbefore | hbehind
    · have hlt : i < j := hbuilt.markers_lt_of_encloses ha hb haspan hbspan hbefore
      exact ⟨Nat.ne_of_lt hlt, Or.inl ⟨hlt, hbefore⟩⟩
    · have hlt : j < i := hbuilt.markers_lt_of_encloses hb ha hbspan haspan hbehind
      exact ⟨Nat.ne_of_gt hlt, Or.inr ⟨hlt, hbehind⟩⟩

/-- What is extracted from the clause with two parameters. -/
def limitSelect : Select where
  top := none
  limit := some ⟨⟨2, 11⟩, some ⟨⟨8, 8⟩, .ofParameter 0⟩, some ⟨⟨11, 11⟩, .ofParameter 1⟩⟩
  tables := []
  columns := []

theorem select_limitTree :
    (Statement.ofTree ParseTree.limitTree >>= Statement.select .mySql).outcome =
      .ok limitSelect := by
  -- Without the message that is logged at the end there is much less to compute.
  rw [Statement.outcome_ofTree_bind, Statement.outcome_select]
  with_unfolding_all rfl

theorem limitTree_bounds_parameter :
    ParseTree.limitTree.IsBuilt ∧
      (∃ marker, ParseTree.limitTree.markers[1]? = some marker ∧
        Span.Encloses ⟨11, 11⟩ marker.span) ∧
      (0 < 1 ∧ 8 < 11 ∨ 1 < 0 ∧ 11 < 8) := by
  have hbuilt : ParseTree.limitTree.IsBuilt := ⟨_, _, ParseTree.finish_limitSteps⟩
  obtain ⟨hmarker, horder⟩ := select_bounds_parameter hbuilt select_limitTree
  have happart : Span.Disjoint ⟨8, 8⟩ ⟨11, 11⟩ := by
    intro offset h8 h11
    have hle : offset ≤ 8 := h8.2
    have hge : 11 ≤ offset := h11.1
    omega
  refine ⟨hbuilt, (hmarker ⟨⟨11, 11⟩, .ofParameter 1⟩ (by decide) 1 rfl).2, ?_⟩
  exact (horder _ _ _ 0 1 rfl rfl rfl rfl rfl happart).2

end StatementSegments
