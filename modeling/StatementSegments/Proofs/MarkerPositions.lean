import StatementSegments.Proofs.MarkerNumbers
import StatementSegments.Proofs.NodeIntervals
import StatementSegments.Proofs.StepStreams

namespace StatementSegments

theorem Node.countP_id_lt {ns : List Node} (hsorted : ns.Pairwise fun a b => a.id < b.id)
    {k : Nat} {n : Node} (h : ns[k]? = some n) :
    ns.countP (fun m => decide (m.id < n.id)) = k := by
  induction ns generalizing k with
  | nil => cases h
  | cons m ns ih =>
      obtain ⟨hm, hns⟩ := List.pairwise_cons.mp hsorted
      cases k with
      | zero =>
          -- Nothing is counted, since all nodes behind the first have larger identities.
          obtain rfl : m = n := Option.some.inj h
          rw [List.countP_eq_zero]
          intro other hother
          rcases List.mem_cons.mp hother with rfl | hlater
          · simp
          · simpa using Nat.le_of_lt (hm other hlater)
      | succ k =>
          have hn : n ∈ ns := List.mem_of_getElem? h
          rw [List.countP_cons_of_pos (by simpa using hm n hn), ih hns h]

namespace ParseTree

theorem allOf_parameterMarker (tree : ParseTree) :
    tree.root.allOf .parameterMarker = tree.markers :=
  Node.allOf_eq tree.root .parameterMarker

namespace IsBuilt

variable {tree : ParseTree} (hbuilt : tree.IsBuilt)
include hbuilt

theorem markers_pairwise : tree.markers.Pairwise fun a b => a.id < b.id :=
  hbuilt.ids_pairwise.filter _

theorem isSome_number?_iff {id : Nat} :
    ((MarkerNumbering.ofNode tree.root).number? id).isSome = true ↔
      ∃ n ∈ tree.nodes, n.isRule .parameterMarker = true ∧ n.id = id := by
  rw [Option.isSome_iff_exists]
  simp only [MarkerNumbering.number?_ofNode_eq_some_iff hbuilt.ids_nodup]
  rw [← List.mem_iff_getElem?, List.mem_map]
  simp only [mem_markers_iff, and_assoc]

theorem number?_lt_size {id k : Nat}
    (h : (MarkerNumbering.ofNode tree.root).number? id = some k) :
    k < (MarkerNumbering.ofNode tree.root).size := by
  rw [MarkerNumbering.number?_ofNode_eq_some_iff hbuilt.ids_nodup] at h
  rw [MarkerNumbering.size_ofNode hbuilt.ids_nodup, ← List.length_map Node.id]
  exact (List.getElem?_eq_some_iff.mp h).1

theorem existsUnique_number? {k : Nat} (hk : k < (MarkerNumbering.ofNode tree.root).size) :
    ∃! id, (MarkerNumbering.ofNode tree.root).number? id = some k := by
  rw [MarkerNumbering.size_ofNode hbuilt.ids_nodup, ← List.length_map Node.id] at hk
  simp only [MarkerNumbering.number?_ofNode_eq_some_iff hbuilt.ids_nodup]
  refine ⟨_, List.getElem?_eq_getElem hk, ?_⟩
  intro id hid
  rw [List.getElem?_eq_getElem hk] at hid
  exact (Option.some.inj hid).symm

theorem number?_iff_getElem? {n : Node} (hn : n ∈ tree.nodes) {k : Nat} :
    (MarkerNumbering.ofNode tree.root).number? n.id = some k ↔
      (tree.root.allOf .parameterMarker)[k]? = some n := by
  rw [MarkerNumbering.number?_ofNode_node_iff hbuilt.ids_nodup hn, allOf_parameterMarker]

theorem number?_eq_countP {n : Node} (hn : n ∈ tree.nodes) {k : Nat}
    (h : (MarkerNumbering.ofNode tree.root).number? n.id = some k) :
    k = tree.nodes.countP fun m => m.isRule .parameterMarker && decide (m.id < n.id) := by
  have hcount := Node.countP_id_lt hbuilt.markers_pairwise
    ((MarkerNumbering.number?_ofNode_node_iff hbuilt.ids_nodup hn).mp h)
  rw [markers, List.countP_filter] at hcount
  simp only [Bool.and_comm (Node.isRule _ _)]
  exact hcount.symm

/-- Of two markers of which neither holds the other, the one with the smaller number comes first. -/
theorem stop_lt_start_of_number?_lt {a b : Node} (ha : a ∈ tree.nodes) (hb : b ∈ tree.nodes)
    (hapart : b ∉ a.nodes) {i j : Nat}
    (hi : (MarkerNumbering.ofNode tree.root).number? a.id = some i)
    (hj : (MarkerNumbering.ofNode tree.root).number? b.id = some j) (hlt : i < j) :
    a.stop < b.start := by
  rw [MarkerNumbering.number?_ofNode_node_iff hbuilt.ids_nodup ha, List.getElem?_eq_some_iff] at hi
  rw [MarkerNumbering.number?_ofNode_node_iff hbuilt.ids_nodup hb, List.getElem?_eq_some_iff] at hj
  obtain ⟨hi, rfl⟩ := hi
  obtain ⟨hj, rfl⟩ := hj
  have hids := List.pairwise_iff_getElem.mp hbuilt.markers_pairwise i j hi hj hlt
  exact hbuilt.stop_lt_start_of_not_mem ha hb hids hapart

end IsBuilt

/-- The number of a marker is its position among all markers, so that markers that do not hold one
another are numbered in the order of the text. -/
theorem markers_numbered {tree : ParseTree} (hbuilt : tree.IsBuilt) :
    (∀ id, ((MarkerNumbering.ofNode tree.root).number? id).isSome = true ↔
      ∃ n ∈ tree.nodes, n.isRule .parameterMarker = true ∧ n.id = id) ∧
    (∀ id k, (MarkerNumbering.ofNode tree.root).number? id = some k →
      k < (MarkerNumbering.ofNode tree.root).size) ∧
    (∀ k, k < (MarkerNumbering.ofNode tree.root).size →
      ∃! id, (MarkerNumbering.ofNode tree.root).number? id = some k) ∧
    (∀ n ∈ tree.nodes, ∀ k, (MarkerNumbering.ofNode tree.root).number? n.id = some k ↔
      (tree.root.allOf .parameterMarker)[k]? = some n) ∧
    (∀ n ∈ tree.nodes, ∀ k, (MarkerNumbering.ofNode tree.root).number? n.id = some k →
      k = tree.nodes.countP fun m => m.isRule .parameterMarker && decide (m.id < n.id)) ∧
    ∀ a ∈ tree.nodes, ∀ b ∈ tree.nodes, ∀ i j,
      (MarkerNumbering.ofNode tree.root).number? a.id = some i →
      (MarkerNumbering.ofNode tree.root).number? b.id = some j →
      b ∉ a.nodes → a ∉ b.nodes → i < j → a.stop < b.start := by
  refine ⟨?_, ?_, ?_, ?_, ?_, ?_⟩
  · intro id
    exact hbuilt.isSome_number?_iff
  · intro id k h
    exact hbuilt.number?_lt_size h
  · intro k hk
    exact hbuilt.existsUnique_number? hk
  · intro n hn k
    exact hbuilt.number?_iff_getElem? hn
  · intro n hn k h
    exact hbuilt.number?_eq_countP hn h
  · intro a ha b hb i j hi hj hapart _ hlt
    exact hbuilt.stop_lt_start_of_number?_lt ha hb hapart hi hj hlt

/-- A marker that holds a token of the same name and another marker, with a third one behind. -/
def nestedMarkers : ParseTree where
  text := StatementText.ofString "?(?), ?"
  root :=
    .rule 0 "expr" ⟨0, 6⟩
      [.rule 1 "parameterMarker" ⟨0, 3⟩
          [.token 2 "parameterMarker" ⟨0, 0⟩,
            .rule 3 "parameterMarker" ⟨2, 2⟩ [.token 4 "QUESTION_" ⟨2, 2⟩]],
        .rule 5 "parameterMarker" ⟨6, 6⟩ [.token 6 "QUESTION_" ⟨6, 6⟩]]

theorem nestedMarkers_numbered :
    nestedMarkers.IsBuilt ∧
      (MarkerNumbering.ofNode nestedMarkers.root).number? 2 = none ∧
      (MarkerNumbering.ofNode nestedMarkers.root).number? 3 = some 1 ∧
      (MarkerNumbering.ofNode nestedMarkers.root).number? 5 = some 2 ∧ 2 < 6 := by
  have hbuilt : nestedMarkers.IsBuilt := ⟨"?(?), ?", nestedMarkers.root.steps, rfl⟩
  obtain ⟨hdefined, -, -, hposition, -, horder⟩ := markers_numbered hbuilt
  have hinner : Node.rule 3 "parameterMarker" ⟨2, 2⟩ [.token 4 "QUESTION_" ⟨2, 2⟩] ∈
      nestedMarkers.nodes := by
    simp [nestedMarkers, nodes, Node.nodes]
  have hlast : Node.rule 5 "parameterMarker" ⟨6, 6⟩ [.token 6 "QUESTION_" ⟨6, 6⟩] ∈
      nestedMarkers.nodes := by
    simp [nestedMarkers, nodes, Node.nodes]
  have htoken : ∀ n ∈ nestedMarkers.nodes, n.isRule .parameterMarker = true → n.id ≠ 2 := by
    decide
  have hinnerNumber := (hposition _ hinner 1).mpr (by rw [allOf_parameterMarker]; rfl)
  have hlastNumber := (hposition _ hlast 2).mpr (by rw [allOf_parameterMarker]; rfl)
  refine ⟨hbuilt, ?_, hinnerNumber, hlastNumber, ?_⟩
  · rw [← Option.not_isSome_iff_eq_none, hdefined]
    rintro ⟨n, hn, hrule, hid⟩
    exact htoken n hn hrule hid
  · exact horder _ hinner _ hlast 1 2 hinnerNumber hlastNumber (by simp [Node.nodes])
      (by simp [Node.nodes]) (by decide)

end ParseTree

end StatementSegments
