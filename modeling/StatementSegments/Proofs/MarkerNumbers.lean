import StatementSegments.Proofs.VisitOrder
import StatementSegments.Statement

namespace StatementSegments

/-- The parameter markers of a tree, in the order of the text. -/
def ParseTree.markers (tree : ParseTree) : List Node :=
  tree.nodes.filter (·.isRule .parameterMarker)

theorem ParseTree.mem_markers_iff {tree : ParseTree} {n : Node} :
    n ∈ tree.markers ↔ n ∈ tree.nodes ∧ n.isRule .parameterMarker = true := by
  rw [markers, List.mem_filter]

namespace MarkerNumbering

theorem foldl_insertNode_filter (numbering : MarkerNumbering) (ns : List Node) :
    ns.foldl insertNode numbering =
      (ns.filter (·.isRule .parameterMarker)).foldl insertNode numbering := by
  rw [List.foldl_filter]
  congr 1
  funext numbering n
  unfold insertNode
  split <;> rfl

theorem ofNode_root (tree : ParseTree) :
    ofNode tree.root = tree.markers.foldl insertNode empty := by
  rw [ofNode, foldl_insertNode_filter]
  exact congrArg _ (Node.allOf_eq tree.root .parameterMarker)

theorem insertNode_of_isRule {n : Node} (h : n.isRule .parameterMarker = true)
    (numbering : MarkerNumbering) :
    numbering.insertNode n = numbering.insert n.id numbering.size := by
  rw [insertNode, if_pos h]

theorem isSome_number?_insertNode {numbering : MarkerNumbering} {id : Nat}
    (h : (numbering.number? id).isSome = true) (n : Node) :
    ((numbering.insertNode n).number? id).isSome = true := by
  unfold insertNode
  split
  · rw [number?_insert]
    split
    · rfl
    · exact h
  · exact h

theorem isSome_number?_foldl {numbering : MarkerNumbering} {id : Nat}
    (h : (numbering.number? id).isSome = true) (ns : List Node) :
    ((ns.foldl insertNode numbering).number? id).isSome = true := by
  induction ns generalizing numbering with
  | nil => exact h
  | cons n ns ih => exact ih (isSome_number?_insertNode h n)

theorem isSome_number?_ofNode {tree : ParseTree} {marker : Node} (h : marker ∈ tree.markers) :
    ((ofNode tree.root).number? marker.id).isSome = true := by
  -- The marker gets a number when it comes, and keeps one through all that comes later.
  obtain ⟨before, after, hsplit⟩ := List.append_of_mem h
  rw [ofNode_root, hsplit, List.foldl_append, List.foldl_cons]
  apply isSome_number?_foldl
  rw [insertNode_of_isRule (ParseTree.mem_markers_iff.mp h).2, number?_insert, if_pos rfl]
  rfl

theorem entries_insert {numbering : MarkerNumbering} {id : Nat}
    (h : ∀ entry ∈ numbering.entries, entry.1 ≠ id) (number : Nat) :
    (numbering.insert id number).entries = numbering.entries ++ [(id, number)] := by
  rw [insert, List.filter_eq_self.mpr]
  simpa using h

/-- Markers that are new and differ are numbered on from what is numbered already. -/
theorem entries_foldl_insertNode {numbering : MarkerNumbering} {ns : List Node}
    (hrule : ∀ n ∈ ns, n.isRule .parameterMarker = true)
    (hids : (numbering.entries.map Prod.fst ++ ns.map Node.id).Nodup) :
    (ns.foldl insertNode numbering).entries =
      numbering.entries ++ (ns.map Node.id).zipIdx numbering.size := by
  induction ns generalizing numbering with
  | nil => simp
  | cons n ns ih =>
      obtain ⟨hn, hns⟩ := List.forall_mem_cons.mp hrule
      have hnew : ∀ entry ∈ numbering.entries, entry.1 ≠ n.id := by
        intro entry hentry
        exact (List.nodup_append.mp hids).2.2 _ (List.mem_map_of_mem hentry) _ List.mem_cons_self
      have hentries := entries_insert hnew numbering.size
      have hsize : (numbering.insert n.id numbering.size).size = numbering.size + 1 := by
        rw [size, hentries, List.length_append]
        rfl
      rw [List.foldl_cons, insertNode_of_isRule hn, ih hns (by simpa [hentries] using hids),
        hentries, hsize]
      simp [List.zipIdx_cons]

theorem lookup_eq_some_iff_mem {entries : List (Nat × Nat)} (h : (entries.map Prod.fst).Nodup)
    {id number : Nat} : entries.lookup id = some number ↔ (id, number) ∈ entries := by
  constructor
  · intro hlookup
    obtain ⟨before, after, rfl, -⟩ := List.lookup_eq_some_iff.mp hlookup
    exact List.mem_append_right before List.mem_cons_self
  · intro hmem
    obtain ⟨before, after, rfl⟩ := List.append_of_mem hmem
    refine List.lookup_eq_some_iff.mpr ⟨before, after, rfl, ?_⟩
    intro entry hentry
    rw [List.map_append, List.map_cons] at h
    have hne : entry.1 ≠ id :=
      (List.nodup_append.mp h).2.2 _ (List.mem_map_of_mem hentry) _ List.mem_cons_self
    exact bne_iff_ne.mpr hne.symm

section Distinct

variable {tree : ParseTree} (hids : (tree.nodes.map Node.id).Nodup)
include hids

theorem markers_ids_nodup : (tree.markers.map Node.id).Nodup :=
  hids.sublist (List.filter_sublist.map Node.id)

theorem entries_ofNode : (ofNode tree.root).entries = (tree.markers.map Node.id).zipIdx := by
  rw [ofNode_root]
  exact entries_foldl_insertNode (fun n hn => (ParseTree.mem_markers_iff.mp hn).2)
    (markers_ids_nodup hids)

theorem size_ofNode : (ofNode tree.root).size = tree.markers.length := by
  rw [size, entries_ofNode hids, List.length_zipIdx, List.length_map]

/-- The number of a marker is its position among the markers. -/
theorem number?_ofNode_eq_some_iff {id number : Nat} :
    (ofNode tree.root).number? id = some number ↔
      (tree.markers.map Node.id)[number]? = some id := by
  have hkeys : ((ofNode tree.root).entries.map Prod.fst).Nodup := by
    rw [entries_ofNode hids, List.zipIdx_map_fst]
    exact markers_ids_nodup hids
  rw [number?, lookup_eq_some_iff_mem hkeys, entries_ofNode hids, List.mem_zipIdx_iff_getElem?]

theorem number?_ofNode_node_iff {n : Node} (hn : n ∈ tree.nodes) {number : Nat} :
    (ofNode tree.root).number? n.id = some number ↔ tree.markers[number]? = some n := by
  rw [number?_ofNode_eq_some_iff hids, List.getElem?_map, Option.map_eq_some_iff]
  constructor
  · rintro ⟨m, hm, hid⟩
    have hmem : m ∈ tree.nodes := (ParseTree.mem_markers_iff.mp (List.mem_of_getElem? hm)).1
    rwa [Node.eq_of_id_eq hids hmem hn hid] at hm
  · intro h
    exact ⟨n, h, rfl⟩

end Distinct

end MarkerNumbering

end StatementSegments
