import Mathlib.Algebra.Group.Nat.Defs
import StatementSegments.Proofs.ArenaSteps

namespace StatementSegments

/-- Offsets in a text of fewer than 2^63 bytes leave room in 64 bits for the offset behind them. -/
theorem length_lt_of_utf8ByteSize {text : String} (h : text.utf8ByteSize < 2 ^ 63) :
    (StatementText.ofString text).length < UInt64.size := by
  have hle : text.toList.length ≤ text.utf8ByteSize := by
    have hlength := length_le_utf8ByteSize text.toList
    rwa [String.ofList_toList] at hlength
  rw [StatementText.length_eq, ← String.length_toList]
  exact Nat.lt_of_le_of_lt hle (Nat.lt_trans h (by decide))

theorem Builder.run_arena_ofText {text : String} (hsize : text.utf8ByteSize < 2 ^ 63)
    (steps : List Step) :
    (ArenaBuilder.ofText text).run steps =
      .ok (((ofText text).run steps).1, ((ofText text).run steps).2.arena) :=
  run_arena (coherent_ofText text) (length_lt_of_utf8ByteSize hsize) steps

namespace ParseTree.IsBuilt

variable {tree : ParseTree} (hbuilt : tree.IsBuilt)
include hbuilt

theorem textOf_eq_part {n : Node} (hn : n ∈ tree.nodes) :
    tree.textOf n = tree.text.part n.start n.stop := by
  have hfits := hbuilt.nested n hn
  have hslice : tree.text.slice? n.span = some (tree.text.part n.start n.stop) :=
    tree.text.slice?_eq hfits.start_le_stop hfits.stop_lt
  rw [textOf, hslice, Option.getD_some]

theorem textAt_arena {n : Node} (hn : n ∈ tree.nodes) :
    tree.arena.textAt n.id = .ok (tree.textOf n) := by
  have hslice := tree.text.slice_boundaries (hbuilt.nested n hn).start_le_stop
  rw [hbuilt.textOf_eq_part hn, ← hslice, Arena.textAt, hbuilt.cellAt_arena hn]
  rfl

theorem slice?_textOf {n d : Node} (hn : n ∈ tree.nodes) (hd : d ∈ n.nodes) :
    (StatementText.ofString (tree.textOf n)).slice? ⟨d.start - n.start, d.stop - n.start⟩ =
      some (tree.textOf d) := by
  have hmem : d ∈ tree.nodes := Node.mem_nodes_trans hd hn
  have hencloses := (hbuilt.nested.below hn).encloses hd
  rw [hbuilt.textOf_eq_part hn, hbuilt.textOf_eq_part hmem]
  exact tree.text.slice?_part hencloses.1 (hbuilt.nested d hmem).start_le_stop hencloses.2
    (hbuilt.nested n hn).stop_lt

end ParseTree.IsBuilt

namespace ParseTree

/-- An arena answers all steps like a builder and without a fault, and the text of a node consists
of the characters of its span. -/
theorem texts_faultless (text : String) (steps : List Step) :
    (text.utf8ByteSize < 2 ^ 63 → (ArenaBuilder.ofText text).run steps =
      .ok (((Builder.ofText text).run steps).1, ((Builder.ofText text).run steps).2.arena)) ∧
    ((Builder.ofText text).run steps).2.arena.finish =
      ((Builder.ofText text).run steps).2.finish.map arena ∧
    ∀ tree, ((Builder.ofText text).run steps).2.finish = .ok tree → ∀ n ∈ tree.nodes,
      tree.arena.cellAt n.id = .ok (n.cell tree.text ((tree.parent? n.id).map Node.id)) ∧
      tree.arena.textAt n.id = .ok (tree.textOf n) ∧
      (tree.textOf n).toList = text.toList.extract n.start (n.stop + 1) ∧
      String.ofList (text.toList.take n.start) ++ tree.textOf n ++
        String.ofList (text.toList.drop (n.stop + 1)) = text ∧
      ∀ d ∈ n.nodes,
        (StatementText.ofString (tree.textOf n)).slice? ⟨d.start - n.start, d.stop - n.start⟩ =
          some (tree.textOf d) := by
  refine ⟨?_, Builder.finish_arena _, ?_⟩
  · intro hsize
    exact Builder.run_arena_ofText hsize steps
  · intro tree hfinish n hn
    have hbuilt : tree.IsBuilt := ⟨text, steps, hfinish⟩
    have htext : tree.text = StatementText.ofString text := text_eq_of_finish hfinish
    have hpart : tree.textOf n = (StatementText.ofString text).part n.start n.stop := by
      rw [hbuilt.textOf_eq_part hn, htext]
    refine ⟨hbuilt.cellAt_arena hn, hbuilt.textAt_arena hn, ?_, ?_, ?_⟩
    · rw [hpart, StatementText.toList_part]
      rfl
    · rw [hpart]
      exact (StatementText.ofString text).append_part_append
        (hbuilt.nested n hn).start_le_stop
    · intro d hd
      exact hbuilt.slice?_textOf hn hd

/-- The name before the clause is one character of three bytes. -/
theorem limitTree_texts_faultless :
    "列 LIMIT ?, ?".utf8ByteSize < 2 ^ 63 ∧
      (∃ last, (ArenaBuilder.ofText "列 LIMIT ?, ?").run limitSteps =
        .ok (((Builder.ofText "列 LIMIT ?, ?").run limitSteps).1, last)) ∧
      limitTree.arena.textAt 1 = .ok "列" := by
  have hsize : "列 LIMIT ?, ?".utf8ByteSize < 2 ^ 63 := by decide
  obtain ⟨hrun, -, htexts⟩ := texts_faultless "列 LIMIT ?, ?" limitSteps
  have hname : Node.token 1 "NAME_" ⟨0, 0⟩ ∈ limitTree.nodes := by
    simp [limitTree, nodes, Node.nodes]
  obtain ⟨-, htext, hchars, -⟩ := htexts limitTree finish_limitSteps _ hname
  refine ⟨hsize, ⟨_, hrun hsize⟩, ?_⟩
  have hvalue : limitTree.textOf (.token 1 "NAME_" ⟨0, 0⟩) = "列" :=
    String.toList_inj.mp (hchars.trans (by decide))
  rw [← hvalue]
  exact htext

end ParseTree

end StatementSegments
