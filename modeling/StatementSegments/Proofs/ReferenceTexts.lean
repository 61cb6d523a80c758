import Mathlib.Tactic.FinCases
import StatementSegments.Proofs.ExpressionOutcomes
import StatementSegments.Proofs.SelectedParts
import StatementSegments.Proofs.TopClauses

namespace StatementSegments

namespace Node

variable {n m : Node} {r : Rule}

theorem childRule?_eq_find? (n : Node) (r : Rule) :
    n.childRule? r = n.children.find? (·.isRule r) := by
  have hrule : ∀ c : Node, ((!c.isToken) = true ∧ c.isRule r = true) ↔ c.isRule r = true := by
    intro c
    simpa using isToken_eq_false_of_isRule
  rw [childRule?, ruleChildren, List.find?_filter]
  simp only [hrule, Bool.decide_eq_true]

theorem childRule?_eq_some_iff : n.childRule? r = some m ↔ IsFirstBy r n.children m := by
  rw [childRule?_eq_find?, List.find?_eq_some_iff_append, IsFirstBy]
  simp only [Bool.not_eq_true']

theorem IsFirstBy.mem {ns : List Node} (h : IsFirstBy r ns m) : m ∈ ns := by
  obtain ⟨-, before, after, rfl, -⟩ := h
  exact List.mem_append_right before List.mem_cons_self

theorem keepsShape_refl : KeepsShape fun n => n where
  id _ := rfl
  isToken _ := rfl
  label _ _ := rfl
  isPercent _ := rfl
  children n := (List.map_id' n.children).symm

/-- A child is nearer than all that is below the children. -/
theorem nearest?_of_childRule? (hn : n.isRule r = false) (h : n.childRule? r = some m) :
    n.nearest? r = some m := by
  rw [childRule?] at h
  rw [nearest?, breadthFirst, List.find?_cons_of_neg (by simp [hn]), List.nil_append,
    breadthFirst_eq_append, List.find?_append, h, Option.some_or]

theorem required_of_isFirstBy {r' : Rule} (hn : n.isRule r' = true) (hne : r' ≠ r)
    (h : IsFirstBy r n.children m) : (n.required r).outcome = .ok m := by
  rw [required_eq_ok_iff]
  exact nearest?_of_childRule? (isRule_eq_false_of_ne hn hne) (childRule?_eq_some_iff.mpr h)

end Node

open Node (IsFirstBy KeepsShape)

namespace ParseTree

variable {tree tree' : ParseTree} {n name : Node} {f : Node → Node}

/-- The name is read off the first of the nodes that the rule `r` made; where it made none of them,
there is no name. -/
def IsReadOff (tree : ParseTree) (r : Rule) (ns : List Node) (found : Option String) : Prop :=
  ∀ s, found = some s ↔ ∃ m, IsFirstBy r ns m ∧ s = Identifier.canonical (tree.textOf m)

theorem isReadOff_childRule? (tree : ParseTree) (n : Node) (r : Rule) :
    tree.IsReadOff r n.children
      (((n.childRule? r).map tree.textOf).map Identifier.canonical) := by
  intro s
  rw [Option.map_map, Option.map_eq_some_iff]
  simp only [Node.childRule?_eq_some_iff, Function.comp_apply, @eq_comm _ s]

theorem IsBuilt.aliasBeside?_eq_some_iff (hbuilt : tree.IsBuilt) (hn : n ∈ tree.nodes) {a : Node} :
    tree.aliasBeside? n = some a ↔
      ∃ p ∈ tree.nodes, n ∈ p.children ∧ IsFirstBy .aliasName p.children a := by
  simp only [aliasBeside?, Option.bind_eq_some_iff, hbuilt.parent?_eq_some_iff_mem_children hn,
    Node.childRule?_eq_some_iff, and_assoc]

/-- Nodes with one alias beside them have one parent. -/
theorem IsBuilt.parent_eq_of_aliasBeside? (hbuilt : tree.IsBuilt) {m a p q : Node}
    (hn : n ∈ tree.nodes) (hm : m ∈ tree.nodes) (hna : tree.aliasBeside? n = some a)
    (hma : tree.aliasBeside? m = some a) (hp : p ∈ tree.nodes) (hq : q ∈ tree.nodes)
    (hnp : n ∈ p.children) (hmq : m ∈ q.children) : p = q := by
  obtain ⟨scope, hscope, hnscope, hfirst⟩ := (hbuilt.aliasBeside?_eq_some_iff hn).mp hna
  obtain ⟨scope', hscope', hmscope, hfirst'⟩ := (hbuilt.aliasBeside?_eq_some_iff hm).mp hma
  have hids := hbuilt.ids_nodup
  calc
    p = scope := Node.parent_eq hids hp hscope hnp hnscope rfl
    _ = scope' := Node.parent_eq hids hscope hscope' hfirst.mem hfirst'.mem rfl
    _ = q := Node.parent_eq hids hscope' hq hmscope hmq rfl

section SameTexts

variable (hf : KeepsShape f) (hroot : tree'.root = f tree.root)
include hf

theorem map_childRule?_of_keepsShape {r : Rule}
    (h : ∀ m, IsFirstBy r n.children m → tree'.textOf (f m) = tree.textOf m) :
    ((f n).childRule? r).map tree'.textOf = (n.childRule? r).map tree.textOf := by
  rw [hf.childRule?]
  rcases hm : n.childRule? r with _ | m
  · rfl
  · exact congrArg some (h m (Node.childRule?_eq_some_iff.mp hm))

include hroot

theorem aliasBeside?_of_keepsShape (n : Node) :
    tree'.aliasBeside? (f n) = (tree.aliasBeside? n).map f := by
  rw [aliasBeside?, hf.id, parent?_of_keepsShape hf hroot, aliasBeside?]
  rcases tree.parent? n.id with _ | scope
  · rfl
  · exact hf.childRule? scope .aliasName

end SameTexts

theorem columnAt_of_isFirstBy (hrule : n.isRule .columnName = true)
    (hname : IsFirstBy .name n.children name) :
    (tree.columnAt n).outcome =
      .ok (.ofRaw n.span (tree.textOf name) ((n.childRule? .owner).map tree.textOf)) := by
  rw [columnAt, Logged.outcome_bind_of_ok (Node.required_of_isFirstBy hrule (by decide) hname)]
  rfl

theorem tableAt_of_isFirstBy (hrule : n.isRule .tableName = true)
    (hname : IsFirstBy .name n.children name) :
    (tree.tableAt n).outcome =
      .ok (.ofRaw n.span (tree.textOf name) ((n.childRule? .owner).map tree.textOf)
        ((tree.aliasBeside? n).map tree.textOf)) := by
  rw [tableAt, Logged.outcome_bind_of_ok (Node.required_of_isFirstBy hrule (by decide) hname)]
  rfl

/-- Under a map that keeps the shape, the table of a node has the texts it had if the nodes that
these are read off have the texts they had. -/
theorem tableAt_of_same_texts (hbuilt : tree.IsBuilt) (hf : KeepsShape f)
    (hroot : tree'.root = f tree.root) (hn : n ∈ tree.nodes) (hrule : n.isRule .tableName = true)
    (hname : IsFirstBy .name n.children name)
    (hnameText : tree'.textOf (f name) = tree.textOf name)
    (hownerText : ∀ o, IsFirstBy .owner n.children o → tree'.textOf (f o) = tree.textOf o)
    (haliasText : ∀ p ∈ tree.nodes, n ∈ p.children → ∀ a, IsFirstBy .aliasName p.children a →
      tree'.textOf (f a) = tree.textOf a)
    {t : Table} (ht : (tree.tableAt n).outcome = .ok t) :
    (tree'.tableAt (f n)).outcome = .ok { t with span := (f n).span } := by
  have hrule' : (f n).isRule .tableName = true := by rw [hf.isRule, hrule]
  have hname' : IsFirstBy .name (f n).children (f name) := by
    rw [← Node.childRule?_eq_some_iff, hf.childRule?, Node.childRule?_eq_some_iff.mpr hname]
    rfl
  have halias : (tree'.aliasBeside? (f n)).map tree'.textOf =
      (tree.aliasBeside? n).map tree.textOf := by
    rw [aliasBeside?_of_keepsShape hf hroot]
    rcases ha : tree.aliasBeside? n with _ | a
    · rfl
    · obtain ⟨p, hp, hnp, hfirst⟩ := (hbuilt.aliasBeside?_eq_some_iff hn).mp ha
      exact congrArg some (haliasText p hp hnp a hfirst)
  rw [tableAt_of_isFirstBy hrule hname] at ht
  cases ht
  rw [tableAt_of_isFirstBy hrule' hname', hnameText, map_childRule?_of_keepsShape hf hownerText,
    halias]
  rfl

end ParseTree

/-- All that a reference with a name among its children says is read off children; what is deeper,
or elsewhere in the tree, has no part in it. -/
theorem references_read_off {tree : ParseTree} (hbuilt : tree.IsBuilt) :
    (∀ n ∈ tree.nodes, ∀ name, IsFirstBy .name n.children name → n.isRule .columnName = true →
      ∃ c, (tree.columnAt n).outcome = .ok c ∧
        c.name = Identifier.canonical (tree.textOf name) ∧
        tree.IsReadOff .owner n.children c.qualifier) ∧
    (∀ n ∈ tree.nodes, ∀ name, IsFirstBy .name n.children name → n.isRule .tableName = true →
      ∃ t, (tree.tableAt n).outcome = .ok t ∧
        t.name = Identifier.canonical (tree.textOf name) ∧
        tree.IsReadOff .owner n.children t.owner ∧
        (∀ p ∈ tree.nodes, n ∈ p.children → tree.IsReadOff .aliasName p.children t.aliasName) ∧
        ((∀ p ∈ tree.nodes, n ∉ p.children) → t.aliasName = none)) ∧
    (∀ n ∈ tree.nodes, ∀ m ∈ tree.nodes, ∀ p ∈ tree.nodes, ∀ q ∈ tree.nodes,
      n ∈ p.children → m ∈ q.children → p ≠ q →
      ∀ a, tree.aliasBeside? n = some a → tree.aliasBeside? m ≠ some a) ∧
    ∀ n ∈ tree.nodes, ∀ name, IsFirstBy .name n.children name → n.isRule .tableName = true →
      ∀ t, (tree.tableAt n).outcome = .ok t →
      ∀ (tree' : ParseTree) (f : Node → Node), KeepsShape f → tree'.root = f tree.root →
        tree'.textOf (f name) = tree.textOf name →
        (∀ o, IsFirstBy .owner n.children o → tree'.textOf (f o) = tree.textOf o) →
        (∀ p ∈ tree.nodes, n ∈ p.children → ∀ a, IsFirstBy .aliasName p.children a →
          tree'.textOf (f a) = tree.textOf a) →
        (tree'.tableAt (f n)).outcome = .ok { t with span := (f n).span } := by
  refine ⟨?_, ?_, ?_, ?_⟩
  · intro n hn name hname hrule
    exact ⟨_, ParseTree.columnAt_of_isFirstBy hrule hname, rfl, tree.isReadOff_childRule? n .owner⟩
  · intro n hn name hname hrule
    refine ⟨_, ParseTree.tableAt_of_isFirstBy hrule hname, rfl, tree.isReadOff_childRule? n .owner,
      ?_, ?_⟩
    · intro p hp hnp
      have hparent := (hbuilt.parent?_eq_some_iff_mem_children hn).mpr ⟨hp, hnp⟩
      have halias : tree.aliasBeside? n = p.childRule? .aliasName := by
        rw [ParseTree.aliasBeside?, hparent, Option.bind_some]
      rw [halias]
      exact tree.isReadOff_childRule? p .aliasName
    · intro hroot
      have halias : tree.aliasBeside? n = none := by
        rw [ParseTree.aliasBeside?, (hbuilt.parent?_eq_none_iff hn).mpr hroot, Option.bind_none]
      rw [halias]
      rfl
  · intro n hn m hm p hp q hq hnp hmq hne a hna hma
    exact hne (hbuilt.parent_eq_of_aliasBeside? hn hm hna hma hp hq hnp hmq)
  · intro n hn name hname hrule t ht tree' f hf hroot hnameText hownerText haliasText
    exact ParseTree.tableAt_of_same_texts hbuilt hf hroot hn hrule hname hnameText hownerText
      haliasText ht

def ownedColumn : Node :=
  .rule 2 "columnName" ⟨7, 11⟩
    [.rule 3 "owner" ⟨7, 7⟩ [.ofToken 4 "name" ⟨7, 7⟩], .token 6 "DOT_" ⟨8, 8⟩,
      .ofToken 7 "name" ⟨9, 11⟩]

def ownedTable : Node :=
  .rule 11 "tableName" ⟨18, 20⟩
    [.rule 12 "owner" ⟨18, 18⟩ [.ofToken 13 "name" ⟨18, 18⟩], .token 15 "DOT_" ⟨19, 19⟩,
      .ofToken 16 "name" ⟨20, 20⟩]

def ownedFactor : Node :=
  .rule 10 "tableFactor" ⟨18, 22⟩ [ownedTable, .ofToken 18 "alias" ⟨22, 22⟩]

def plainTable : Node :=
  .rule 21 "tableName" ⟨25, 25⟩ [.ofToken 22 "name" ⟨25, 25⟩]

def plainFactor : Node :=
  .rule 20 "tableFactor" ⟨25, 27⟩ [plainTable, .ofToken 24 "alias" ⟨27, 27⟩]

def ownersRoot : Node :=
  .rule 0 "select" ⟨0, 27⟩
    [.token 1 "SELECT" ⟨0, 5⟩, ownedColumn, .token 9 "FROM" ⟨13, 16⟩, ownedFactor, plainFactor]

/-- A statement in which the names of owners come before those of what they own, with some text as
its last alias. -/
def ownersTree (last : String) : ParseTree :=
  ⟨StatementText.ofString ("SELECT o.[c] FROM d.t a, u " ++ last), ownersRoot⟩

theorem ownersTree_isBuilt : (ownersTree "b").IsBuilt :=
  ⟨"SELECT o.[c] FROM d.t a, u b", ownersRoot.steps, rfl⟩

theorem mem_nodes_ownersTree {n : Node}
    (h : n ∈ [ownedColumn, ownedTable, ownedFactor, plainTable, plainFactor]) :
    n ∈ (ownersTree "b").nodes := by
  fin_cases h <;>
    simp [ownersTree, ownersRoot, ownedFactor, plainFactor, ParseTree.nodes, Node.nodes,
      Node.self_mem_nodes]

/-- Another last alias is none of the texts of the first table. -/
theorem textOf_ownersTree {n : Node}
    (h : n ∈ ownedTable.children ∨ n ∈ ownedFactor.children) :
    (ownersTree "z").textOf n = (ownersTree "b").textOf n := by
  simp only [ownedTable, ownedFactor, Node.children, List.mem_cons, List.not_mem_nil,
    or_false] at h
  rcases h with (rfl | rfl | rfl) | rfl | rfl <;> decide +kernel

theorem ownersTree_read_off :
    (ownersTree "b").IsBuilt ∧
      (∃ c, ((ownersTree "b").columnAt ownedColumn).outcome = .ok c ∧
        c.name = "c" ∧ c.qualifier = some "o") ∧
      (∃ t, ((ownersTree "b").tableAt ownedTable).outcome = .ok t ∧
        t.name = "t" ∧ t.owner = some "d" ∧ t.aliasName = some "a" ∧
        ((ownersTree "z").tableAt ownedTable).outcome = .ok t) ∧
      (ownersTree "b").aliasBeside? plainTable ≠ some (.ofToken 18 "alias" ⟨22, 22⟩) := by
  obtain ⟨hcolumns, htables, hapart, hsame⟩ := references_read_off ownersTree_isBuilt
  have hcolumn := mem_nodes_ownersTree (n := ownedColumn) (by simp)
  have htable := mem_nodes_ownersTree (n := ownedTable) (by simp)
  have hfactor := mem_nodes_ownersTree (n := ownedFactor) (by simp)
  have hchild : ownedTable ∈ ownedFactor.children := by simp [ownedFactor, Node.children]
  have hcolumnName : IsFirstBy .name ownedColumn.children (.ofToken 7 "name" ⟨9, 11⟩) :=
    ⟨by decide, [_, _], [], rfl, by decide⟩
  have htableName : IsFirstBy .name ownedTable.children (.ofToken 16 "name" ⟨20, 20⟩) :=
    ⟨by decide, [_, _], [], rfl, by decide⟩
  have halias : IsFirstBy .aliasName ownedFactor.children (.ofToken 18 "alias" ⟨22, 22⟩) :=
    ⟨by decide, [_], [], rfl, by decide⟩
  obtain ⟨c, hc, hcName, hqualifier⟩ := hcolumns _ hcolumn _ hcolumnName (by decide)
  obtain ⟨t, ht, htName, howner, htAlias, -⟩ := htables _ htable _ htableName (by decide)
  refine ⟨ownersTree_isBuilt, ⟨c, hc, ?_, ?_⟩, ⟨t, ht, ?_, ?_, ?_, ?_⟩, ?_⟩
  · rw [hcName]
    rfl
  · refine (hqualifier "o").mpr ⟨.rule 3 "owner" ⟨7, 7⟩ [.ofToken 4 "name" ⟨7, 7⟩],
      ⟨by decide, [], [_, _], rfl, by decide⟩, ?_⟩
    rfl
  · rw [htName]
    rfl
  · refine (howner "d").mpr ⟨.rule 12 "owner" ⟨18, 18⟩ [.ofToken 13 "name" ⟨18, 18⟩],
      ⟨by decide, [], [_, _], rfl, by decide⟩, ?_⟩
    rfl
  · refine (htAlias ownedFactor hfactor hchild "a").mpr ⟨_, halias, ?_⟩
    rfl
  · have hkept := hsame _ htable _ htableName (by decide) t ht (ownersTree "z") _
      Node.keepsShape_refl rfl (textOf_ownersTree (.inl htableName.mem))
      (fun o ho => textOf_ownersTree (.inl ho.mem)) ?_
    · rwa [← ParseTree.tableAt_span ht] at hkept
    · intro p hp hmem a ha
      obtain rfl := Node.parent_eq ownersTree_isBuilt.ids_nodup hp hfactor hmem hchild rfl
      exact textOf_ownersTree (.inr ha.mem)
  · refine hapart _ htable plainTable (mem_nodes_ownersTree (by simp)) _ hfactor plainFactor
      (mem_nodes_ownersTree (by simp)) hchild (by simp [plainFactor, Node.children])
      (by simp [ownedFactor, plainFactor]) _ ?_
    exact (ownersTree_isBuilt.aliasBeside?_eq_some_iff htable).mpr ⟨_, hfactor, hchild, halias⟩

end StatementSegments
