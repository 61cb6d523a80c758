import StatementSegments.Proofs.MappedOffsets
import StatementSegments.Proofs.MissingNames
import StatementSegments.Proofs.NodeMaps
import StatementSegments.Proofs.ResolvedExpressions

namespace StatementSegments

open ExtractionError (mapOffsets)

variable {g : Nat → Nat}

namespace Statement

/-- The second statement is the image of the first one under maps of nodes and of offsets, and its
texts and numbers are the same. -/
structure IsImage (f : Node → Node) (g : Nat → Nat) (s s' : Statement) : Prop where
  keepsShape : Node.KeepsShape f
  root : s'.tree.root = f s.tree.root
  span : ∀ n, (f n).span = n.span.mapOffsets g
  textOf : ∀ n ∈ s.tree.nodes, s'.tree.textOf (f n) = s.tree.textOf n
  number? : ∀ n ∈ s.tree.nodes, n.isRule .parameterMarker = true →
    s'.markers.number? n.id = s.markers.number? n.id

namespace IsImage

variable {f : Node → Node} {s s' : Statement} (h : IsImage f g s s') {n : Node}
include h

theorem required (hn : n.isToken = false) (r : Rule) :
    Logged.Carries (mapOffsets g) f (n.required r) ((f n).required r) := by
  unfold Node.required
  rw [h.keepsShape.nearest?]
  cases n.nearest? r with
  | none =>
      refine .log_bind (.fail ?_)
      rw [h.keepsShape.label n hn, Node.start, h.span]
      rfl
  | some found => exact .pure found

theorem childText (hn : n ∈ s.tree.nodes) (r : Rule) :
    ((f n).childRule? r).map s'.tree.textOf = (n.childRule? r).map s.tree.textOf := by
  rw [h.keepsShape.childRule?]
  rcases hm : n.childRule? r with _ | m
  · rfl
  · have hchild := (Node.childRule?_eq_some hm).1
    have hmem := Node.mem_nodes_trans (Node.mem_nodes_of_mem_children hchild) hn
    exact congrArg some (h.textOf m hmem)

theorem columnAt (hn : n ∈ s.tree.nodes) (hrule : n.isRule .columnName = true) :
    Logged.Carries (mapOffsets g) (Column.mapOffsets g) (s.tree.columnAt n)
      (s'.tree.columnAt (f n)) := by
  unfold ParseTree.columnAt
  refine (h.required (Node.isToken_eq_false_of_isRule hrule) .name).bind fun name hname => ?_
  rw [h.childText hn, h.textOf name (Node.mem_nodes_trans (Node.mem_nodes_of_required hname) hn),
    h.span]
  exact .pure _

theorem aliasText (n : Node) :
    (s'.tree.aliasBeside? (f n)).map s'.tree.textOf =
      (s.tree.aliasBeside? n).map s.tree.textOf := by
  unfold ParseTree.aliasBeside?
  rw [h.keepsShape.id, ParseTree.parent?_of_keepsShape h.keepsShape h.root]
  rcases hscope : s.tree.parent? n.id with _ | scope
  · rfl
  · exact h.childText (ParseTree.parent?_eq_some hscope).1 .aliasName

theorem tableAt (hn : n ∈ s.tree.nodes) (hrule : n.isRule .tableName = true) :
    Logged.Carries (mapOffsets g) (Table.mapOffsets g) (s.tree.tableAt n)
      (s'.tree.tableAt (f n)) := by
  unfold ParseTree.tableAt
  refine (h.required (Node.isToken_eq_false_of_isRule hrule) .name).bind fun name hname => ?_
  rw [h.childText hn, h.aliasText,
    h.textOf name (Node.mem_nodes_trans (Node.mem_nodes_of_required hname) hn), h.span]
  exact .pure _

theorem mapM_allOf {α : Type} {r : Rule} {k : α → α} {x y : Node → Extraction α}
    (hxy : ∀ n ∈ s.tree.nodes, n.isRule r = true →
      Logged.Carries (mapOffsets g) k (x n) (y (f n))) :
    Logged.Carries (mapOffsets g) (List.map k) ((s.tree.root.allOf r).mapM x)
      ((s'.tree.root.allOf r).mapM y) := by
  rw [h.root, h.keepsShape.allOf]
  refine .mapM_list fun n hn => ?_
  rw [Node.allOf_eq, List.mem_filter] at hn
  exact hxy n hn.1 hn.2

theorem tables :
    Logged.Carries (mapOffsets g) (List.map (Table.mapOffsets g)) (s.tree.tables s.tree.root)
      (s'.tree.tables s'.tree.root) :=
  h.mapM_allOf fun _ hn hrule => h.tableAt hn hrule

theorem columns :
    Logged.Carries (mapOffsets g) (List.map (Column.mapOffsets g)) (s.tree.columns s.tree.root)
      (s'.tree.columns s'.tree.root) :=
  h.mapM_allOf fun _ hn hrule => h.columnAt hn hrule

theorem markerIndex (hn : n ∈ s.tree.nodes) (hrule : n.isRule .parameterMarker = true) :
    Logged.Carries (mapOffsets g) id (s.markerIndex n) (s'.markerIndex (f n)) := by
  unfold Statement.markerIndex
  rw [h.keepsShape.id, h.number? n hn hrule]
  cases s.markers.number? n.id with
  | none =>
      refine .log_bind (.fail ?_)
      rw [Node.start, h.span]
      rfl
  | some index => exact .pure index

theorem literalAt (kind : LiteralKind) (hn : n ∈ s.tree.nodes) :
    Logged.Carries (mapOffsets g) id (s.literalAt kind n) (s'.literalAt kind (f n)) := by
  unfold Statement.literalAt
  rw [h.textOf n hn]
  dsimp only
  cases kind.read? (Blank.trim (s.tree.textOf n)) with
  | none =>
      apply Logged.Carries.fail
      rw [Node.start, h.span]
      rfl
  | some value => exact .pure value

theorem literalNode? (n : Node) :
    Statement.literalNode? (f n) = (Statement.literalNode? n).map (Prod.map id f) := by
  unfold Statement.literalNode?
  rw [List.map_findSome?]
  congr 1
  funext kind
  rw [h.keepsShape.solely?, Function.comp_apply, Option.map_map, Option.map_map]
  rfl

theorem expression? (hn : n ∈ s.tree.nodes) :
    Logged.Carries (mapOffsets g) (Option.map (Expression.mapOffsets g)) (s.expression? n)
      (s'.expression? (f n)) := by
  have hchildren : (f n).children.isEmpty = n.children.isEmpty := by
    rw [h.keepsShape.children, List.isEmpty_map]
  have hbelow : ∀ {r m}, n.solely? r = some m → m ∈ s.tree.nodes ∧ m.isRule r = true :=
    fun hm => ⟨Node.mem_nodes_trans (Node.solely?_eq_some hm).1.mem_nodes hn,
      (Node.solely?_eq_some hm).2⟩
  unfold Statement.expression?
  rw [h.keepsShape.isToken, hchildren, h.keepsShape.solely?, h.keepsShape.solely?, h.literalNode?,
    h.span, h.textOf n hn]
  cases !n.isToken && n.children.isEmpty with
  | true => exact .pure none
  | false =>
      rcases hmarker : n.solely? .parameterMarker with _ | marker
      · rcases hliteral : Statement.literalNode? n with _ | ⟨kind, node⟩
        · rcases hcolumn : n.solely? .columnName with _ | column
          · exact .pure _
          · obtain ⟨hmem, hrule⟩ := hbelow hcolumn
            have hrule' : (f column).isRule .columnName = true := by
              rw [h.keepsShape.isRule, hrule]
            dsimp only [Option.map_some]
            rw [ParseTree.column?_bind_of_isRule hrule, ParseTree.column?_bind_of_isRule hrule']
            exact (h.columnAt hmem hrule).bind fun c _ => .pure (some (Expression.column c))
        · obtain ⟨hmem, -⟩ := hbelow (Statement.literalNode?_eq_some hliteral)
          exact (h.literalAt kind hmem).bind fun value _ =>
            .pure (some (Expression.literal n.span value))
      · obtain ⟨hmem, hrule⟩ := hbelow hmarker
        exact (h.markerIndex hmem hrule).bind fun index _ =>
          .pure (some (Expression.parameter n.span index))

theorem expression (hn : n ∈ s.tree.nodes) :
    Logged.Carries (mapOffsets g) (Expression.mapOffsets g) (s.expression n)
      (s'.expression (f n)) := by
  unfold Statement.expression
  refine (h.expression? hn).bind fun found _ => ?_
  cases found with
  | none =>
      refine .log_bind (.fail ?_)
      rw [h.span]
      rfl
  | some e => exact .pure e

theorem boundAt (construct : String) (hn : n ∈ s.tree.nodes) :
    Logged.Carries (mapOffsets g) (BoundSegment.mapOffsets g) (s.boundAt construct n)
      (s'.boundAt construct (f n)) := by
  unfold Statement.boundAt
  refine (h.expression hn).bind fun e _ => ?_
  refine (Bound.ofExpression_carries construct e).reporting.bind fun bound _ => ?_
  rw [e.span_mapOffsets]
  exact .pure (⟨e.span, bound⟩ : BoundSegment)

theorem scopeOf (hrule : n.isRule .top = true) :
    Logged.Carries (mapOffsets g) f (s.scopeOf n) (s'.scopeOf (f n)) := by
  unfold Statement.scopeOf
  rw [h.keepsShape.id, ParseTree.parent?_of_keepsShape h.keepsShape h.root]
  cases s.tree.parent? n.id with
  | none =>
      refine .log_bind (.fail ?_)
      rw [h.keepsShape.label n (Node.isToken_eq_false_of_isRule hrule), Node.start, h.span]
      rfl
  | some scope => exact .pure scope

theorem top? :
    Logged.Carries (mapOffsets g) (Option.map (Top.mapOffsets g)) (s.top? s.tree.root)
      (s'.top? s'.tree.root) := by
  unfold Statement.top?
  rw [h.root, h.keepsShape.nearest?]
  rcases hclause : s.tree.root.nearest? .top with _ | clause
  · exact .log_bind (.pure none)
  obtain ⟨hmem, hrule⟩ := Node.nearest?_eq_some hclause
  have htoken := Node.isToken_eq_false_of_isRule hrule
  refine (h.required htoken .expr).bind fun value hvalue => ?_
  have hvalueMem := Node.mem_nodes_trans (Node.mem_nodes_of_required hvalue) hmem
  refine (h.boundAt "TOP expression" hvalueMem).bind fun bound _ => ?_
  refine (h.scopeOf hrule).bind fun scope hscope => ?_
  obtain ⟨hscopeMem, c, hc, -⟩ :=
    ParseTree.parent?_eq_some (Statement.scopeOf_eq_ok_iff.mp hscope)
  have hscopeToken := Node.isToken_eq_false_of_mem_children hc
  refine (h.required hscopeToken .aliasName).bind fun a ha => ?_
  have haMem := Node.mem_nodes_trans (Node.mem_nodes_of_required ha) hscopeMem
  rw [h.textOf a haMem, h.keepsShape.childToken?_percentKeyword, Option.isSome_map]
  exact .log_bind (.pure (some _))

theorem limit? :
    Logged.Carries (mapOffsets g) (Option.map (Limit.mapOffsets g)) (s.limit? s.tree.root)
      (s'.limit? s'.tree.root) := by
  unfold Statement.limit?
  rw [h.root, h.keepsShape.nearest?]
  rcases hclause : s.tree.root.nearest? .limitClause with _ | clause
  · exact .log_bind (.pure none)
  have hbelow : ∀ {r m}, clause.nearest? r = some m → m ∈ s.tree.nodes :=
    fun hm => Node.mem_nodes_of_nearest? hclause hm
  dsimp only [Option.map_some]
  rw [h.keepsShape.nearest?, h.keepsShape.nearest?, h.span]
  refine Logged.Carries.bind (.mapM_option fun m hm => h.boundAt "LIMIT offset" (hbelow hm))
    fun offset _ => ?_
  refine Logged.Carries.bind (.mapM_option fun m hm => h.boundAt "LIMIT row count" (hbelow hm))
    fun rowCount _ => ?_
  exact .pure (some (⟨clause.span, offset, rowCount⟩ : Limit))

theorem clauses (dialect : Dialect) :
    Logged.Carries (mapOffsets g)
      (Prod.map (Option.map (Top.mapOffsets g)) (Option.map (Limit.mapOffsets g)))
      (s.clauses dialect) (s'.clauses dialect) := by
  unfold Statement.clauses
  refine Logged.Carries.bind (.ite_none h.top?) fun top _ => ?_
  exact (Logged.Carries.ite_none h.limit?).bind fun limit _ => .pure (top, limit)

/-- The segments of the image are the images of the segments, and so are the failures. -/
theorem select (dialect : Dialect) :
    Logged.Carries (mapOffsets g) (Select.mapOffsets g) (s.select dialect) (s'.select dialect) := by
  rw [Logged.Carries, Statement.outcome_select, Statement.outcome_select]
  refine h.tables.bind fun tables _ => h.columns.bind fun columns _ => ?_
  refine (resolveOwners_carries columns tables).bind fun resolved _ => ?_
  refine (h.clauses dialect).bind fun found _ => ?_
  exact .pure (⟨found.1, found.2, tables, resolved⟩ : Select)

end IsImage

end Statement

end StatementSegments
