import StatementSegments.Proofs.NodeOrder

namespace StatementSegments

namespace Span

theorem Encloses.refl (s : Span) : s.Encloses s :=
  ⟨Nat.le_refl _, Nat.le_refl _⟩

theorem Encloses.trans {a b c : Span} (hab : a.Encloses b) (hbc : b.Encloses c) : a.Encloses c :=
  ⟨Nat.le_trans hab.1 hbc.1, Nat.le_trans hbc.2 hab.2⟩

/-- No offset is in both spans. -/
def Disjoint (a b : Span) : Prop :=
  ∀ offset ∈ a, offset ∉ b

theorem disjoint_of_stop_lt_start {a b : Span} (h : a.stop < b.start) : a.Disjoint b := by
  intro offset ha hb
  exact Nat.not_lt_of_le (Nat.le_trans hb.1 ha.2) h

theorem Disjoint.symm {a b : Span} (h : a.Disjoint b) : b.Disjoint a :=
  fun offset hb ha => h offset ha hb

theorem Disjoint.stop_lt_start {a b : Span} (h : a.Disjoint b) (ha : a.start ≤ a.stop)
    (hb : b.start ≤ b.stop) : a.stop < b.start ∨ b.stop < a.start := by
  by_contra hmeet
  -- The later of the two starts is in both.
  have hmem : max a.start b.start ∈ a := by
    rw [mem_iff]
    omega
  apply h _ hmem
  rw [mem_iff]
  omega

end Span

namespace Node

/-- A node covers characters of a text of `length` characters, and its children cover parts of
them from left to right. -/
structure Fits (length : Nat) (n : Node) : Prop where
  start_le_stop : n.start ≤ n.stop
  stop_lt : n.stop < length
  encloses : ∀ c ∈ n.children, n.span.Encloses c.span
  follows : n.children.Pairwise fun a b => a.stop < b.start

/-- The node and all below it fit. -/
def Nested (length : Nat) (n : Node) : Prop :=
  ∀ m ∈ n.nodes, m.Fits length

theorem nested_iff {length : Nat} {n : Node} :
    n.Nested length ↔ n.Fits length ∧ ∀ c ∈ n.children, c.Nested length := by
  constructor
  · intro h
    refine ⟨h n n.self_mem_nodes, ?_⟩
    intro c hc m hm
    apply h
    exact mem_nodes_trans hm (mem_nodes_of_mem_children hc)
  · rintro ⟨hfits, hchildren⟩ m hm
    rcases mem_nodes_iff.mp hm with rfl | ⟨c, hc, hm⟩
    · exact hfits
    · exact hchildren c hc m hm

theorem nested_token {length id : Nat} {type : String} {span : Span}
    (horder : span.start ≤ span.stop) (hstop : span.stop < length) :
    (token id type span).Nested length := by
  intro m hm
  obtain rfl := List.mem_singleton.mp hm
  exact ⟨horder, hstop, List.forall_mem_nil _, List.Pairwise.nil⟩

namespace Nested

variable {length : Nat} {n : Node}

theorem fits (h : n.Nested length) : n.Fits length :=
  (nested_iff.mp h).1

theorem child (h : n.Nested length) {c : Node} (hc : c ∈ n.children) : c.Nested length :=
  (nested_iff.mp h).2 c hc

theorem below (h : n.Nested length) {m : Node} (hm : m ∈ n.nodes) : m.Nested length :=
  fun k hk => h k (mem_nodes_trans hk hm)

theorem encloses (h : n.Nested length) {m : Node} (hm : m ∈ n.nodes) :
    n.span.Encloses m.span := by
  induction n using induction_children with
  | step n ih =>
      rcases mem_nodes_iff.mp hm with rfl | ⟨c, hc, hm⟩
      · exact Span.Encloses.refl _
      · exact (h.fits.encloses c hc).trans (ih c hc (h.child hc) hm)

/-- Of two nodes the later one is below the earlier one or starts behind it. -/
theorem nodes_pairwise (h : n.Nested length) :
    n.nodes.Pairwise fun a b => (b ∈ a.nodes ∧ a.span.Encloses b.span) ∨ a.stop < b.start := by
  induction n using induction_children with
  | step n ih =>
      have hbelow : ∀ b ∈ n.children.flatMap nodes, b ∈ n.nodes := by
        intro b hb
        rw [nodes_eq_cons]
        exact List.mem_cons_of_mem n hb
      rw [nodes_eq_cons, List.pairwise_cons, List.pairwise_flatMap]
      refine ⟨?_, ?_, ?_⟩
      · intro b hb
        exact Or.inl ⟨hbelow b hb, h.encloses (hbelow b hb)⟩
      · intro c hc
        exact ih c hc (h.child hc)
      -- Nodes below different children are as far apart as these children.
      · refine h.fits.follows.imp_of_mem ?_
        intro c d hc hd hcd a ha b hb
        have hstop : a.stop ≤ c.stop := ((h.child hc).encloses ha).2
        have hstart : d.start ≤ b.start := ((h.child hd).encloses hb).1
        exact Or.inr (Nat.lt_of_le_of_lt hstop (Nat.lt_of_lt_of_le hcd hstart))

theorem starts_pairwise (h : n.Nested length) :
    n.nodes.Pairwise fun a b => a.start ≤ b.start := by
  refine h.nodes_pairwise.imp_of_mem ?_
  intro a b ha _ hab
  rcases hab with ⟨-, hencloses⟩ | hbehind
  · exact hencloses.1
  · exact Nat.le_trans (h a ha).start_le_stop (Nat.le_of_lt hbehind)

end Nested

end Node

end StatementSegments
