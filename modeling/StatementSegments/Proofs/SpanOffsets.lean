import Mathlib.Order.Interval.Finset.Nat
import StatementSegments.Span

namespace StatementSegments.Span

variable {a b c d : Span}

/-- The offsets that are in a span. -/
def offsets (s : Span) : Finset ℕ :=
  Finset.Icc s.start s.stop

theorem mem_offsets {offset : ℕ} {s : Span} : offset ∈ s.offsets ↔ offset ∈ s :=
  Finset.mem_Icc

theorem offsets_subset_iff : b.offsets ⊆ a.offsets ↔ a.Encloses b ∨ b.IsEmpty := by
  rcases Nat.lt_or_ge b.stop b.start with hinverted | hordinary
  · have hempty : b.offsets = ∅ := Finset.Icc_eq_empty (Nat.not_le_of_lt hinverted)
    rw [hempty]
    exact ⟨fun _ => Or.inr hinverted, fun _ => Finset.empty_subset _⟩
  · have hnonempty : ¬b.IsEmpty := Nat.not_lt_of_le hordinary
    rw [or_iff_left hnonempty]
    exact Finset.Icc_subset_Icc_iff hordinary

/-- A span that contains the offsets of two spans, and of those that do has the fewest offsets. -/
structure IsLeastCover (a b c : Span) : Prop where
  covers : a.offsets ∪ b.offsets ⊆ c.offsets
  least : ∀ d : Span, a.offsets ∪ b.offsets ⊆ d.offsets → c.offsets.card ≤ d.offsets.card

theorem covers_merge (a b : Span) : a.offsets ∪ b.offsets ⊆ (a.merge b).offsets := by
  apply Finset.union_subset
  · exact offsets_subset_iff.mpr (Or.inl ⟨Nat.min_le_left _ _, Nat.le_max_left _ _⟩)
  · exact offsets_subset_iff.mpr (Or.inl ⟨Nat.min_le_right _ _, Nat.le_max_right _ _⟩)

/-- The span from the first to the last offset of two spans, inverted ones left aside. -/
def hull (a b : Span) : Span :=
  if b.IsEmpty then a else if a.IsEmpty then b else a.merge b

theorem covers_hull (a b : Span) : a.offsets ∪ b.offsets ⊆ (a.hull b).offsets := by
  unfold hull
  split
  · next hb =>
      exact Finset.union_subset subset_rfl (offsets_subset_iff.mpr (Or.inr hb))
  · split
    · next ha =>
        exact Finset.union_subset (offsets_subset_iff.mpr (Or.inr ha)) subset_rfl
    · exact covers_merge a b

theorem hull_subset (h : a.offsets ∪ b.offsets ⊆ d.offsets) : (a.hull b).offsets ⊆ d.offsets := by
  obtain ⟨ha, hb⟩ := Finset.union_subset_iff.mp h
  unfold hull
  split
  · exact ha
  · next hordinary =>
      split
      · exact hb
      · next hordinary' =>
          have haEnds := (offsets_subset_iff.mp ha).resolve_right hordinary'
          have hbEnds := (offsets_subset_iff.mp hb).resolve_right hordinary
          apply offsets_subset_iff.mpr
          exact Or.inl ⟨Nat.le_min.mpr ⟨haEnds.1, hbEnds.1⟩, Nat.max_le.mpr ⟨haEnds.2, hbEnds.2⟩⟩

theorem isLeastCover_hull (a b : Span) : IsLeastCover a b (a.hull b) where
  covers := covers_hull a b
  least _ hd := Finset.card_le_card (hull_subset hd)

/-- A least cover has no offset outside the hull. -/
theorem isLeastCover_iff (hc : a.offsets ∪ b.offsets ⊆ c.offsets) :
    IsLeastCover a b c ↔ c.offsets ⊆ (a.hull b).offsets := by
  constructor
  · intro h
    have hcard := h.least _ (covers_hull a b)
    rw [Finset.eq_of_subset_of_card_le (hull_subset hc) hcard]
  · intro h
    refine ⟨hc, fun d hd => ?_⟩
    exact (Finset.card_le_card h).trans (Finset.card_le_card (hull_subset hd))

theorem isLeastCover_merge_iff :
    IsLeastCover a b (a.merge b) ↔
      (a.merge b).IsEmpty ∨ ((a.IsEmpty → b.Encloses a) ∧ (b.IsEmpty → a.Encloses b)) := by
  rw [isLeastCover_iff (covers_merge a b), offsets_subset_iff, hull]
  -- What is left in each case compares the ends of the two spans.
  split
  · next hb =>
      simp only [Encloses, IsEmpty, merge] at hb ⊢
      omega
  · next hb =>
      split
      · next ha =>
          simp only [Encloses, IsEmpty, merge] at ha hb ⊢
          omega
      · next ha =>
          simp only [Encloses, IsEmpty, merge] at ha hb ⊢
          omega

/-- How far enclosing and merging by the ends alone agree with the sets of offsets; for the hull
they always do. -/
theorem encloses_merge_offsets (a b : Span) :
    (∀ offset, offset ∈ a.offsets ↔ offset ∈ a) ∧
    (b.offsets ⊆ a.offsets ↔ a.Encloses b ∨ b.IsEmpty) ∧
    a.offsets ∪ b.offsets ⊆ (a.merge b).offsets ∧
    (IsLeastCover a b (a.merge b) ↔
      (a.merge b).IsEmpty ∨ ((a.IsEmpty → b.Encloses a) ∧ (b.IsEmpty → a.Encloses b))) ∧
    IsLeastCover a b (a.hull b) := by
  refine ⟨fun _ => mem_offsets, offsets_subset_iff, covers_merge a b, ?_, isLeastCover_hull a b⟩
  exact isLeastCover_merge_iff

def firstTwo : Span :=
  ⟨0, 1⟩

def invertedBehind : Span :=
  ⟨5, 2⟩

/-- The inverted span has no offset outside the other one, but is not enclosed by it, and merged
with it gives a third offset. -/
theorem not_encloses_inverted :
    invertedBehind.offsets ⊆ firstTwo.offsets ∧ ¬firstTwo.Encloses invertedBehind ∧
      ¬IsLeastCover firstTwo invertedBehind (firstTwo.merge invertedBehind) := by
  refine ⟨by decide, by decide, ?_⟩
  rw [isLeastCover_merge_iff]
  decide

end StatementSegments.Span
