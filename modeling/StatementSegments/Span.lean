namespace StatementSegments

/-- The characters from `start` to `stop`, both included. -/
structure Span where
  start : Nat
  stop : Nat
  deriving DecidableEq, Repr, Inhabited

namespace Span

def point (offset : Nat) : Span :=
  ⟨offset, offset⟩

/-- A span whose stop lies before its start covers nothing. -/
def IsEmpty (s : Span) : Prop :=
  s.stop < s.start

instance (s : Span) : Decidable s.IsEmpty :=
  inferInstanceAs (Decidable (s.stop < s.start))

instance : Membership Nat Span where
  mem s offset := s.start ≤ offset ∧ offset ≤ s.stop

instance (offset : Nat) (s : Span) : Decidable (offset ∈ s) :=
  inferInstanceAs (Decidable (s.start ≤ offset ∧ offset ≤ s.stop))

theorem mem_iff {offset : Nat} {s : Span} : offset ∈ s ↔ s.start ≤ offset ∧ offset ≤ s.stop :=
  Iff.rfl

/-- How many offsets the span covers. -/
def size (s : Span) : Nat :=
  if s.IsEmpty then 0 else s.stop - s.start + 1

/-- Both ends of `inner` lie within the ends of `outer`. -/
def Encloses (outer inner : Span) : Prop :=
  outer.start ≤ inner.start ∧ inner.stop ≤ outer.stop

instance (outer inner : Span) : Decidable (outer.Encloses inner) :=
  inferInstanceAs (Decidable (outer.start ≤ inner.start ∧ inner.stop ≤ outer.stop))

def merge (a b : Span) : Span :=
  ⟨min a.start b.start, max a.stop b.stop⟩

/-- Spans are ordered by start, and from one start by stop. -/
instance : Ord Span where
  compare a b := (compare a.start b.start).then (compare a.stop b.stop)

def render (s : Span) : String :=
  s!"[{s.start}, {s.stop}]"

/-- Offsets are unsigned numbers of 64 bits. -/
def offset? (n : Int) : Option Nat :=
  if 0 ≤ n ∧ n < UInt64.size then some n.toNat else none

/-- The span of a record with whole-number fields; an absent field is no offset. -/
def ofFields? (start stop : Option Int) : Option Span := do
  let first ← start >>= offset?
  let last ← stop >>= offset?
  return ⟨first, last⟩

end Span

end StatementSegments
