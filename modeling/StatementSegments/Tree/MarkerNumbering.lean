import StatementSegments.Tree.Traversal

namespace StatementSegments

/-- Pairs of the identity of a node and its number, one for each numbered node. -/
structure MarkerNumbering where
  entries : List (Nat × Nat)
  deriving DecidableEq, Repr

namespace MarkerNumbering

def empty : MarkerNumbering :=
  ⟨[]⟩

def number? (numbering : MarkerNumbering) (id : Nat) : Option Nat :=
  numbering.entries.lookup id

/-- Number a node, in place of any number it had. -/
def insert (numbering : MarkerNumbering) (id number : Nat) : MarkerNumbering :=
  ⟨numbering.entries.filter (fun entry => entry.1 != id) ++ [(id, number)]⟩

def size (numbering : MarkerNumbering) : Nat :=
  numbering.entries.length

def ofList (entries : List (Nat × Nat)) : MarkerNumbering :=
  entries.foldl (fun numbering entry => numbering.insert entry.1 entry.2) empty

/-- A marker gets the number of markers before it. -/
def insertNode (numbering : MarkerNumbering) (n : Node) : MarkerNumbering :=
  if n.isRule .parameterMarker then numbering.insert n.id numbering.size else numbering

/-- The numbers of the markers under a node. -/
def ofNode (root : Node) : MarkerNumbering :=
  (Node.depthFirst [root]).foldl insertNode empty

theorem lookup_filter_ne {entries : List (Nat × Nat)} {id other : Nat} (h : other ≠ id) :
    (entries.filter fun entry => entry.1 != id).lookup other = entries.lookup other := by
  induction entries with
  | nil => rfl
  | cons entry entries ih =>
      obtain ⟨key, value⟩ := entry
      by_cases hkey : key = id
      · subst hkey
        simp [ih, List.lookup_cons, beq_false_of_ne h]
      · simp [hkey, ih, List.lookup_cons]

theorem lookup_filter_self (entries : List (Nat × Nat)) (id : Nat) :
    (entries.filter fun entry => entry.1 != id).lookup id = none := by
  rw [List.lookup_eq_none_iff]
  intro entry hentry
  have hne := (List.mem_filter.mp hentry).2
  rw [bne_iff_ne] at hne
  exact bne_iff_ne.mpr (Ne.symm hne)

theorem number?_insert (numbering : MarkerNumbering) (id number other : Nat) :
    (numbering.insert id number).number? other =
      if other = id then some number else numbering.number? other := by
  by_cases h : other = id
  · subst h
    simp [insert, number?, List.lookup_append, lookup_filter_self]
  · simp [insert, number?, List.lookup_append, lookup_filter_ne h, h, List.lookup_cons,
      beq_false_of_ne h]

end MarkerNumbering

end StatementSegments
