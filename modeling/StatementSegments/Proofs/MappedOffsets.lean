import StatementSegments.Proofs.Outcome
import StatementSegments.Resolution
import StatementSegments.Segment.Bound

namespace StatementSegments

/-! Offsets of what is extracted -/

section Offsets

variable (f : Nat → Nat)

def Span.mapOffsets (s : Span) : Span :=
  ⟨f s.start, f s.stop⟩

def TableRef.mapOffsets (t : TableRef) : TableRef :=
  { t with start := f t.start }

def Table.mapOffsets (t : Table) : Table :=
  { t with span := t.span.mapOffsets f }

def Column.mapOffsets (c : Column) : Column :=
  { c with span := c.span.mapOffsets f, owner := c.owner.map (·.mapOffsets f) }

def Expression.mapOffsets : Expression → Expression
  | literal span value => literal (span.mapOffsets f) value
  | parameter span index => parameter (span.mapOffsets f) index
  | column c => column (c.mapOffsets f)
  | complex span text => complex (span.mapOffsets f) text

def BoundSegment.mapOffsets (b : BoundSegment) : BoundSegment :=
  { b with span := b.span.mapOffsets f }

def Top.mapOffsets (t : Top) : Top :=
  { t with span := t.span.mapOffsets f }

def Limit.mapOffsets (l : Limit) : Limit where
  span := l.span.mapOffsets f
  offset := l.offset.map (·.mapOffsets f)
  rowCount := l.rowCount.map (·.mapOffsets f)

def Select.mapOffsets (selected : Select) : Select where
  top := selected.top.map (·.mapOffsets f)
  limit := selected.limit.map (·.mapOffsets f)
  tables := selected.tables.map (·.mapOffsets f)
  columns := selected.columns.map (·.mapOffsets f)

def ExtractionError.mapOffsets : ExtractionError → ExtractionError
  | missingNode rule parent start => missingNode rule parent (f start)
  | unindexedParameterMarker start => unindexedParameterMarker (f start)
  | unresolvedExpression span => unresolvedExpression (span.mapOffsets f)
  | invalidLiteral text start => invalidLiteral text (f start)
  | ownerAlreadyBound column => ownerAlreadyBound column
  | unsupported construct text span => unsupported construct text (span.mapOffsets f)

end Offsets

namespace Logged

variable {ε ε' α β γ δ : Type} {h : ε → ε'} {g : α → β} {k : γ → δ} {x : Logged ε α}
  {y : Logged ε' β}

/-- The second computation comes to what the first one comes to, with values and errors mapped. -/
def Carries (h : ε → ε') (g : α → β) (x : Logged ε α) (y : Logged ε' β) : Prop :=
  y.outcome = (x.outcome.map g).mapError h

namespace Carries

theorem pure (a : α) : Carries h g (Pure.pure a) (Pure.pure (g a)) :=
  rfl

theorem fail {e : ε} {e' : ε'} (he : e' = h e) : Carries h g (Logged.fail e) (Logged.fail e') :=
  congrArg Except.error he

theorem bind {x' : α → Logged ε γ} {y' : β → Logged ε' δ} (hxy : Carries h g x y)
    (hnext : ∀ a, x.outcome = .ok a → Carries h k (x' a) (y' (g a))) :
    Carries h k (x >>= x') (y >>= y') := by
  unfold Carries at hxy
  rcases hx : x.outcome with e | a
  · rw [hx] at hxy
    rw [Carries, outcome_bind_of_error hx, outcome_bind_of_error hxy]
    rfl
  · rw [hx] at hxy
    rw [Carries, outcome_bind_of_ok hx, outcome_bind_of_ok hxy]
    exact hnext a hx

theorem log_bind {level level' : LogLevel} {message message' : String}
    {x : Unit → Logged ε α} {y : Unit → Logged ε' β} (hxy : Carries h g (x ()) (y ())) :
    Carries h g (log level message >>= x) (log level' message' >>= y) :=
  hxy

theorem reporting {level level' : LogLevel} {message : ε → String} {message' : ε' → String}
    (hxy : Carries h g x y) :
    Carries h g (x.reporting level message) (y.reporting level' message') := by
  rw [Carries, outcome_reporting, outcome_reporting]
  exact hxy

theorem ite_none {c : Bool} {x : Logged ε (Option α)} {y : Logged ε' (Option β)}
    (hxy : Carries h (Option.map g) x y) :
    Carries h (Option.map g) (if c then x else Pure.pure none)
      (if c then y else Pure.pure none) := by
  cases c with
  | true => exact hxy
  | false => exact pure none

theorem mapM_option {x' : α → Logged ε γ} {y' : β → Logged ε' δ} {o : Option α}
    (hnext : ∀ a, o = some a → Carries h k (x' a) (y' (g a))) :
    Carries h (Option.map k) (o.mapM x') ((o.map g).mapM y') := by
  cases o with
  | none => exact pure none
  | some a =>
      rw [Option.map_some, Option.mapM_some, Option.mapM_some, map_eq_pure_bind, map_eq_pure_bind]
      exact (hnext a rfl).bind fun c _ => pure (some c)

theorem mapM_list {x' : α → Logged ε γ} {y' : β → Logged ε' δ} {as : List α}
    (hnext : ∀ a ∈ as, Carries h k (x' a) (y' (g a))) :
    Carries h (List.map k) (as.mapM x') ((as.map g).mapM y') := by
  induction as with
  | nil => exact pure []
  | cons a as ih =>
      rw [List.map_cons, List.mapM_cons, List.mapM_cons]
      refine (hnext a List.mem_cons_self).bind fun c _ => ?_
      exact (ih fun a ha => hnext a (List.mem_cons_of_mem _ ha)).bind fun cs _ => pure (c :: cs)

end Carries

end Logged

open ExtractionError (mapOffsets)

variable {g : Nat → Nat}

namespace Column

theorem owner?_mapOffsets (c : Column) (tables : List Table) :
    (c.mapOffsets g).owner? (tables.map (·.mapOffsets g)) =
      (c.owner? tables).map (·.mapOffsets g) := by
  unfold owner?
  rw [mapOffsets]
  cases c.qualifier with
  | some qualifier =>
      dsimp only
      rw [List.find?_map, List.find?_map, Option.map_or]
      rfl
  | none => rcases tables with _ | ⟨t, _ | ⟨u, rest⟩⟩ <;> rfl

theorem qualifiedName_mapOffsets (c : Column) :
    (c.mapOffsets g).qualifiedName = c.qualifiedName := by
  simp [qualifiedName, mapOffsets, TableRef.mapOffsets, Function.comp_def]

theorem bindOwner_mapOffsets (c : Column) (owner : TableRef) :
    (c.mapOffsets g).bindOwner (owner.mapOffsets g) =
      ((c.bindOwner owner).map (·.mapOffsets g)).mapError (·.mapOffsets g) := by
  unfold bindOwner
  rw [qualifiedName_mapOffsets]
  rcases howner : c.owner with _ | owner' <;> simp [mapOffsets, howner] <;> rfl

theorem resolve_of_owner?_eq_none {c : Column} {tables : List Table} (h : c.owner? tables = none) :
    (c.resolve tables).outcome = .ok c := by
  unfold resolve
  rw [h]
  cases c.unboundReason? tables <;> rfl

theorem resolve_carries (c : Column) (tables : List Table) :
    Logged.Carries (ExtractionError.mapOffsets g) (Column.mapOffsets g) (c.resolve tables)
      ((c.mapOffsets g).resolve (tables.map (·.mapOffsets g))) := by
  have himage := owner?_mapOffsets (g := g) c tables
  rcases howner : c.owner? tables with _ | owner
  · rw [howner] at himage
    rw [Logged.Carries, resolve_of_owner?_eq_none howner, resolve_of_owner?_eq_none himage]
    rfl
  · rw [howner] at himage
    unfold resolve
    rw [howner, himage]
    exact bindOwner_mapOffsets c owner.ref

end Column

theorem resolveOwners_carries (columns : List Column) (tables : List Table) :
    Logged.Carries (ExtractionError.mapOffsets g) (List.map (Column.mapOffsets g))
      (resolveOwners columns tables)
      (resolveOwners (columns.map (·.mapOffsets g)) (tables.map (·.mapOffsets g))) :=
  .mapM_list fun c _ => c.resolve_carries tables

namespace Expression

theorem span_mapOffsets (e : Expression) : (e.mapOffsets g).span = e.span.mapOffsets g := by
  cases e <;> rfl

theorem describe_mapOffsets (e : Expression) : (e.mapOffsets g).describe = e.describe := by
  cases e with
  | column c => exact c.qualifiedName_mapOffsets
  | _ => rfl

end Expression

theorem Bound.ofExpression_carries (construct : String) (e : Expression) :
    Logged.Carries (mapOffsets g) id (Logged.ofExcept (ofExpression construct e))
      (Logged.ofExcept (ofExpression construct (e.mapOffsets g))) := by
  have hdescribe := e.describe_mapOffsets (g := g)
  cases e with
  | parameter span index => exact .pure _
  | literal span value =>
      unfold ofExpression
      dsimp only [Expression.mapOffsets]
      cases value.toInt64? with
      | none => exact .fail rfl
      | some n => exact .pure _
  | column c =>
      refine .fail ?_
      rw [hdescribe]
      rfl
  | complex span text => exact .fail rfl

end StatementSegments
