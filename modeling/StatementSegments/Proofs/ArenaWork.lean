import StatementSegments.Tree.Arena

namespace StatementSegments.ArenaBuilder

section Working

variable {α β : Type} {x : ArenaBuilding α} {f : α → ArenaBuilding β} {b next : ArenaBuilder}

/-- The outcome of work on an arena and the arena after it, unless there was a fault. -/
def runOn (x : ArenaBuilding α) (b : ArenaBuilder) :
    Except Fault (Except BuildError α × ArenaBuilder) :=
  x.run.run b

@[simp]
theorem runOn_pure (a : α) : runOn (pure a) b = .ok (.ok a, b) :=
  rfl

@[simp]
theorem runOn_throw (e : BuildError) : runOn (throw e : ArenaBuilding α) b = .ok (.error e, b) :=
  rfl

@[simp]
theorem runOn_get : runOn get b = .ok (.ok b, b) :=
  rfl

@[simp]
theorem runOn_modify (g : ArenaBuilder → ArenaBuilder) :
    runOn (modify g) b = .ok (.ok (), g b) :=
  rfl

@[simp]
theorem runOn_checked_ok (a : α) : runOn (checked (.ok a)) b = .ok (.ok a, b) :=
  rfl

theorem runOn_bind :
    runOn (x >>= f) b =
      match runOn x b with
      | .ok (.ok a, next) => runOn (f a) next
      | .ok (.error e, next) => .ok (.error e, next)
      | .error fault => .error fault := by
  change (runOn x b >>= fun p => (ExceptT.bindCont f p.1).run p.2) = _
  rcases runOn x b with fault | ⟨_ | _, _⟩ <;> rfl

theorem runOn_bind_of_ok {a : α} (h : runOn x b = .ok (.ok a, next)) :
    runOn (x >>= f) b = runOn (f a) next := by
  rw [runOn_bind, h]

theorem runOn_bind_of_refused {e : BuildError} (h : runOn x b = .ok (.error e, next)) :
    runOn (x >>= f) b = .ok (.error e, next) := by
  rw [runOn_bind, h]

/-- Without a fault, either the first work is refused or the rest goes on where it has ended. -/
theorem runOn_bind_cases {outcome : Except BuildError β}
    (h : runOn (x >>= f) b = .ok (outcome, next)) :
    (∃ e, runOn x b = .ok (.error e, next) ∧ outcome = .error e) ∨
      ∃ a seen, runOn x b = .ok (.ok a, seen) ∧ runOn (f a) seen = .ok (outcome, next) := by
  rw [runOn_bind] at h
  rcases hx : runOn x b with fault | ⟨e | a, seen⟩
  · rw [hx] at h
    cases h
  · rw [hx] at h
    cases h
    exact Or.inl ⟨e, rfl, rfl⟩
  · rw [hx] at h
    exact Or.inr ⟨a, seen, rfl, h⟩

/-- The work only looks at the arena. -/
def OnlyLooks (x : ArenaBuilding α) : Prop :=
  ∀ b outcome next, runOn x b = .ok (outcome, next) → next = b

/-- Work that is refused leaves the arena as it was. -/
def RefusesUnchanged (x : ArenaBuilding α) : Prop :=
  ∀ b e next, runOn x b = .ok (.error e, next) → next = b

def NeverRefuses (x : ArenaBuilding α) : Prop :=
  ∀ b e next, runOn x b ≠ .ok (.error e, next)

theorem onlyLooks_pure (a : α) : OnlyLooks (pure a : ArenaBuilding α) := by
  rintro b outcome next ⟨⟩
  rfl

theorem onlyLooks_throw (e : BuildError) : OnlyLooks (throw e : ArenaBuilding α) := by
  rintro b outcome next ⟨⟩
  rfl

theorem onlyLooks_get : OnlyLooks (get : ArenaBuilding ArenaBuilder) := by
  rintro b outcome next ⟨⟩
  rfl

theorem onlyLooks_checked (result : Except Fault α) : OnlyLooks (checked result) := by
  intro b outcome next h
  cases result with
  | ok a =>
      cases h
      rfl
  | error fault => cases h

theorem OnlyLooks.bind (hx : OnlyLooks x) (hf : ∀ a, OnlyLooks (f a)) : OnlyLooks (x >>= f) := by
  intro b outcome next h
  rcases runOn_bind_cases h with ⟨e, hfirst, -⟩ | ⟨a, seen, hfirst, hrest⟩
  · exact hx b _ next hfirst
  · rw [hf a seen outcome next hrest]
    exact hx b _ seen hfirst

theorem OnlyLooks.refusesUnchanged (hx : OnlyLooks x) : RefusesUnchanged x :=
  fun b e next h => hx b (.error e) next h

theorem RefusesUnchanged.bind (hx : OnlyLooks x) (hf : ∀ a, RefusesUnchanged (f a)) :
    RefusesUnchanged (x >>= f) := by
  intro b e next h
  rcases runOn_bind_cases h with ⟨e', hfirst, -⟩ | ⟨a, seen, hfirst, hrest⟩
  · exact hx b _ next hfirst
  · rw [hf a seen e next hrest]
    exact hx b _ seen hfirst

theorem RefusesUnchanged.bind_neverRefuses (hx : RefusesUnchanged x)
    (hf : ∀ a, NeverRefuses (f a)) : RefusesUnchanged (x >>= f) := by
  intro b e next h
  rcases runOn_bind_cases h with ⟨e', hfirst, -⟩ | ⟨a, seen, -, hrest⟩
  · exact hx b e' next hfirst
  · exact absurd hrest (hf a seen e next)

theorem NeverRefuses.refusesUnchanged (hx : NeverRefuses x) : RefusesUnchanged x :=
  fun b e next h => absurd h (hx b e next)

theorem neverRefuses_pure (a : α) : NeverRefuses (pure a : ArenaBuilding α) := by
  rintro b e next ⟨⟩

theorem neverRefuses_get : NeverRefuses (get : ArenaBuilding ArenaBuilder) := by
  rintro b e next ⟨⟩

theorem neverRefuses_modify (g : ArenaBuilder → ArenaBuilder) :
    NeverRefuses (modify g : ArenaBuilding Unit) := by
  rintro b e next ⟨⟩

theorem neverRefuses_checked (result : Except Fault α) : NeverRefuses (checked result) := by
  intro b e next h
  cases result <;> cases h

theorem NeverRefuses.bind (hx : NeverRefuses x) (hf : ∀ a, NeverRefuses (f a)) :
    NeverRefuses (x >>= f) := by
  intro b e next h
  rcases runOn_bind_cases h with ⟨e', hfirst, -⟩ | ⟨a, seen, -, hrest⟩
  · exact hx b e' next hfirst
  · exact hf a seen e next hrest

end Working

theorem cellAt_onlyLooks (id : Nat) : OnlyLooks (cellAt id) :=
  onlyLooks_get.bind fun _ => onlyLooks_checked _

theorem cellAt_neverRefuses (id : Nat) : NeverRefuses (cellAt id) :=
  neverRefuses_get.bind fun _ => neverRefuses_checked _

theorem modifyCell_neverRefuses (id : Nat) (f : Cell → Cell) : NeverRefuses (modifyCell id f) :=
  (cellAt_neverRefuses id).bind fun _ => neverRefuses_modify _

theorem bytesOf_onlyLooks (start stop : Nat) : OnlyLooks (bytesOf start stop) := by
  apply onlyLooks_get.bind
  intro b
  apply (onlyLooks_checked _).bind
  intro first
  apply (onlyLooks_checked _).bind
  intro behind
  exact (onlyLooks_checked _).bind fun _ => onlyLooks_pure _

theorem bytesOf_neverRefuses (start stop : Nat) : NeverRefuses (bytesOf start stop) := by
  apply neverRefuses_get.bind
  intro b
  apply (neverRefuses_checked _).bind
  intro first
  apply (neverRefuses_checked _).bind
  intro behind
  exact (neverRefuses_checked _).bind fun _ => neverRefuses_pure _

theorem refuseIf_onlyLooks (condition : Prop) [Decidable condition] (e : BuildError) :
    OnlyLooks (refuseIf condition e) := by
  unfold refuseIf
  split
  · exact onlyLooks_throw e
  · exact onlyLooks_pure ()

theorem requireOffset_onlyLooks (offset : Nat) : OnlyLooks (requireOffset offset) := by
  apply onlyLooks_get.bind
  intro b
  exact (onlyLooks_checked _).bind fun _ => refuseIf_onlyLooks _ _

theorem requireOrder_onlyLooks (label : String) (start stop : Nat) :
    OnlyLooks (requireOrder label start stop) :=
  refuseIf_onlyLooks _ _

theorem requireRoom_onlyLooks (cell parent : Cell) : OnlyLooks (requireRoom cell parent) := by
  apply (refuseIf_onlyLooks _ _).bind
  intro _
  split
  · exact (cellAt_onlyLooks _).bind fun _ => refuseIf_onlyLooks _ _
  · exact onlyLooks_pure ()

theorem firstBeyond?_onlyLooks (stop : Nat) (ids : List Nat) :
    OnlyLooks (firstBeyond? stop ids) := by
  induction ids with
  | nil => exact onlyLooks_pure none
  | cons id rest ih =>
      apply (cellAt_onlyLooks id).bind
      intro cell
      split
      · exact onlyLooks_pure (some cell)
      · exact ih

theorem link_refusesUnchanged (cell : Cell) : RefusesUnchanged (link cell) := by
  apply RefusesUnchanged.bind onlyLooks_get
  intro b
  cases b.opened with
  | nil =>
      apply RefusesUnchanged.bind (refuseIf_onlyLooks _ _)
      intro _
      exact (neverRefuses_modify _).refusesUnchanged
  | cons parentId outer =>
      apply RefusesUnchanged.bind (cellAt_onlyLooks parentId)
      intro parent
      apply RefusesUnchanged.bind (requireRoom_onlyLooks cell parent)
      intro _
      exact (modifyCell_neverRefuses parentId _).refusesUnchanged

theorem attach_refusesUnchanged (cell : Cell) : RefusesUnchanged (attach cell) := by
  apply RefusesUnchanged.bind onlyLooks_get
  intro b
  apply (link_refusesUnchanged cell).bind_neverRefuses
  intro _
  exact (neverRefuses_modify _).bind fun _ => neverRefuses_pure _

theorem finishNode_refusesUnchanged (stop : Nat) : RefusesUnchanged (finishNode stop) := by
  apply RefusesUnchanged.bind onlyLooks_get
  intro b
  cases b.opened with
  | nil => exact (onlyLooks_throw _).refusesUnchanged
  | cons id outer =>
      apply RefusesUnchanged.bind (requireOffset_onlyLooks stop)
      intro _
      apply RefusesUnchanged.bind (cellAt_onlyLooks id)
      intro cell
      apply RefusesUnchanged.bind (requireOrder_onlyLooks cell.label cell.span.start stop)
      intro _
      apply RefusesUnchanged.bind (firstBeyond?_onlyLooks stop cell.children)
      intro beyond
      cases beyond with
      | some child => exact (onlyLooks_throw _).refusesUnchanged
      | none =>
          -- From here on the arena changes, and nothing refuses any more.
          apply NeverRefuses.refusesUnchanged
          apply (neverRefuses_modify _).bind
          intro _
          exact (bytesOf_neverRefuses cell.span.start stop).bind fun _ =>
            modifyCell_neverRefuses id _

/-- A refused step leaves any arena as it was. -/
theorem step_refused {b next : ArenaBuilder} {s : Step} {e : BuildError}
    (h : b.step s = .ok (.error e, next)) : next = b := by
  suffices hperform : RefusesUnchanged (perform s) from hperform b e next h
  cases s with
  | start name offset =>
      apply RefusesUnchanged.bind (requireOffset_onlyLooks offset)
      intro _
      exact (attach_refusesUnchanged _).bind_neverRefuses fun _ => neverRefuses_modify _
  | token type start stop =>
      apply RefusesUnchanged.bind (requireOffset_onlyLooks start)
      intro _
      apply RefusesUnchanged.bind (requireOffset_onlyLooks stop)
      intro _
      apply RefusesUnchanged.bind (requireOrder_onlyLooks type start stop)
      intro _
      apply RefusesUnchanged.bind (bytesOf_onlyLooks start stop)
      intro _
      exact (attach_refusesUnchanged _).bind_neverRefuses fun _ => neverRefuses_pure _
  | finish stop => exact finishNode_refusesUnchanged stop

end StatementSegments.ArenaBuilder
