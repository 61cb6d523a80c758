import StatementSegments.Tree.Builder

namespace StatementSegments.Builder

/-- A new node may start at an offset: behind all that the innermost open node holds or, if no node
is open, as the first root. -/
def HasRoomAt (b : Builder) (start : Nat) : Prop :=
  match b.pending with
  | parent :: _ =>
      parent.start ≤ start ∧ ∀ previous ∈ parent.children.getLast?, previous.stop < start
  | [] => b.root = none

inductive Accepts : Builder → Step → Builder → Prop where
  | start {b : Builder} {name : String} {offset : Nat}
      (hoffset : offset < b.text.length) (hroom : b.HasRoomAt offset) :
      Accepts b (.start name offset)
        { b with nextId := b.nextId + 1, pending := ⟨b.nextId, name, offset, []⟩ :: b.pending }
  | token {b : Builder} {type : String} {start stop : Nat}
      (hstop : stop < b.text.length) (horder : start ≤ stop) (hroom : b.HasRoomAt start) :
      Accepts b (.token type start stop)
        ({ b with nextId := b.nextId + 1 }.place (.token b.nextId type ⟨start, stop⟩))
  | finish {b : Builder} {node : OpenNode} {outer : List OpenNode} {stop : Nat}
      (hpending : b.pending = node :: outer) (hstop : stop < b.text.length)
      (horder : node.start ≤ stop) (hwithin : ∀ c ∈ node.children, c.stop ≤ stop) :
      Accepts b (.finish stop)
        ({ b with pending := outer }.place
          (.rule node.id node.name ⟨node.start, stop⟩ node.children))

section Working

variable {α β : Type} {x : Building α} {f : α → Building β} {b b' : Builder}

/-- The outcome of work on a builder, and the builder after it. -/
def runOn (x : Building α) (b : Builder) : Except BuildError α × Builder :=
  x.run.run b

@[simp]
theorem runOn_pure (a : α) : runOn (pure a) b = (.ok a, b) :=
  rfl

@[simp]
theorem runOn_throw (e : BuildError) : runOn (throw e : Building α) b = (.error e, b) :=
  rfl

@[simp]
theorem runOn_get : runOn get b = (.ok b, b) :=
  rfl

@[simp]
theorem runOn_modify (g : Builder → Builder) : runOn (modify g) b = (.ok (), g b) :=
  rfl

theorem runOn_bind :
    runOn (x >>= f) b =
      match runOn x b with
      | (.ok a, next) => runOn (f a) next
      | (.error e, next) => (.error e, next) := by
  change (ExceptT.bindCont f (runOn x b).1).run (runOn x b).2 = _
  rcases runOn x b with ⟨_ | _, _⟩ <;> rfl

theorem runOn_bind_ok_iff {v : β} :
    runOn (x >>= f) b = (.ok v, b') ↔
      ∃ a next, runOn x b = (.ok a, next) ∧ runOn (f a) next = (.ok v, b') := by
  rw [runOn_bind]
  rcases runOn x b with ⟨e | a, next⟩
  · simp
  · constructor
    · exact fun h => ⟨a, next, rfl, h⟩
    · rintro ⟨a', next', heq, h⟩
      cases heq
      exact h

/-- The work only looks at the builder. -/
def OnlyLooks (x : Building α) : Prop :=
  ∀ b, (runOn x b).2 = b

/-- Work that is refused leaves the builder as it was. -/
def RefusesUnchanged (x : Building α) : Prop :=
  ∀ b e, (runOn x b).1 = .error e → (runOn x b).2 = b

theorem RefusesUnchanged.bind (hx : OnlyLooks x) (hf : ∀ a, RefusesUnchanged (f a)) :
    RefusesUnchanged (x >>= f) := by
  intro b e
  have hlook := hx b
  rw [runOn_bind]
  rcases h : runOn x b with ⟨_ | a, next⟩
  · intro _
    rwa [h] at hlook
  · have hnext : next = b := by rwa [h] at hlook
    rw [hnext]
    exact hf a b e

theorem get_onlyLooks : OnlyLooks (get : Building Builder) :=
  fun _ => rfl

theorem throw_onlyLooks (e : BuildError) : OnlyLooks (throw e : Building α) :=
  fun _ => rfl

theorem refusesUnchanged_throw (e : BuildError) : RefusesUnchanged (throw e : Building α) :=
  fun b _ _ => throw_onlyLooks e b

theorem refusesUnchanged_modify (g : Builder → Builder) :
    RefusesUnchanged (modify g : Building Unit) := by
  intro b e h
  cases h

end Working

section Checks

variable {b b' : Builder}

theorem runOn_requireOffset (offset : Nat) :
    runOn (requireOffset offset) b =
      if b.text.length ≤ offset then (.error (.offsetOutOfRange offset b.text.length), b)
      else (.ok (), b) := by
  simp only [requireOffset, runOn_bind, runOn_get]
  split <;> rfl

theorem runOn_requireOrder (label : String) (start stop : Nat) :
    runOn (requireOrder label start stop) b =
      if stop < start then (.error (.invertedRange label start stop), b) else (.ok (), b) := by
  simp only [requireOrder]
  split <;> rfl

theorem runOn_requirePlace_nil (label : String) (span : Span) (h : b.pending = []) :
    runOn (requirePlace label span) b =
      if b.root.isSome then (.error (.multipleRoots label), b) else (.ok (), b) := by
  simp only [requirePlace, runOn_bind, runOn_get, h]
  split <;> rfl

theorem runOn_requirePlace_cons (label : String) (span : Span) {parent : OpenNode}
    {outer : List OpenNode} (h : b.pending = parent :: outer) :
    runOn (requirePlace label span) b =
      if span.start < parent.start then (.error (.outsideParent label parent.name span), b)
      else
        match parent.children.getLast? with
        | some previous =>
            if span.start ≤ previous.stop then
              (.error (.siblingOverlap label previous.label span.start previous.stop), b)
            else (.ok (), b)
        | none => (.ok (), b) := by
  simp only [requirePlace, runOn_bind, runOn_get, h]
  split
  · simp
  · cases parent.children.getLast? with
    | none => rfl
    | some previous =>
        dsimp only
        split <;> rfl

theorem requireOffset_onlyLooks (offset : Nat) : OnlyLooks (requireOffset offset) := by
  intro b
  rw [runOn_requireOffset]
  split <;> rfl

theorem requireOrder_onlyLooks (label : String) (start stop : Nat) :
    OnlyLooks (requireOrder label start stop) := by
  intro b
  rw [runOn_requireOrder]
  split <;> rfl

theorem requirePlace_onlyLooks (label : String) (span : Span) :
    OnlyLooks (requirePlace label span) := by
  intro b
  rcases h : b.pending with _ | ⟨parent, outer⟩
  · rw [runOn_requirePlace_nil label span h]
    split <;> rfl
  · rw [runOn_requirePlace_cons label span h]
    repeat' split
    all_goals rfl

theorem requireOffset_ok_iff {offset : Nat} {u : Unit} :
    runOn (requireOffset offset) b = (.ok u, b') ↔ offset < b.text.length ∧ b = b' := by
  rw [runOn_requireOffset]
  split
  · next h => simp [Nat.not_lt_of_le h]
  · next h => simp [Nat.lt_of_not_le h]

theorem requireOrder_ok_iff {label : String} {start stop : Nat} {u : Unit} :
    runOn (requireOrder label start stop) b = (.ok u, b') ↔ start ≤ stop ∧ b = b' := by
  rw [runOn_requireOrder]
  split
  · next h => simp [Nat.not_le_of_lt h]
  · next h => simp [Nat.le_of_not_lt h]

theorem requirePlace_ok_iff {label : String} {span : Span} {u : Unit} :
    runOn (requirePlace label span) b = (.ok u, b') ↔ b.HasRoomAt span.start ∧ b = b' := by
  rcases h : b.pending with _ | ⟨parent, outer⟩
  · rw [runOn_requirePlace_nil label span h]
    cases hroot : b.root <;> simp [HasRoomAt, h, hroot]
  · rw [runOn_requirePlace_cons label span h]
    simp only [HasRoomAt, h]
    by_cases hstart : span.start < parent.start
    · simp [hstart, Nat.not_le_of_lt hstart]
    · cases hlast : parent.children.getLast? with
      | none => simp [hstart, Nat.le_of_not_lt hstart]
      | some previous =>
          by_cases hprevious : span.start ≤ previous.stop
          · simp [hstart, hprevious, Nat.not_lt_of_le hprevious]
          · simp [hstart, hprevious, Nat.le_of_not_lt hstart, Nat.lt_of_not_le hprevious]

end Checks

variable {b b' : Builder}

theorem startNode_ok_iff {name : String} {offset : Nat} :
    runOn (startNode name offset) b = (.ok (), b') ↔ Accepts b (.start name offset) b' := by
  simp only [startNode, runOn_bind_ok_iff, requireOffset_ok_iff, requirePlace_ok_iff,
    runOn_modify]
  constructor
  · rintro ⟨_, _, ⟨hoffset, rfl⟩, _, _, ⟨hroom, rfl⟩, heq⟩
    cases heq
    exact .start hoffset hroom
  · rintro ⟨hoffset, hroom⟩
    exact ⟨(), b, ⟨hoffset, rfl⟩, (), b, ⟨hroom, rfl⟩, rfl⟩

theorem addToken_ok_iff {type : String} {start stop : Nat} :
    runOn (addToken type start stop) b = (.ok (), b') ↔
      Accepts b (.token type start stop) b' := by
  simp only [addToken, runOn_bind_ok_iff, requireOffset_ok_iff, requireOrder_ok_iff,
    requirePlace_ok_iff, runOn_modify]
  constructor
  · rintro ⟨_, _, ⟨-, rfl⟩, _, _, ⟨hstop, rfl⟩, _, _, ⟨horder, rfl⟩, _, _, ⟨hroom, rfl⟩, heq⟩
    cases heq
    exact .token hstop horder hroom
  · intro h
    cases h with
    | token hstop horder hroom =>
        have hstart : start < b.text.length := Nat.lt_of_le_of_lt horder hstop
        exact ⟨(), b, ⟨hstart, rfl⟩, (), b, ⟨hstop, rfl⟩, (), b, ⟨horder, rfl⟩, (), b,
          ⟨hroom, rfl⟩, rfl⟩

theorem finishNode_ok_iff {stop : Nat} :
    runOn (finishNode stop) b = (.ok (), b') ↔ Accepts b (.finish stop) b' := by
  simp only [finishNode, runOn_bind_ok_iff, runOn_get]
  constructor
  · rintro ⟨_, _, ⟨⟩, h⟩
    rcases hpending : b.pending with _ | ⟨node, outer⟩
    · rw [hpending] at h
      cases h
    · simp only [hpending, runOn_bind_ok_iff, requireOffset_ok_iff, requireOrder_ok_iff] at h
      obtain ⟨_, _, ⟨hstop, rfl⟩, _, _, ⟨horder, rfl⟩, h⟩ := h
      cases hfind : node.children.find? fun child => stop < child.stop with
      | some child =>
          rw [hfind] at h
          cases h
      | none =>
          rw [hfind] at h
          cases h
          have hwithin : ∀ c ∈ node.children, c.stop ≤ stop := by
            simpa using hfind
          exact .finish hpending hstop horder hwithin
  · intro h
    cases h with
    | @finish node outer _ hpending hstop horder hwithin =>
        have hfind : node.children.find? (fun child => stop < child.stop) = none := by
          simpa using hwithin
        refine ⟨b, b, rfl, ?_⟩
        simp only [hpending, runOn_bind_ok_iff, requireOffset_ok_iff, requireOrder_ok_iff, hfind]
        exact ⟨(), b, ⟨hstop, rfl⟩, (), b, ⟨horder, rfl⟩, rfl⟩

/-- The steps that are accepted, and what they do. -/
theorem step_ok_iff {s : Step} : b.step s = (.ok (), b') ↔ Accepts b s b' := by
  cases s with
  | start name offset => exact startNode_ok_iff
  | token type start stop => exact addToken_ok_iff
  | finish stop => exact finishNode_ok_iff

theorem finishNode_refusesUnchanged (stop : Nat) : RefusesUnchanged (finishNode stop) := by
  apply RefusesUnchanged.bind get_onlyLooks
  intro seen
  cases seen.pending with
  | nil => exact refusesUnchanged_throw _
  | cons node outer =>
      apply RefusesUnchanged.bind (requireOffset_onlyLooks stop)
      intro _
      apply RefusesUnchanged.bind (requireOrder_onlyLooks node.name node.start stop)
      intro _
      cases node.children.find? fun child => stop < child.stop with
      | none => exact refusesUnchanged_modify _
      | some child =>
          apply RefusesUnchanged.bind (throw_onlyLooks _)
          intro _
          exact refusesUnchanged_modify _

/-- A refused step changes nothing. -/
theorem step_error {s : Step} {e : BuildError} (h : (b.step s).1 = .error e) :
    (b.step s).2 = b := by
  suffices hperform : RefusesUnchanged (perform s) from hperform b e h
  cases s with
  | start name offset =>
      apply RefusesUnchanged.bind (requireOffset_onlyLooks offset)
      intro _
      apply RefusesUnchanged.bind (requirePlace_onlyLooks name _)
      intro _
      exact refusesUnchanged_modify _
  | token type start stop =>
      apply RefusesUnchanged.bind (requireOffset_onlyLooks start)
      intro _
      apply RefusesUnchanged.bind (requireOffset_onlyLooks stop)
      intro _
      apply RefusesUnchanged.bind (requireOrder_onlyLooks type start stop)
      intro _
      apply RefusesUnchanged.bind (requirePlace_onlyLooks type _)
      intro _
      exact refusesUnchanged_modify _
  | finish stop => exact finishNode_refusesUnchanged stop

/-- What every accepted step keeps holds after every run, whichever steps were refused in it. -/
theorem run_induction {P : Builder → Prop}
    (hstep : ∀ {b b' : Builder} {s : Step}, P b → Accepts b s b' → P b')
    (steps : List Step) (h : P b) : P (b.run steps).2 := by
  induction steps generalizing b with
  | nil => exact h
  | cons s rest ih =>
      change P ((b.step s).2.run rest).2
      apply ih
      rcases houtcome : (b.step s).1 with e | u
      · rw [step_error houtcome]
        exact h
      · exact hstep h (step_ok_iff.mp (Prod.ext houtcome rfl))

end StatementSegments.Builder
