import StatementSegments.Proofs.NodeTexts

namespace StatementSegments.Builder

/-- Every step is accepted in turn. -/
inductive AcceptsAll : Builder → List Step → Builder → Prop where
  | nil (b : Builder) : AcceptsAll b [] b
  | cons {b next last : Builder} {s : Step} {rest : List Step} (hstep : Accepts b s next)
      (hrest : AcceptsAll next rest last) : AcceptsAll b (s :: rest) last

/-- The steps of a run that are accepted, in their order. -/
def accepted (b : Builder) (steps : List Step) : List Step :=
  ((steps.zip (b.run steps).1).filter fun entry => entry.2.isOk).map Prod.fst

variable {b next last : Builder} {s : Step}

theorem run_cons (b : Builder) (s : Step) (rest : List Step) :
    b.run (s :: rest) =
      ((b.step s).1 :: ((b.step s).2.run rest).1, ((b.step s).2.run rest).2) :=
  rfl

theorem accepted_cons_of_refused {e : BuildError} (h : (b.step s).1 = .error e)
    (rest : List Step) : b.accepted (s :: rest) = b.accepted rest := by
  rw [accepted, run_cons, h, step_error h]
  rfl

theorem accepted_cons_of_accepts (h : Accepts b s next) (rest : List Step) :
    b.accepted (s :: rest) = s :: next.accepted rest := by
  rw [accepted, run_cons, step_ok_iff.mpr h]
  rfl

namespace AcceptsAll

theorem single (h : Accepts b s next) : AcceptsAll b [s] next :=
  .cons h (.nil next)

theorem append {steps rest : List Step} (h : AcceptsAll b steps next)
    (hrest : AcceptsAll next rest last) : AcceptsAll b (steps ++ rest) last := by
  induction h with
  | nil b => exact hrest
  | cons hstep _ ih => exact .cons hstep (ih hrest)

theorem run_eq {steps : List Step} (h : AcceptsAll b steps last) :
    b.run steps = (List.replicate steps.length (.ok ()), last) := by
  induction h with
  | nil b => rfl
  | cons hstep _ ih =>
      rw [run_cons, step_ok_iff.mpr hstep, ih, List.length_cons, List.replicate_succ]

theorem accepted_eq {steps : List Step} (h : AcceptsAll b steps last) :
    b.accepted steps = steps := by
  induction h with
  | nil b => rfl
  | cons hstep _ ih =>
      rw [accepted_cons_of_accepts hstep, ih]

end AcceptsAll

/-- A tree is built where every step is accepted and the nodes are finished in the end. -/
theorem build_eq_ok_iff {position : Nat} {steps : List Step} {tree : ParseTree} :
    b.build position steps = .ok tree ↔
      ∃ last, AcceptsAll b steps last ∧ last.finish = .ok tree := by
  induction steps generalizing b position with
  | nil =>
      constructor
      · intro h
        refine ⟨b, .nil b, ?_⟩
        rcases hfinish : b.finish with e | found
        · rw [build, hfinish] at h
          cases h
        · rw [build, hfinish] at h
          cases h
          rfl
      · rintro ⟨last, haccepts, hfinish⟩
        cases haccepts
        rw [build, hfinish]
        rfl
  | cons s rest ih =>
      constructor
      · intro h
        rcases hstep : b.step s with ⟨e | ⟨⟩, next⟩
        · rw [build, hstep] at h
          cases h
        · rw [build, hstep] at h
          obtain ⟨last, haccepts, hfinish⟩ := ih.mp h
          exact ⟨last, .cons (step_ok_iff.mp hstep) haccepts, hfinish⟩
      · rintro ⟨last, haccepts, hfinish⟩
        cases haccepts with
        | cons hstep hrest =>
            rw [build, step_ok_iff.mpr hstep]
            exact ih.mpr ⟨last, hrest, hfinish⟩

/-- What is accepted in a run is accepted without the rest of it, with the same end. -/
theorem acceptsAll_accepted (b : Builder) (steps : List Step) :
    AcceptsAll b (b.accepted steps) (b.run steps).2 := by
  induction steps generalizing b with
  | nil => exact .nil b
  | cons s rest ih =>
      rw [run_cons]
      rcases houtcome : (b.step s).1 with e | u
      · rw [accepted_cons_of_refused houtcome, step_error houtcome]
        exact ih b
      · have hstep : Accepts b s (b.step s).2 := step_ok_iff.mp (Prod.ext houtcome rfl)
        rw [accepted_cons_of_accepts hstep]
        exact .cons hstep (ih _)

/-- The accepted steps of a run are all accepted once more, and give the same builder, the same
arena and the same tree. -/
theorem run_accepted (text : String) (steps : List Step) :
    (∀ before s after e, steps = before ++ s :: after →
      (((ofText text).run before).2.step s).1 = .error e →
        (((ofText text).run before).2.step s).2 = ((ofText text).run before).2) ∧
    (∀ (a next : ArenaBuilder) s e, a.step s = .ok (.error e, next) → next = a) ∧
    (ofText text).run ((ofText text).accepted steps) =
      (List.replicate ((ofText text).accepted steps).length (.ok ()),
        ((ofText text).run steps).2) ∧
    ((ofText text).run ((ofText text).accepted steps)).2.finish =
      ((ofText text).run steps).2.finish ∧
    (text.utf8ByteSize < 2 ^ 63 → ∃ outcomes last,
      (ArenaBuilder.ofText text).run steps = .ok (outcomes, last) ∧
      (ArenaBuilder.ofText text).run ((ofText text).accepted steps) =
        .ok (List.replicate ((ofText text).accepted steps).length (.ok ()), last)) := by
  have hrun := (acceptsAll_accepted (ofText text) steps).run_eq
  refine ⟨?_, ?_, hrun, ?_, ?_⟩
  · intro before s after e _ he
    exact step_error he
  · intro a next s e h
    exact ArenaBuilder.step_refused h
  · rw [hrun]
  · intro hsize
    refine ⟨_, _, run_arena_ofText hsize steps, ?_⟩
    rw [run_arena_ofText hsize, hrun]

theorem limitSteps_run_accepted :
    (ofText "列 LIMIT ?, ?").accepted ParseTree.limitSteps ≠ ParseTree.limitSteps ∧
      ((ofText "列 LIMIT ?, ?").run ((ofText "列 LIMIT ?, ?").accepted ParseTree.limitSteps)).1 =
        List.replicate 17 (.ok ()) ∧
      ((ofText "列 LIMIT ?, ?").run
        ((ofText "列 LIMIT ?, ?").accepted ParseTree.limitSteps)).2.finish =
          .ok ParseTree.limitTree ∧
      (((ofText "列 LIMIT ?, ?").run (ParseTree.limitSteps.take 5)).2.step
        (.start "parameterMarker" 7)).2 =
          ((ofText "列 LIMIT ?, ?").run (ParseTree.limitSteps.take 5)).2 := by
  obtain ⟨hrefused, -, hrun, hfinish, -⟩ := run_accepted "列 LIMIT ?, ?" ParseTree.limitSteps
  refine ⟨by decide, ?_, hfinish.trans ParseTree.finish_limitSteps, ?_⟩
  · rw [hrun]
    rfl
  · exact hrefused (ParseTree.limitSteps.take 5) _ (ParseTree.limitSteps.drop 6) _ rfl rfl

end StatementSegments.Builder
