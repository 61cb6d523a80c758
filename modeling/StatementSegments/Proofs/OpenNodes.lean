import Mathlib.Data.List.Basic
import StatementSegments.Proofs.AcceptedRuns

namespace StatementSegments

namespace Step

def isStart : Step → Bool
  | start _ _ => true
  | _ => false

def isFinish : Step → Bool
  | finish _ => true
  | _ => false

/-- The rule nodes that some steps start, less the ones that they finish. -/
def surplus (steps : List Step) : ℤ :=
  steps.countP isStart - steps.countP isFinish

@[simp]
theorem surplus_nil : surplus [] = 0 :=
  rfl

theorem surplus_finish (stop : ℕ) : surplus [finish stop] = -1 :=
  rfl

theorem surplus_cons (s : Step) (rest : List Step) :
    surplus (s :: rest) = surplus [s] + surplus rest := by
  unfold surplus
  simp only [List.countP_cons, List.countP_nil]
  omega

end Step

namespace Builder

variable {b b' last : Builder} {s : Step} {steps : List Step} {text : StatementText}

theorem length_pending_place (n : Node) : (b.place n).pending.length = b.pending.length := by
  unfold place
  split
  · next hpending => rw [hpending]; rfl
  · rfl

/-- An accepted step changes the number of open nodes by what it starts or finishes. -/
theorem length_pending_of_accepts (h : Accepts b s b') :
    (b'.pending.length : ℤ) = b.pending.length + Step.surplus [s] := by
  cases h with
  | start hoffset hroom => exact Int.natCast_succ _
  | token hstop horder hroom =>
      rw [length_pending_place]
      exact (Int.add_zero _).symm
  | @finish node outer stop hpending hstop horder hwithin =>
      rw [length_pending_place, hpending, Step.surplus_finish]
      exact (Int.add_neg_cancel_right (outer.length : ℤ) 1).symm

theorem length_pending_of_acceptsAll (h : AcceptsAll b steps last) :
    (last.pending.length : ℤ) = b.pending.length + Step.surplus steps := by
  induction h with
  | nil b => exact (Int.add_zero _).symm
  | @cons b next last s rest hstep _ ih =>
      have hnext := length_pending_of_accepts hstep
      rw [Step.surplus_cons]
      omega

/-- Every accepted step that does not finish a node makes one. -/
theorem nextId_of_acceptsAll (h : AcceptsAll b steps last) :
    last.nextId = b.nextId + steps.countP fun s => !s.isFinish := by
  induction h with
  | nil b => rfl
  | @cons b next last s rest hstep _ ih =>
      have hnext : next.nextId = b.nextId + if s.isFinish then 0 else 1 := by
        cases hstep with
        | start hoffset hroom => rfl
        | token hstop horder hroom => exact place_nextId _
        | finish hpending hstop horder hwithin => exact place_nextId _
      rw [ih, hnext, List.countP_cons]
      cases s.isFinish with
      | false => exact Nat.add_right_comm _ _ _
      | true => rfl

/-- Where no node is open, there is a root as soon as any node has been made. -/
theorem Coherent.root_eq_none_iff (h : Coherent text b) (hpending : b.pending = []) :
    b.root = none ↔ b.nextId = 0 := by
  have hlength : (b.root.toList.flatMap Node.nodes).length = b.nextId := by
    simpa [ids, hpending] using congrArg List.length h.ids_eq
  rw [← hlength]
  cases b.root with
  | none => simp
  | some r => simp [Node.nodes_eq_cons r]

theorem Coherent.pending_eq_nil (h : Coherent text b) (hnone : b.nextId = 0) : b.pending = [] := by
  have hids := h.ids_eq
  rw [hnone] at hids
  rcases hopen : b.pending with _ | ⟨node, outer⟩
  · rfl
  · simp [ids, hopen] at hids

/-- The last character of the text lies behind all that the open nodes hold. -/
theorem Coherent.accepts_finish (h : Coherent text b) (hpending : b.pending ≠ []) :
    ∃ next, Accepts b (.finish (text.length - 1)) next := by
  obtain ⟨node, outer, heq⟩ := List.exists_cons_of_ne_nil hpending
  have hmem : node ∈ b.pending := heq ▸ List.mem_cons_self
  have hfits : node.Fits text.length := h.text_eq ▸ h.wellPlaced.fits node hmem
  have hstart := hfits.start_lt
  refine ⟨_, .finish heq ?_ ?_ ?_⟩
  · rw [h.text_eq]
    omega
  · omega
  · intro c hc
    have hstop := (hfits.nested c hc).fits.stop_lt
    omega

theorem Coherent.acceptsAll_finish (h : Coherent text b) {count : ℕ}
    (hcount : b.pending.length = count) :
    ∃ last, AcceptsAll b (List.replicate count (.finish (text.length - 1))) last ∧
      Coherent text last ∧ last.pending = [] := by
  induction count generalizing b with
  | zero => exact ⟨b, .nil b, h, List.eq_nil_of_length_eq_zero hcount⟩
  | succ count ih =>
      have hopen : b.pending ≠ [] := by
        rw [← List.length_pos_iff]
        omega
      obtain ⟨next, hstep⟩ := h.accepts_finish hopen
      have hlength := length_pending_of_accepts hstep
      rw [Step.surplus_finish] at hlength
      obtain ⟨last, hrest, hlast⟩ := ih (h.of_accepts hstep) (by omega)
      exact ⟨last, .cons hstep hrest, hlast⟩

theorem finish_of_open (h : b.pending ≠ []) :
    b.finish = .error (.unbalanced b.pending.length) := by
  obtain ⟨node, outer, heq⟩ := List.exists_cons_of_ne_nil h
  rw [finish, heq]

theorem Coherent.finish_of_none (h : Coherent text b) (hnone : b.nextId = 0) :
    b.finish = .error .empty := by
  have hpending := h.pending_eq_nil hnone
  rw [finish, hpending, (h.root_eq_none_iff hpending).mpr hnone]

theorem Coherent.finish_of_closed (h : Coherent text b) (hpending : b.pending = [])
    (hsome : b.nextId ≠ 0) : ∃ tree, b.finish = .ok tree := by
  have hroot : b.root ≠ none := fun hroot => hsome ((h.root_eq_none_iff hpending).mp hroot)
  obtain ⟨root, hroot⟩ := Option.ne_none_iff_exists'.mp hroot
  refine ⟨⟨b.text, root⟩, ?_⟩
  rw [finish, hpending, hroot]

/-- As many further steps as nodes are open close them all, and building ends. -/
theorem Coherent.run_closing (h : Coherent text b) (hopen : b.pending ≠ []) :
    ∃ last tree, b.run (List.replicate b.pending.length (.finish (text.length - 1))) =
      (List.replicate b.pending.length (.ok ()), last) ∧ last.finish = .ok tree := by
  obtain ⟨last, hclosing, hlast, hclosed⟩ := h.acceptsAll_finish rfl
  have hmade : b.nextId ≠ 0 := fun hnone => hopen (h.pending_eq_nil hnone)
  have hkept := nextId_of_acceptsAll hclosing
  obtain ⟨tree, hfinish⟩ := hlast.finish_of_closed hclosed (by omega)
  refine ⟨last, tree, ?_, hfinish⟩
  have hrun := hclosing.run_eq
  rwa [List.length_replicate] at hrun

/-- The rule nodes that were started and not finished decide how building ends, and as many further
steps at the last character finish them. -/
theorem finish_by_surplus (text : String) (steps : List Step) :
    ∃ count : ℕ, Step.surplus ((ofText text).accepted steps) = count ∧
      (0 < count → ((ofText text).run steps).2.finish = .error (.unbalanced count)) ∧
      ((∀ s ∈ (ofText text).accepted steps, s.isFinish = true) →
        ((ofText text).run steps).2.finish = .error .empty) ∧
      (count = 0 → (∃ s ∈ (ofText text).accepted steps, s.isFinish = false) →
        ∃ tree, ((ofText text).run steps).2.finish = .ok tree) ∧
      (0 < count → ∃ last tree,
        ((ofText text).run steps).2.run (List.replicate count (.finish (text.length - 1))) =
          (List.replicate count (.ok ()), last) ∧
        last.finish = .ok tree) := by
  have hcoherent := coherent_run text steps
  have haccepts := acceptsAll_accepted (ofText text) steps
  have hsurplus := length_pending_of_acceptsAll haccepts
  have hnodes := nextId_of_acceptsAll haccepts
  have hstart : (ofText text).pending.length = 0 ∧ (ofText text).nextId = 0 := ⟨rfl, rfl⟩
  refine ⟨((ofText text).run steps).2.pending.length, by omega, ?_, ?_, ?_, ?_⟩
  · intro hopen
    exact finish_of_open (List.ne_nil_of_length_pos hopen)
  · intro hall
    apply hcoherent.finish_of_none
    rw [hnodes, hstart.2, List.countP_eq_zero.mpr]
    simpa using hall
  · rintro hclosed ⟨s, hs, hnode⟩
    apply hcoherent.finish_of_closed (List.eq_nil_of_length_eq_zero hclosed)
    have hpos := List.countP_pos_iff (p := fun s => !s.isFinish).mpr ⟨s, hs, by simpa using hnode⟩
    omega
  · intro hopen
    have hclosing := hcoherent.run_closing (List.ne_nil_of_length_pos hopen)
    rwa [StatementText.length_eq] at hclosing

/-- Steps that are all refused: nothing is open, and the text ends before the token does. -/
def refusedSteps : List Step :=
  [.finish 0, .token "LIMIT" 2 12]

/-- Three nodes are open after the first thirteen steps for a clause, of which two were refused;
after all of them none is. -/
theorem limitSteps_by_surplus :
    ((ofText "列 LIMIT ?, ?").run refusedSteps).2.finish = .error .empty ∧
      ((ofText "列 LIMIT ?, ?").run (ParseTree.limitSteps.take 13)).2.finish =
        .error (.unbalanced 3) ∧
      (∃ last tree,
        ((ofText "列 LIMIT ?, ?").run (ParseTree.limitSteps.take 13)).2.run
          (List.replicate 3 (.finish 11)) = (List.replicate 3 (.ok ()), last) ∧
        last.finish = .ok tree) ∧
      ∃ tree, ((ofText "列 LIMIT ?, ?").run ParseTree.limitSteps).2.finish = .ok tree := by
  obtain ⟨-, -, -, hempty, -, -⟩ := finish_by_surplus "列 LIMIT ?, ?" refusedSteps
  obtain ⟨count, hcount, hopen, -, -, hclose⟩ :=
    finish_by_surplus "列 LIMIT ?, ?" (ParseTree.limitSteps.take 13)
  obtain ⟨rest, hrest, -, -, hclosed, -⟩ := finish_by_surplus "列 LIMIT ?, ?" ParseTree.limitSteps
  obtain rfl : 3 = count := Int.ofNat.inj (Eq.trans (by decide) hcount)
  obtain rfl : 0 = rest := Int.ofNat.inj (Eq.trans (by decide) hrest)
  exact ⟨hempty (by decide), hopen (by decide), hclose (by decide), hclosed rfl (by decide)⟩

end Builder

end StatementSegments
