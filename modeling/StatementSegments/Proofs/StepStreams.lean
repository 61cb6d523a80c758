import StatementSegments.Proofs.AcceptedRuns

namespace StatementSegments

namespace Node

mutual

/-- The steps that give a node and all below it. -/
def steps : Node → List Step
  | token _ type span => [.token type span.start span.stop]
  | rule _ name span children =>
      .start name span.start :: (stepsOfAll children ++ [.finish span.stop])

def stepsOfAll : List Node → List Step
  | [] => []
  | n :: rest => n.steps ++ stepsOfAll rest

end

mutual

/-- The same tree with its nodes numbered from `next` on, every node before those below it. -/
def numberedFrom (next : Nat) : Node → Node
  | token _ type span => token next type span
  | rule _ name span children => rule next name span (numberedAllFrom (next + 1) children)

def numberedAllFrom (next : Nat) : List Node → List Node
  | [] => []
  | n :: rest => n.numberedFrom next :: numberedAllFrom (next + n.nodes.length) rest

end

theorem stepsOfAll_eq_flatMap (ns : List Node) : stepsOfAll ns = ns.flatMap steps := by
  induction ns with
  | nil => rfl
  | cons n ns ih => rw [stepsOfAll, ih, List.flatMap_cons]

theorem steps_rule (id : Nat) (name : String) (span : Span) (children : List Node) :
    (rule id name span children).steps =
      .start name span.start :: (children.flatMap steps ++ [.finish span.stop]) := by
  rw [steps, stepsOfAll_eq_flatMap]

@[simp]
theorem span_numberedFrom (n : Node) (next : Nat) : (n.numberedFrom next).span = n.span := by
  cases n <;> rfl

@[simp]
theorem id_numberedFrom (n : Node) (next : Nat) : (n.numberedFrom next).id = next := by
  cases n <;> rfl

theorem stop_of_mem_numberedAllFrom {ns : List Node} {next : Nat} {m : Node}
    (h : m ∈ numberedAllFrom next ns) : ∃ n ∈ ns, m.stop = n.stop := by
  induction ns generalizing next with
  | nil => cases h
  | cons n ns ih =>
      rcases List.mem_cons.mp h with rfl | hm
      · exact ⟨n, List.mem_cons_self, congrArg Span.stop (n.span_numberedFrom next)⟩
      · obtain ⟨k, hk, hstop⟩ := ih hm
        exact ⟨k, List.mem_cons_of_mem n hk, hstop⟩

theorem children_numberedFrom (n : Node) (next : Nat) :
    (n.numberedFrom next).children = numberedAllFrom (next + 1) n.children := by
  cases n <;> rfl

theorem ids_numberedAllFrom {ns : List Node}
    (ih : ∀ n ∈ ns, ∀ next, (n.numberedFrom next).nodes.map id = List.range' next n.nodes.length)
    (next : Nat) :
    ((numberedAllFrom next ns).flatMap nodes).map id =
      List.range' next (ns.flatMap nodes).length := by
  induction ns generalizing next with
  | nil => rfl
  | cons n ns ihns =>
      obtain ⟨hn, hns⟩ := List.forall_mem_cons.mp ih
      rw [numberedAllFrom, List.flatMap_cons, List.map_append, hn, ihns hns, List.flatMap_cons,
        List.length_append, List.range'_append_1]

theorem ids_numberedFrom (n : Node) (next : Nat) :
    (n.numberedFrom next).nodes.map id = List.range' next n.nodes.length := by
  induction n using induction_children generalizing next with
  | step n ih =>
      rw [nodes_eq_cons, nodes_eq_cons n, List.map_cons, id_numberedFrom, children_numberedFrom,
        ids_numberedAllFrom ih, List.length_cons, List.range'_succ]

theorem steps_numberedAllFrom {ns : List Node}
    (ih : ∀ n ∈ ns, ∀ next, (n.numberedFrom next).steps = n.steps) (next : Nat) :
    (numberedAllFrom next ns).flatMap steps = ns.flatMap steps := by
  induction ns generalizing next with
  | nil => rfl
  | cons n ns ihns =>
      obtain ⟨hn, hns⟩ := List.forall_mem_cons.mp ih
      rw [numberedAllFrom, List.flatMap_cons, hn, ihns hns, List.flatMap_cons]

theorem steps_numberedFrom (n : Node) (next : Nat) : (n.numberedFrom next).steps = n.steps := by
  induction n using induction_children generalizing next with
  | step n ih =>
      cases n with
      | token id type span => rfl
      | rule id name span children =>
          have hchildren := steps_numberedAllFrom ih (next + 1)
          rw [Node.children] at hchildren
          rw [numberedFrom, steps_rule, steps_rule, hchildren]

theorem numberedAllFrom_eq_self {ns : List Node} {next : Nat}
    (ih : ∀ n ∈ ns, ∀ k, n.nodes.map id = List.range' k n.nodes.length → n.numberedFrom k = n)
    (h : (ns.flatMap nodes).map id = List.range' next (ns.flatMap nodes).length) :
    numberedAllFrom next ns = ns := by
  induction ns generalizing next with
  | nil => rfl
  | cons n ns ihns =>
      obtain ⟨hn, hns⟩ := List.forall_mem_cons.mp ih
      rw [List.flatMap_cons, List.map_append, List.length_append, ← List.range'_append_1] at h
      obtain ⟨hhead, htail⟩ := List.append_inj h (by simp)
      rw [numberedAllFrom, hn next hhead, ihns hns htail]

theorem numberedFrom_eq_self {n : Node} {next : Nat}
    (h : n.nodes.map id = List.range' next n.nodes.length) : n.numberedFrom next = n := by
  induction n using induction_children generalizing next with
  | step n ih =>
      have hids := h
      rw [nodes_eq_cons, List.map_cons, List.length_cons, List.range'_succ] at hids
      obtain ⟨rfl, hchildren⟩ := List.cons.inj hids
      have hsame := numberedAllFrom_eq_self (fun c hc k hk => ih c hc hk) hchildren
      cases n with
      | token id type span => rfl
      | rule id name span children => exact congrArg (rule id name span) hsame

end Node

namespace Builder

variable {b b' : Builder} {length : Nat}

theorem IsBefore.hasRoomAt {start : Nat} (h : b.IsBefore start) : b.HasRoomAt start := by
  unfold IsBefore at h
  unfold HasRoomAt
  rcases hpending : b.pending with _ | ⟨parent, outer⟩
  · rwa [hpending] at h
  · rw [hpending] at h
    exact ⟨h.1, fun previous hprevious => h.2 previous (List.mem_of_getLast? hprevious)⟩

/-- A builder after a whole node was given to it. -/
def grown (b : Builder) (n : Node) : Builder :=
  { b with nextId := b.nextId + n.nodes.length }.place (n.numberedFrom b.nextId)

theorem grown_of_cons {o : OpenNode} {outer : List OpenNode} (h : b.pending = o :: outer)
    (n : Node) :
    b.grown n =
      { b with
        nextId := b.nextId + n.nodes.length
        pending := { o with children := o.children ++ [n.numberedFrom b.nextId] } :: outer } :=
  place_of_cons h

/-- The steps of nodes that follow one another make them children of the innermost open node. -/
theorem acceptsAll_stepsOfAll {ns : List Node} {o : OpenNode} {outer : List OpenNode}
    (hsteps : ∀ n ∈ ns, ∀ b : Builder, b.text.length = length → b.IsBefore n.start →
      AcceptsAll b n.steps (b.grown n))
    (hlength : b.text.length = length) (hpending : b.pending = o :: outer)
    (hbefore : ∀ n ∈ ns, o.IsBefore n.start) (hfollows : ns.Pairwise fun m n => m.stop < n.start) :
    AcceptsAll b (ns.flatMap Node.steps)
      { b with
        nextId := b.nextId + (ns.flatMap Node.nodes).length
        pending := { o with children := o.children ++ Node.numberedAllFrom b.nextId ns } ::
          outer } := by
  induction ns generalizing b o with
  | nil =>
      simp only [List.flatMap_nil, List.length_nil, Nat.add_zero, Node.numberedAllFrom,
        List.append_nil, ← hpending]
      exact .nil b
  | cons n ns ih =>
      obtain ⟨hn, hns⟩ := List.forall_mem_cons.mp hsteps
      obtain ⟨hfirst, hrest⟩ := List.forall_mem_cons.mp hbefore
      obtain ⟨hbehind, hfollows⟩ := List.pairwise_cons.mp hfollows
      have hplace : b.IsBefore n.start := by
        rwa [IsBefore, hpending]
      have hgrown := grown_of_cons hpending n
      -- With the first node as its last child, the open node still lies before the others.
      have hlater : ∀ m ∈ ns, OpenNode.IsBefore
          { o with children := o.children ++ [n.numberedFrom b.nextId] } m.start := by
        intro m hm
        refine ⟨(hrest m hm).1, ?_⟩
        intro c hc
        rcases List.mem_append.mp hc with hc | hc
        · exact (hrest m hm).2 c hc
        · rw [List.mem_singleton.mp hc, Node.stop, Node.span_numberedFrom]
          exact hbehind m hm
      have hafter := ih hns (b := b.grown n) (by rw [hgrown]; exact hlength) (by rw [hgrown]) hlater
        hfollows
      rw [List.flatMap_cons]
      refine (hn b hlength hplace).append ?_
      simpa [hgrown, Node.numberedAllFrom, Nat.add_assoc] using hafter

theorem grown_rule (b : Builder) (id : Nat) (name : String) (span : Span) (children : List Node) :
    b.grown (.rule id name span children) =
      place (.rule b.nextId name span (Node.numberedAllFrom (b.nextId + 1) children))
        { b with nextId := b.nextId + 1 + (children.flatMap Node.nodes).length } := by
  rw [grown, Node.nodes_eq_cons, List.length_cons, Nat.add_assoc, Nat.add_comm 1]
  rfl

/-- Between the start and the end of a node come the steps of its children. -/
theorem acceptsAll_rule_steps {id : Nat} {name : String} {span : Span} {children : List Node}
    (hchildren : ∀ c ∈ children, ∀ b' : Builder, b'.text.length = b.text.length →
      b'.IsBefore c.start → AcceptsAll b' c.steps (b'.grown c))
    (hfits : (Node.rule id name span children).Fits b.text.length)
    (hbefore : b.IsBefore span.start) :
    AcceptsAll b (Node.rule id name span children).steps
      (b.grown (.rule id name span children)) := by
  have hstart : span.start < b.text.length := Nat.lt_of_le_of_lt hfits.start_le_stop hfits.stop_lt
  have hinside : ∀ c ∈ children, OpenNode.IsBefore ⟨b.nextId, name, span.start, []⟩ c.start :=
    fun c hc => ⟨(hfits.encloses c hc).1, List.forall_mem_nil _⟩
  have hmiddle := acceptsAll_stepsOfAll
    (b := { b with
      nextId := b.nextId + 1
      pending := ⟨b.nextId, name, span.start, []⟩ :: b.pending })
    hchildren rfl rfl hinside hfits.follows
  have hwithin : ∀ c ∈ Node.numberedAllFrom (b.nextId + 1) children, c.stop ≤ span.stop := by
    intro c hc
    obtain ⟨d, hd, hstop⟩ := Node.stop_of_mem_numberedAllFrom hc
    rw [hstop]
    exact (hfits.encloses d hd).2
  have hfinish := @Accepts.finish
    { b with
      nextId := b.nextId + 1 + (children.flatMap Node.nodes).length
      pending := ⟨b.nextId, name, span.start,
        Node.numberedAllFrom (b.nextId + 1) children⟩ :: b.pending }
    _ _ span.stop rfl hfits.stop_lt hfits.start_le_stop hwithin
  rw [Node.steps_rule, grown_rule]
  exact .cons (.start hstart hbefore.hasRoomAt) (hmiddle.append (.single hfinish))

theorem acceptsAll_steps {n : Node} (hnested : n.Nested length) (hlength : b.text.length = length)
    (hbefore : b.IsBefore n.start) : AcceptsAll b n.steps (b.grown n) := by
  induction n using Node.induction_children generalizing b with
  | step n ih =>
      have hfits := hnested.fits
      subst hlength
      cases n with
      | token id type span =>
          exact .single (.token hfits.stop_lt hfits.start_le_stop hbefore.hasRoomAt)
      | rule id name span children =>
          refine acceptsAll_rule_steps ?_ hfits hbefore
          intro c hc b' hlength hbefore'
          exact ih c hc (hnested.child hc) hlength hbefore'

/-- The steps that gave what a builder holds. An open node has its start and its children, but no
end yet. -/
def stream (b : Builder) : List Step :=
  b.root.toList.flatMap Node.steps ++
    b.pending.reverse.flatMap fun o => .start o.name o.start :: o.children.flatMap Node.steps

theorem stream_place (hroot : b.pending = [] → b.root = none) (n : Node) :
    (b.place n).stream = b.stream ++ n.steps := by
  rcases hpending : b.pending with _ | ⟨parent, outer⟩
  · rw [place_of_nil hpending]
    simp [stream, hpending, hroot hpending]
  · rw [place_of_cons hpending]
    simp [stream, hpending]

theorem stream_of_accepts {s : Step} (h : b.WellPlaced) (hstep : Accepts b s b') :
    b'.stream = b.stream ++ [s] := by
  cases hstep with
  | start hoffset hroom => simp [stream]
  | token hstop horder hroom =>
      obtain ⟨hroot, -⟩ := h.pending_isBefore (h.isBefore hroom)
      exact stream_place (b := { b with nextId := b.nextId + 1 }) (fun _ => hroot) _
  | @finish node outer stop hpending hstop horder hwithin =>
      have hroot : b.root = none := h.root_eq_none (by simp [hpending])
      rw [stream_place (b := { b with pending := outer }) fun _ => hroot, Node.steps_rule]
      simp [stream, hpending]

theorem stream_of_acceptsAll {steps : List Step} (h : b.WellPlaced)
    (hsteps : AcceptsAll b steps b') : b'.stream = b.stream ++ steps := by
  induction hsteps with
  | nil b => rw [List.append_nil]
  | cons hstep _ ih =>
      rw [ih (h.of_accepts hstep), stream_of_accepts h hstep, List.append_assoc,
        List.singleton_append]

end Builder

namespace ParseTree

variable {text : String}

theorem acceptsAll_steps {root : Node} (h : root.Nested text.length) :
    ∃ last, Builder.AcceptsAll (Builder.ofText text) root.steps last ∧
      last.finish = .ok ⟨StatementText.ofString text, root.numberedFrom 0⟩ := by
  have hlength : (StatementText.ofString text).length = text.length :=
    StatementText.length_eq _
  exact ⟨_, Builder.acceptsAll_steps h hlength rfl, rfl⟩

theorem accepted_eq_steps {tree : ParseTree} {steps : List Step}
    (h : ((Builder.ofText text).run steps).2.finish = .ok tree) :
    (Builder.ofText text).accepted steps = tree.root.steps := by
  obtain ⟨-, hpending, hroot⟩ := Builder.finish_ok_iff.mp h
  have hstream := Builder.stream_of_acceptsAll (Builder.wellPlaced_ofText text)
    (Builder.acceptsAll_accepted _ steps)
  rw [Builder.stream, hpending, hroot] at hstream
  simpa [Builder.stream, Builder.ofText] using hstream.symm

/-- Trees whose nodes are nested and numbered in order, and runs that are accepted throughout and
give a tree, correspond to each other. -/
theorem steps_correspond (text : String) :
    (∀ root : Node, root.Nested text.length →
      (∃ last, (Builder.ofText text).run root.steps =
          (List.replicate root.steps.length (.ok ()), last) ∧
        last.finish = .ok ⟨StatementText.ofString text, root.numberedFrom 0⟩) ∧
      (root.numberedFrom 0).nodes.map Node.id = List.range root.nodes.length ∧
      (root.numberedFrom 0).steps = root.steps) ∧
    (∀ steps tree, ((Builder.ofText text).run steps).2.finish = .ok tree →
      (Builder.ofText text).accepted steps = tree.root.steps) ∧
    ∀ steps tree,
      ((Builder.ofText text).accepted steps = steps ∧
        ((Builder.ofText text).run steps).2.finish = .ok tree) ↔
      (tree.text = StatementText.ofString text ∧ tree.root.Nested text.length ∧
        tree.nodes.map Node.id = List.range tree.size ∧ steps = tree.root.steps) := by
  refine ⟨?_, ?_, ?_⟩
  · intro root hnested
    obtain ⟨last, haccepts, hfinish⟩ := acceptsAll_steps hnested
    refine ⟨⟨last, haccepts.run_eq, hfinish⟩, ?_, Node.steps_numberedFrom root 0⟩
    rw [Node.ids_numberedFrom, List.range_eq_range']
  · intro steps tree hfinish
    exact accepted_eq_steps hfinish
  · intro steps tree
    constructor
    · rintro ⟨haccepted, hfinish⟩
      have hbuilt : tree.IsBuilt := ⟨text, steps, hfinish⟩
      have htext := text_eq_of_finish hfinish
      have hnested := hbuilt.nested
      rw [htext, StatementText.length_eq] at hnested
      exact ⟨htext, hnested, hbuilt.ids_eq_range, haccepted ▸ accepted_eq_steps hfinish⟩
    · rintro ⟨htext, hnested, hids, rfl⟩
      obtain ⟨last, haccepts, hfinish⟩ := acceptsAll_steps hnested
      -- The numbers are already those that the nodes get from a new builder.
      have hnumbered : tree.root.numberedFrom 0 = tree.root := by
        apply Node.numberedFrom_eq_self
        rw [← List.range_eq_range']
        exact hids
      rw [hnumbered, ← htext] at hfinish
      refine ⟨haccepts.accepted_eq, ?_⟩
      rw [haccepts.run_eq]
      exact hfinish

theorem limitTree_steps_correspond :
    limitTree.root.Nested 12 ∧
      (Builder.ofText "列 LIMIT ?, ?").accepted limitSteps = limitTree.root.steps ∧
      ((Builder.ofText "列 LIMIT ?, ?").run limitTree.root.steps).1 =
        List.replicate 17 (.ok ()) := by
  obtain ⟨hbuild, hstream, hiff⟩ := steps_correspond "列 LIMIT ?, ?"
  have hkept : (Builder.ofText "列 LIMIT ?, ?").accepted limitTree.root.steps =
      limitTree.root.steps := by
    decide
  obtain ⟨-, hnested, -, -⟩ := (hiff limitTree.root.steps limitTree).mp ⟨hkept, rfl⟩
  obtain ⟨⟨last, hrun, -⟩, -⟩ := hbuild limitTree.root hnested
  refine ⟨hnested, hstream limitSteps limitTree finish_limitSteps, ?_⟩
  rw [hrun]
  rfl

end ParseTree

end StatementSegments
