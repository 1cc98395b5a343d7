import ShaderGraph.Proofs.Graph.Order

/-!
# The kept order cannot be observed

A graph keeps its dependency order once it was asked for. The kept order is the one that would be
worked out anew, so it does not matter whether a graph keeps it: every call gives the same answer
without it, and leaves the same graph apart from what is kept. Of runs in which graphs are edited,
cloned and asked for their order in turn, it follows that questions may be put in or left out
anywhere. Later answers stay the same, and so do nodes, connections and allocators; whether an order
is kept is the one thing that differs.
-/

set_option autoImplicit false

namespace ShaderGraph

/-! ## Graphs without their kept order -/

namespace Graph

/-- The graph as it is before its dependency order is asked for. -/
def withoutOrder (g : Graph) : Graph := { g with order := none }

/-- Asking for the order changes nothing else. -/
theorem nodesByOrder_withoutOrder (g : Graph) : g.nodesByOrder.2.withoutOrder = g.withoutOrder := by
  obtain ⟨hnodes, hconnections, hnext⟩ := g.nodesByOrder_frame
  rw [withoutOrder, withoutOrder, hnodes, hconnections, hnext]

/-- A node is inserted, or refused, whether an order is kept before or not. -/
theorem insertNode_withoutOrder (g : Graph) (node : Node) :
    g.withoutOrder.insertNode node = (g.insertNode node).map withoutOrder := by
  have hcontains : g.withoutOrder.contains node.id = g.contains node.id := rfl
  unfold insertNode insertNodeInPlace
  rw [hcontains]
  by_cases hmax : maxNodeId < node.id
  · rw [if_pos hmax, if_pos hmax]
    rfl
  · rw [if_neg hmax, if_neg hmax]
    by_cases hfound : g.contains node.id = true
    · rw [if_pos hfound, if_pos hfound]
      rfl
    · rw [if_neg hfound, if_neg hfound]
      rfl

/-- Nodes are removed and counted whether an order is kept before or not. -/
theorem remove_withoutOrder (g : Graph) (ids : List NodeId) :
    g.withoutOrder.remove ids = ((g.remove ids).1, (g.remove ids).2.withoutOrder) := by
  have hnodes : g.withoutOrder.nodes = g.nodes := rfl
  unfold remove
  dsimp only
  rw [hnodes]
  by_cases hnone : (ids.foldl takeOut ([], g.nodes)).1.isEmpty = true
  · rw [if_pos hnone, if_pos hnone]
    rfl
  · rw [if_neg hnone, if_neg hnone]
    rfl

/-- A node is copied under the same id, or refused, whether an order is kept before or not. -/
theorem duplicate_withoutOrder (g : Graph) (id : NodeId) : g.withoutOrder.duplicate id =
    (g.duplicate id).map fun (id, h) => (id, h.withoutOrder) := by
  have hnode : g.withoutOrder.node? id = g.node? id := rfl
  have hnext : g.withoutOrder.nextId = g.nextId := rfl
  unfold duplicate duplicateInPlace
  rw [hnode, hnext]
  cases g.node? id with
  | none => rfl
  | some source =>
    dsimp only
    cases Node.ofValues? g.nextId source.type (source.position.move duplicateOffset)
      source.values <;> rfl

/-- Slots are connected, or refused, whether an order is kept before or not. -/
theorem connect_withoutOrder (g : Graph) (source dest : SlotId) :
    g.withoutOrder.connect source dest =
      (g.connect source dest).map fun (previous, h) => (previous, h.withoutOrder) := by
  have hends : g.withoutOrder.checkEnds source dest = g.checkEnds source dest := rfl
  have hreach : g.withoutOrder.reachableFrom dest.node = g.reachableFrom dest.node := rfl
  unfold connect connectInPlace
  rw [hends, hreach]
  cases g.checkEnds source dest with
  | error e => rfl
  | ok =>
    by_cases hcycle : source.node = dest.node ∨ source.node ∈ g.reachableFrom dest.node
    · simp only [if_pos hcycle]
      rfl
    · simp only [if_neg hcycle]
      -- what is kept of no order is no order
      have horder : (if g.withoutOrder.connection? dest = some ⟨source, dest⟩ then
          g.withoutOrder.order else none) = none := ite_self none
      rw [horder]
      rfl

/-- The same connection is taken away whether an order is kept before or not. -/
theorem disconnect_withoutOrder (g : Graph) (dest : SlotId) :
    g.withoutOrder.disconnect dest =
      ((g.disconnect dest).1, (g.disconnect dest).2.withoutOrder) := by
  have hfound : g.withoutOrder.connection? dest = g.connection? dest := rfl
  unfold disconnect
  rw [hfound]
  cases g.connection? dest <;> rfl

/-- A value is written, or refused, whether an order is kept before or not. -/
theorem setValue_withoutOrder (g : Graph) (slot : SlotId) (value : SlotValue) :
    g.withoutOrder.setValue slot value =
      (g.setValue slot value).map fun (changed, h) => (changed, h.withoutOrder) := by
  have hdecl : g.withoutOrder.slotDecl? slot = g.slotDecl? slot := rfl
  have hvalue : g.withoutOrder.slotValue? slot = g.slotValue? slot := rfl
  unfold setValue setValueInPlace
  rw [hdecl, hvalue]
  repeat' split
  all_goals rfl

/-- Nodes are moved whether an order is kept before or not. -/
theorem move_withoutOrder (g : Graph) (ids : List NodeId) (delta : Position) :
    g.withoutOrder.move ids delta = ((g.move ids delta).1, (g.move ids delta).2.withoutOrder) := by
  have hfold : ∀ g : Graph,
      ids.foldl (fun h id => h.mapNode id fun node =>
          { node with position := node.position.move delta }) g.withoutOrder =
        (ids.foldl (fun h id => h.mapNode id fun node =>
          { node with position := node.position.move delta }) g).withoutOrder := by
    induction ids with
    | nil => exact fun _ => rfl
    | cons id rest ih => exact fun g => ih (g.mapNode id _)
  unfold move
  by_cases hdelta : delta = ⟨0, 0⟩
  · rw [if_pos hdelta, if_pos hdelta]
  · rw [if_neg hdelta, if_neg hdelta, hfold]
    rfl

/-- A node is raised whether an order is kept before or not. -/
theorem raise_withoutOrder (g : Graph) (id : NodeId) :
    g.withoutOrder.raise id = ((g.raise id).1, (g.raise id).2.withoutOrder) := by
  have hnode : g.withoutOrder.node? id = g.node? id := rfl
  unfold raise
  rw [hnode]
  cases g.node? id with
  | none => rfl
  | some node =>
    simp only
    by_cases hlast : g.nodes.getLast?.map Node.id = some id
    · rw [if_pos hlast]
      exact if_pos hlast
    · rw [if_neg hlast]
      exact if_neg hlast

end Graph

/-! ## Answers of calls -/

/-- What a call gives back. -/
inductive GraphAnswer
  | added (id : NodeId)
  | inserted (outcome : Except GraphError Unit)
  | removed (count : Nat)
  | duplicated (id : Option NodeId)
  | connected (outcome : Except ConnectionError (Option Connection))
  | disconnected (connection : Option Connection)
  | written (outcome : Except ValueError Bool)
  | moved (any : Bool)
  | raised (any : Bool)
  | ordered (outcome : Except CycleError (List NodeId))
  | generated (outcome : Except LoweringError Program)
  | parameters (outcome : Except LoweringError ParameterTable)

namespace GraphCall

/-- What a call gives back. -/
def answer (g : Graph) : GraphCall → GraphAnswer
  | add type position => .added (g.add type position).1
  | addWithId type position id => .inserted ((g.addWithId type position id).map fun _ => ())
  | remove ids => .removed (g.remove ids).1
  | duplicate id => .duplicated ((g.duplicate id).map Prod.fst)
  | connect source dest => .connected ((g.connect source dest).map Prod.fst)
  | disconnect dest => .disconnected (g.disconnect dest).1
  | setValue slot value => .written ((g.setValue slot value).map Prod.fst)
  | move ids delta => .moved (g.move ids delta).1
  | raise id => .raised (g.raise id).1
  | nodesByOrder => .ordered g.nodesByOrder.1
  | generateCode => .generated g.generateCode.1
  | generateParameters => .parameters g.generateParameters.1

/-- Whether a call reads the dependency order, which may then be kept, and edits nothing. -/
def reads : GraphCall → Bool
  | nodesByOrder | generateCode | generateParameters => true
  | _ => false

variable {g h : Graph}

/-- A call leads to the same graph whether an order is kept before or not. -/
theorem apply_withoutOrder (g : Graph) (c : GraphCall) :
    (c.apply g.withoutOrder).withoutOrder = (c.apply g).withoutOrder := by
  cases c with
  | add type position => rfl
  | addWithId type position id =>
    simp only [apply_addWithId, Graph.addWithId, g.insertNode_withoutOrder]
    cases g.insertNode (.ofType id type position) <;> rfl
  | remove ids =>
    simp only [apply, g.remove_withoutOrder]
    rfl
  | duplicate id =>
    simp only [apply_duplicate, g.duplicate_withoutOrder]
    cases g.duplicate id <;> rfl
  | connect source dest =>
    simp only [apply_connect, g.connect_withoutOrder]
    cases g.connect source dest <;> rfl
  | disconnect dest =>
    simp only [apply, g.disconnect_withoutOrder]
    rfl
  | setValue slot value =>
    simp only [apply_setValue, g.setValue_withoutOrder]
    cases g.setValue slot value <;> rfl
  | move ids delta =>
    simp only [apply, g.move_withoutOrder]
    rfl
  | raise id =>
    simp only [apply, g.raise_withoutOrder]
    rfl
  | nodesByOrder | generateCode | generateParameters =>
    show g.withoutOrder.nodesByOrder.2.withoutOrder = g.nodesByOrder.2.withoutOrder
    rw [Graph.nodesByOrder_withoutOrder, Graph.nodesByOrder_withoutOrder]
    rfl

/-- A call takes as many ids whether an order is kept or not. -/
theorem allocations_withoutOrder (g : Graph) (c : GraphCall) :
    c.allocations g.withoutOrder = c.allocations g := by
  cases c with
  | duplicate id =>
    simp only [allocations, g.duplicate_withoutOrder]
    cases g.duplicate id <;> rfl
  | _ => rfl

/-- A call that reads the order changes nothing but what is kept, and takes no id. -/
theorem apply_of_reads {c : GraphCall} (hreads : c.reads = true) (g : Graph) :
    (c.apply g).withoutOrder = g.withoutOrder ∧ c.allocations g = 0 := by
  cases c with
  | nodesByOrder | generateCode | generateParameters => exact ⟨g.nodesByOrder_withoutOrder, rfl⟩
  | _ => simp [reads] at hreads

/-- A call gives a consistent graph's answer whether an order is kept or not. -/
theorem answer_withoutOrder (hg : g.Consistent) (c : GraphCall) :
    c.answer g.withoutOrder = c.answer g := by
  have hforgotten : g.withoutOrder.Consistent :=
    .of_no_order (hg.toWellFormed.perm (.refl _) rfl rfl) rfl
  have horder : g.withoutOrder.nodesByOrder = g.nodesByOrder := by
    rw [hforgotten.nodesByOrder_eq, hg.nodesByOrder_eq]
    rfl
  cases c with
  | add type position => rfl
  | addWithId type position id =>
    simp only [answer, Graph.addWithId, g.insertNode_withoutOrder]
    cases g.insertNode (.ofType id type position) <;> rfl
  | remove ids => simp only [answer, g.remove_withoutOrder]
  | duplicate id =>
    simp only [answer, g.duplicate_withoutOrder]
    cases g.duplicate id <;> rfl
  | connect source dest =>
    simp only [answer, g.connect_withoutOrder]
    cases g.connect source dest <;> rfl
  | disconnect dest => simp only [answer, g.disconnect_withoutOrder]
  | setValue slot value =>
    simp only [answer, g.setValue_withoutOrder]
    cases g.setValue slot value <;> rfl
  | move ids delta => simp only [answer, g.move_withoutOrder]
  | raise id => simp only [answer, g.raise_withoutOrder]
  | nodesByOrder => rw [answer, answer, horder]
  | generateCode =>
    simp only [answer, Graph.generateCode, Graph.currentSchedule, horder]
  | generateParameters =>
    simp only [answer, Graph.generateParameters, Graph.currentSchedule, horder]

/-- Consistent graphs that differ in what they keep give the same answers. -/
theorem answer_congr (hg : g.Consistent) (hh : h.Consistent)
    (hsame : h.withoutOrder = g.withoutOrder) (c : GraphCall) : c.answer h = c.answer g := by
  rw [← answer_withoutOrder hh, hsame, answer_withoutOrder hg]

end GraphCall

/-! ## Runs over several graphs -/

/-- One of several graphs at hand, with the number of ids that were taken from its allocator. A
clone takes over both. -/
structure GraphCopy where
  graph : Graph
  allocated : Nat

/-- A call on one of several graphs, or a clone of one of them. -/
inductive CopyStep
  | call (index : Nat) (c : GraphCall)
  | clone (index : Nat)

namespace GraphCopy

/-- The graph after a call. -/
def call (c : GraphCall) (copy : GraphCopy) : GraphCopy :=
  ⟨c.apply copy.graph, copy.allocated + c.allocations copy.graph⟩

/-- The graph without what it keeps. -/
def withoutOrder (copy : GraphCopy) : GraphCopy := ⟨copy.graph.withoutOrder, copy.allocated⟩

/-- A call leads to the same copy, apart from what is kept, with and without an order before. -/
theorem call_withoutOrder (c : GraphCall) (copy : GraphCopy) :
    (copy.withoutOrder.call c).withoutOrder = (copy.call c).withoutOrder := by
  simp only [call, withoutOrder, c.apply_withoutOrder, c.allocations_withoutOrder]

/-- A read leaves a copy as it is, apart from what is kept. -/
theorem call_of_reads {c : GraphCall} (hreads : c.reads = true) (copy : GraphCopy) :
    (copy.call c).withoutOrder = copy.withoutOrder := by
  obtain ⟨hgraph, halloc⟩ := GraphCall.apply_of_reads hreads copy.graph
  simp only [call, withoutOrder, hgraph, halloc, Nat.add_zero]

end GraphCopy

namespace CopyStep

/-- The graphs at hand after a step; a clone comes last. -/
def apply (copies : List GraphCopy) : CopyStep → List GraphCopy
  | call index c => copies.modify index (GraphCopy.call c)
  | clone index => copies ++ copies[index]?.toList

/-- What a step gives back. -/
def answer (copies : List GraphCopy) : CopyStep → Option GraphAnswer
  | call index c => copies[index]?.map fun copy => c.answer copy.graph
  | clone _ => none

/-- Whether a step reads a dependency order and edits nothing. -/
def reads : CopyStep → Bool
  | call _ c => c.reads
  | clone _ => false

/-- The graphs at hand after some steps. -/
def run (copies : List GraphCopy) (steps : List CopyStep) : List GraphCopy :=
  steps.foldl apply copies

/-- What the steps give back, one after the other. -/
def answers (copies : List GraphCopy) : List CopyStep → List (Option GraphAnswer)
  | [] => []
  | step :: rest => step.answer copies :: answers (step.apply copies) rest

variable {copies others start : List GraphCopy}

/-! ### What is kept has no part in the graphs -/

/-- A step leads to the same graphs, apart from what is kept, with and without orders before. -/
theorem apply_withoutOrder (step : CopyStep) (copies : List GraphCopy) :
    (step.apply (copies.map GraphCopy.withoutOrder)).map GraphCopy.withoutOrder =
      (step.apply copies).map GraphCopy.withoutOrder := by
  apply List.ext_getElem?
  intro i
  cases step with
  | call index c =>
    simp only [apply, List.getElem?_map, List.getElem?_modify]
    cases copies[i]? with
    | none => rfl
    | some copy =>
      by_cases hi : index = i
      · simp [hi, copy.call_withoutOrder]
      · simp only [if_neg hi]
        rfl
  | clone index =>
    simp only [apply, List.map_append, List.map_map, List.getElem?_map]
    cases copies[index]? <;> rfl

/-- Steps take graphs that differ in what they keep to graphs that differ in what they keep. -/
theorem run_congr (steps : List CopyStep)
    (hsame : others.map GraphCopy.withoutOrder = copies.map GraphCopy.withoutOrder) :
    (run others steps).map GraphCopy.withoutOrder =
      (run copies steps).map GraphCopy.withoutOrder := by
  induction steps generalizing copies others with
  | nil => exact hsame
  | cons step rest ih =>
    apply ih
    rw [← apply_withoutOrder, hsame, apply_withoutOrder]

/-- A step that reads leaves the graphs as they are, apart from what is kept. -/
theorem apply_of_reads {step : CopyStep} (hreads : step.reads = true) (copies : List GraphCopy) :
    (step.apply copies).map GraphCopy.withoutOrder = copies.map GraphCopy.withoutOrder := by
  cases step with
  | clone index => simp [reads] at hreads
  | call index c =>
    apply List.ext_getElem?
    intro i
    simp only [apply, List.getElem?_map, List.getElem?_modify]
    cases copies[i]? with
    | none => rfl
    | some copy =>
      by_cases hi : index = i
      · simp [hi, copy.call_of_reads hreads]
      · simp only [if_neg hi]
        rfl

/-- Leaving out the steps that read leaves the graphs as they are, apart from what they keep. -/
theorem run_edits (copies : List GraphCopy) (steps : List CopyStep) :
    (run copies (steps.filter fun step => !step.reads)).map GraphCopy.withoutOrder =
      (run copies steps).map GraphCopy.withoutOrder := by
  induction steps generalizing copies with
  | nil => rfl
  | cons step rest ih =>
    cases hreads : step.reads with
    | false =>
      rw [List.filter_cons_of_pos (by simp [hreads])]
      exact ih (step.apply copies)
    | true =>
      rw [List.filter_cons_of_neg (by simp [hreads]), ih]
      exact run_congr rest (apply_of_reads hreads copies).symm

/-! ### Graphs that runs lead to -/

/-- Whether each of the graphs can be made with the ids that were taken from its allocator. -/
def Made (copies : List GraphCopy) : Prop :=
  ∀ copy ∈ copies, Graph.ReachableIn copy.allocated copy.graph

/-- A step keeps graphs within what calls can make, also when it clones one. -/
theorem Made.apply (hmade : Made copies) (step : CopyStep) : Made (step.apply copies) := by
  intro copy hcopy
  cases step with
  | call index c =>
    obtain ⟨i, hi⟩ := List.mem_iff_getElem?.mp hcopy
    rw [CopyStep.apply, List.getElem?_modify] at hi
    obtain ⟨old, hold, rfl⟩ := Option.map_eq_some_iff.mp hi
    have hreach := hmade old (List.mem_of_getElem? hold)
    split_ifs
    · exact hreach.call c
    · exact hreach
  | clone index =>
    rcases List.mem_append.mp hcopy with hcopy | hcopy
    · exact hmade copy hcopy
    · exact hmade copy (List.mem_of_getElem? (Option.mem_toList.mp hcopy))

/-- A run keeps graphs within what calls can make. -/
theorem Made.run (hmade : Made copies) (steps : List CopyStep) : Made (run copies steps) := by
  induction steps generalizing copies with
  | nil => exact hmade
  | cons step rest ih => exact ih (hmade.apply step)

/-- A graph stays at hand, and ids are only ever taken from its allocator. -/
theorem exists_run (steps : List CopyStep) {copy : GraphCopy} (hcopy : copy ∈ copies) :
    ∃ last ∈ run copies steps, copy.allocated ≤ last.allocated := by
  induction steps generalizing copies copy with
  | nil => exact ⟨copy, hcopy, Nat.le_refl _⟩
  | cons step rest ih =>
    have hnext : ∃ next ∈ step.apply copies, copy.allocated ≤ next.allocated := by
      cases step with
      | clone index => exact ⟨copy, List.mem_append_left _ hcopy, Nat.le_refl _⟩
      | call index c =>
        obtain ⟨i, hi⟩ := List.mem_iff_getElem?.mp hcopy
        have hget : (CopyStep.apply copies (.call index c))[i]? =
            some (if index = i then copy.call c else copy) := by
          rw [CopyStep.apply, List.getElem?_modify, hi]
          rfl
        refine ⟨_, List.mem_of_getElem? hget, ?_⟩
        split_ifs
        · exact Nat.le_add_right _ _
        · exact Nat.le_refl _
    obtain ⟨next, hmem, hle⟩ := hnext
    obtain ⟨last, hlast, hrest⟩ := ih hmem
    exact ⟨last, hlast, Nat.le_trans hle hrest⟩

/-! ### Answers -/

/-- A step gives the same answer on graphs that differ in what they keep. -/
theorem answer_congr (hmade : Made copies) (hothers : Made others)
    (hsame : others.map GraphCopy.withoutOrder = copies.map GraphCopy.withoutOrder)
    (hroom : ∀ copy ∈ copies, copy.allocated < 2 ^ 63) (step : CopyStep) :
    step.answer others = step.answer copies := by
  cases step with
  | clone index => rfl
  | call index c =>
    have hget := congrArg (·[index]?) hsame
    simp only [List.getElem?_map] at hget
    cases hcopy : copies[index]? with
    | none =>
      rw [hcopy, Option.map_none, Option.map_eq_none_iff] at hget
      simp only [answer, hcopy, hget]
    | some copy =>
      rw [hcopy, Option.map_some] at hget
      obtain ⟨other, hother, heq⟩ := Option.map_eq_some_iff.mp hget
      obtain ⟨hgraph, halloc⟩ := GraphCopy.mk.inj heq
      have hmem : copy ∈ copies := List.mem_of_getElem? hcopy
      have hreach : copy.graph.Reachable := ⟨_, hroom copy hmem, hmade copy hmem⟩
      have hreachOther : other.graph.Reachable :=
        ⟨_, halloc ▸ hroom copy hmem, hothers other (List.mem_of_getElem? hother)⟩
      simp only [answer, hcopy, hother, Option.map_some]
      exact congrArg some
        (GraphCall.answer_congr hreach.consistent hreachOther.consistent hgraph c)

/-- Later answers are the same on graphs that differ in what they keep. -/
theorem answers_congr (hmade : Made copies) (hothers : Made others)
    (hsame : others.map GraphCopy.withoutOrder = copies.map GraphCopy.withoutOrder)
    (steps : List CopyStep) (hroom : ∀ copy ∈ run copies steps, copy.allocated < 2 ^ 63) :
    answers others steps = answers copies steps := by
  induction steps generalizing copies others with
  | nil => rfl
  | cons step rest ih =>
    have hnow : ∀ copy ∈ copies, copy.allocated < 2 ^ 63 := by
      intro copy hcopy
      obtain ⟨last, hlast, hle⟩ := exists_run (step :: rest) hcopy
      exact Nat.lt_of_le_of_lt hle (hroom last hlast)
    rw [answers, answers, answer_congr hmade hothers hsame hnow step]
    exact congrArg _ (ih (hmade.apply step) (hothers.apply step) (run_congr [step] hsame) hroom)

/-- **The kept order cannot be observed.** Let graphs be edited, cloned and asked for their
dependency order in any interleaving, with fewer than `2 ^ 63` allocations in the past of each.
Whatever order one of them then keeps is the one that would be worked out anew. A second run with
the same edits and clones, but with other questions put in or left out anywhere, is followed by the
same answers to whatever comes later, and leaves the same graphs apart from what they keep. -/
theorem kept_order_unobservable (hstart : Made start) {first second : List CopyStep}
    (hedits : (second.filter fun step => !step.reads) = first.filter fun step => !step.reads)
    (later : List CopyStep)
    (hroom : ∀ copy ∈ run start (first ++ later), copy.allocated < 2 ^ 63) :
    (∀ copy ∈ run start (first ++ later), ∀ order, copy.graph.order = some order →
      copy.graph.dependencyOrder = .ok order) ∧
    answers (run start second) later = answers (run start first) later ∧
    (run start (second ++ later)).map GraphCopy.withoutOrder =
      (run start (first ++ later)).map GraphCopy.withoutOrder := by
  have hsame : (run start second).map GraphCopy.withoutOrder =
      (run start first).map GraphCopy.withoutOrder := by
    rw [← run_edits start second, hedits, run_edits]
  have happend : ∀ steps, run start (steps ++ later) = run (run start steps) later :=
    fun _ => List.foldl_append
  refine ⟨?_, ?_, ?_⟩
  · intro copy hcopy order horder
    have hreach : copy.graph.Reachable := ⟨_, hroom copy hcopy, hstart.run _ copy hcopy⟩
    rw [hreach.consistent.order_current order horder]
    exact hreach.invariant.dependencyOrder_eq
  · apply answers_congr (hstart.run first) (hstart.run second) hsame
    rwa [← happend]
  · rw [happend, happend]
    exact run_congr later hsame

/-- A clone is made of a graph that keeps its order in one run and keeps none in the other. -/
theorem kept_order_unobservable_clone :
    let edits : List CopyStep :=
      [.call 0 (.add .math ⟨0, 0⟩), .call 0 (.add .output ⟨0, 0⟩), .clone 0,
        .call 1 (.connect ⟨1, 4⟩ ⟨2, 1⟩)]
    let asked : List CopyStep :=
      [.call 0 (.add .math ⟨0, 0⟩), .call 0 (.add .output ⟨0, 0⟩), .call 0 .nodesByOrder, .clone 0,
        .call 1 .generateCode, .call 1 (.connect ⟨1, 4⟩ ⟨2, 1⟩)]
    let later : List CopyStep :=
      [.call 0 .nodesByOrder, .call 1 .generateCode, .call 1 (.remove [1])]
    answers (run [⟨.empty, 0⟩] edits) later = answers (run [⟨.empty, 0⟩] asked) later := by
  intro edits asked later
  have hstart : Made [⟨.empty, 0⟩] := by
    intro copy hcopy
    rw [List.mem_singleton.mp hcopy]
    exact .empty
  have hedits : (edits.filter fun step => !step.reads) = asked.filter fun step => !step.reads := rfl
  exact (kept_order_unobservable hstart hedits later (by decide +kernel)).2.1

end CopyStep

end ShaderGraph
