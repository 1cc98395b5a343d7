import ShaderGraph.Proofs.Graph.Outcomes
import ShaderGraph.Proofs.Lowering.Explicit

/-!
# What a program depends on

A program sees of a graph its connections and of each node the id, the type and the values; of the
values that are not options it sees the parameters only. Graphs that agree on this have the same
program, or the same program up to its parameters, in whatever order their nodes are displayed and
wherever they are placed. An edit that reports no change leaves all of it alone, and one that
reports no structural change leaves alone all but the parameters.
-/

set_option autoImplicit false

namespace ShaderGraph

namespace Node

/-- What the statements of a node depend on besides its id. -/
def skeleton (node : Node) : NodeType × (Nat → Nat) := (node.type, node.option)

/-- What the statements and parameters of a node depend on besides its id. -/
def content (node : Node) : NodeType × List SlotValue := (node.type, node.values)

end Node

namespace Graph

variable {α β : Type} {view : Node → α} {g h : Graph} {output : NodeId}

/-- Whether two graphs have the same connections and, in whatever order, nodes of the same ids that
look the same. -/
structure AgreeOn (view : Node → α) (g h : Graph) : Prop where
  connections : h.connections = g.connections
  nodes : (h.nodes.map fun n => (n.id, view n)).Perm (g.nodes.map fun n => (n.id, view n))

namespace AgreeOn

/-- A graph agrees with itself. -/
theorem refl (view : Node → α) (g : Graph) : AgreeOn view g g := ⟨rfl, .refl _⟩

/-- Agreeing does not depend on the side. -/
theorem symm (hgh : AgreeOn view g h) : AgreeOn view h g :=
  ⟨hgh.connections.symm, hgh.nodes.symm⟩

/-- Agreeing is transitive. -/
theorem trans {k : Graph} (hgh : AgreeOn view g h) (hhk : AgreeOn view h k) : AgreeOn view g k :=
  ⟨hhk.connections.trans hgh.connections, hhk.nodes.trans hgh.nodes⟩

/-- Graphs that agree have equally many nodes. -/
theorem length_eq (hgh : AgreeOn view g h) : h.nodes.length = g.nodes.length := by
  have hlength := hgh.nodes.length_eq
  rwa [List.length_map, List.length_map] at hlength

/-- Graphs that look the same look the same to anyone who sees less. -/
theorem map (hgh : AgreeOn view g h) (f : α → β) : AgreeOn (fun n => f (view n)) g h := by
  refine ⟨hgh.connections, ?_⟩
  have hnodes := hgh.nodes.map fun entry : NodeId × α => (entry.1, f entry.2)
  rwa [List.map_map, List.map_map] at hnodes

/-- What sees types and values sees types and options. -/
theorem skeleton (hgh : AgreeOn Node.content g h) : AgreeOn Node.skeleton g h :=
  hgh.map fun content =>
    (content.1, fun index => ((content.2[index]?).bind SlotValue.asEnum?).getD 0)

/-- Graphs that agree have nodes of the same ids. -/
theorem nodeIds_perm (hgh : AgreeOn view g h) : h.nodeIds.Perm g.nodeIds := by
  have hids := hgh.nodes.map Prod.fst
  rwa [List.map_map, List.map_map] at hids

/-- Graphs that differ in the display order of their nodes only. -/
theorem of_perm (hconnections : h.connections = g.connections) (hnodes : h.nodes.Perm g.nodes) :
    AgreeOn view g h :=
  ⟨hconnections, hnodes.map _⟩

/-- Changing nodes in what is not seen. -/
theorem mapNodes {f : Node → Node} (hid : ∀ n, (f n).id = n.id)
    (hf : ∀ n ∈ g.nodes, view (f n) = view n) : AgreeOn view g (g.mapNodes f) := by
  refine ⟨rfl, .of_eq ?_⟩
  rw [Graph.mapNodes, List.map_map]
  exact List.map_congr_left fun n hn => by rw [Function.comp, hid, hf n hn]

/-! ## Look-ups -/

/-- The node found under an id looks the same. -/
theorem node?_eq (hgh : AgreeOn view g h) (hd : g.nodeIds.Nodup) (id : NodeId) :
    (h.node? id).map (fun n => (n.id, view n)) = (g.node? id).map fun n => (n.id, view n) := by
  have hfind : ∀ k : Graph, (k.node? id).map (fun n => (n.id, view n)) =
      (k.nodes.map fun n => (n.id, view n)).find? fun entry => entry.1 == id := by
    intro k
    rw [List.find?_map]
    rfl
  have hkeys : ∀ k : Graph, (k.nodes.map fun n => (n.id, view n)).map Prod.fst = k.nodeIds := by
    intro k
    rw [List.map_map]
    rfl
  rw [hfind, hfind]
  refine Option.ext fun entry => ?_
  rw [find?_key_eq_some_iff (by rw [hkeys]; exact hgh.nodeIds_perm.nodup_iff.mpr hd),
    find?_key_eq_some_iff (by rw [hkeys]; exact hd), hgh.nodes.mem_iff]

/-- The live nodes look the same, one by one. -/
theorem liveNodes_eq (hgh : AgreeOn view g h) (hd : g.nodeIds.Nodup) :
    ((h.liveNodes output).map fun n => (n.id, view n)) =
      (g.liveNodes output).map fun n => (n.id, view n) := by
  have hleading : h.leadingTo output = g.leadingTo output := by
    simp only [leadingTo, searchSteps, hgh.connections]
    congr 1
    funext id
    simp only [sources, hgh.connections]
  unfold liveNodes
  rw [dependencyList_congr hgh.nodeIds_perm hgh.connections, hleading, List.map_filterMap,
    List.map_filterMap]
  exact List.filterMap_congr fun id _ => hgh.node?_eq hd id

/-- The same node is compiled. -/
theorem outputNode?_eq (hgh : AgreeOn Node.skeleton g h) : h.outputNode? = g.outputNode? := by
  have hids : ∀ k : Graph, ((k.nodes.filter fun node => node.type = .output).map Node.id) =
      ((k.nodes.map fun n => (n.id, n.skeleton)).filter fun entry =>
        decide (entry.2.1 = .output)).map Prod.fst := by
    intro k
    rw [List.filter_map, List.map_map]
    rfl
  have hperm := (hgh.nodes.filter fun entry => decide (entry.2.1 = .output)).map Prod.fst
  unfold outputNode?
  rw [hids, hids]
  refine Option.ext fun id => ?_
  rw [List.min?_eq_some_iff, List.min?_eq_some_iff, hperm.mem_iff]
  simp only [hperm.mem_iff]

/-- Slots are declared the same. -/
theorem slotDecl?_eq (hgh : AgreeOn Node.skeleton g h) (hd : g.nodeIds.Nodup) (slot : SlotId) :
    h.slotDecl? slot = g.slotDecl? slot := by
  have hdecl : ∀ k : Graph, k.slotDecl? slot =
      ((k.node? slot.node).map fun n => (n.id, n.skeleton)).bind fun entry =>
        entry.2.1.slots[slot.index]? := by
    intro k
    rw [Option.bind_map]
    rfl
  rw [hdecl, hdecl, hgh.node?_eq hd]

/-- Inputs read the same expressions. -/
theorem readExpr_eq (hgh : AgreeOn Node.skeleton g h) (hd : g.nodeIds.Nodup) :
    h.readExpr = g.readExpr := by
  funext id type index
  simp only [readExpr, connection?, hgh.connections, hgh.slotDecl?_eq hd]

/-! ## Programs -/

/-- Graphs that agree on types and options have the same program up to its parameters. -/
theorem programFor_eq (hgh : AgreeOn Node.skeleton g h) (hd : g.nodeIds.Nodup) :
    h.programFor output =
      { g.programFor output with parameters := (h.programFor output).parameters } := by
  have hflat : ∀ k : Graph, k.readExpr = g.readExpr →
      (k.liveNodes output).flatMap k.statementsOf =
        ((k.liveNodes output).map fun n => (n.id, n.skeleton)).flatMap fun entry =>
          Template.statements entry.1 entry.2.1 entry.2.2
            (entry.2.1.inputIndices.map (g.readExpr entry.1 entry.2.1)) := by
    intro k hread
    rw [List.flatMap_map]
    refine List.flatMap_congr fun n _ => ?_
    rw [statementsOf, hread]
    rfl
  have hstatements : (h.liveNodes output).flatMap h.statementsOf =
      (g.liveNodes output).flatMap g.statementsOf := by
    rw [hflat h (hgh.readExpr_eq hd), hflat g rfl, hgh.liveNodes_eq hd]
  simp only [programFor, hstatements, hgh.readExpr_eq hd, Program.parts, Program.expressions]

/-- Graphs that agree on types and values have the same program. -/
theorem programFor_eq_of_content (hgh : AgreeOn Node.content g h) (hd : g.nodeIds.Nodup) :
    h.programFor output = g.programFor output := by
  have hflat : ∀ k : Graph, k.connections = g.connections →
      k.parameterList (k.liveNodes output) =
        ((k.liveNodes output).map fun n => (n.id, n.content)).flatMap fun entry =>
          (Node.inputs ⟨entry.1, entry.2.1, default, entry.2.2⟩).filterMap
            (g.slotParameter? entry.2.1) := by
    intro k hconnections
    rw [parameterList, List.flatMap_map]
    refine List.flatMap_congr fun n _ => ?_
    have hconnection : k.connection? = g.connection? := by
      funext dest
      rw [connection?, hconnections, connection?]
    have hslot : k.slotParameter? n.type = g.slotParameter? n.type := by
      funext slot
      rw [slotParameter?, hconnection, slotParameter?]
    rw [hslot]
    rfl
  have hparameters : (h.programFor output).parameters = (g.programFor output).parameters := by
    simp only [programFor]
    rw [hflat h hgh.connections, hflat g rfl, hgh.liveNodes_eq hd]
  rw [hgh.skeleton.programFor_eq hd, hparameters]

end AgreeOn

/-! ## Generating -/

/-- Generating code changes nothing of a graph but its kept order. -/
theorem generateCode_agrees (g : Graph) : AgreeOn Node.content g g.generateCode.2 :=
  .of_perm g.nodesByOrder_frame.2.1 (.of_eq g.nodesByOrder_frame.1)

/-- The output node is the same after code has been generated. -/
theorem generateCode_outputNode? (g : Graph) : g.generateCode.2.outputNode? = g.outputNode? :=
  g.generateCode_agrees.skeleton.outputNode?_eq

/-! ## Edits -/

/-- Moving nodes changes neither their types nor their values. -/
theorem move_agrees (g : Graph) (ids : List NodeId) (delta : Position) :
    AgreeOn Node.content g (g.move ids delta).2 := by
  obtain ⟨place, hmove⟩ := g.move_eq ids delta
  rw [hmove]
  exact .mapNodes (fun _ => rfl) fun _ _ => rfl

/-- Raising a node changes the display order only. -/
theorem WellFormed.raise_agrees (hg : g.WellFormed) (id : NodeId) :
    AgreeOn Node.content g (g.raise id).2 := by
  refine .of_perm ?_ (hg.raise_perm id)
  unfold Graph.raise
  split
  · rfl
  · split_ifs <;> rfl

/-- Writing a value that is no option changes no option. -/
theorem WellFormed.setValue_agrees (hg : g.WellFormed) {slot : SlotId} {value : SlotValue}
    {changed : Bool} (hset : g.setValue slot value = .ok (changed, h))
    (hvalue : value.slotType ≠ .enum) : AgreeOn Node.skeleton g h := by
  obtain ⟨decl, current, hdecl, hcurrent, -, hholds, -, rfl⟩ := setValue_eq_ok_iff.mp hset
  split_ifs with hsame
  · exact .refl _ _
  rw [mapNode_eq]
  refine .mapNodes (fun n => by split_ifs <;> rfl) fun n hn => ?_
  split_ifs with hid
  · refine Prod.ext rfl (funext fun index => ?_)
    obtain ⟨node, hnode, hvalue?⟩ := Option.bind_eq_some_iff.mp hcurrent
    obtain ⟨node', hnode', hdecl'⟩ := Option.bind_eq_some_iff.mp hdecl
    obtain rfl : node = n := Option.some.inj
      (hnode.symm.trans ((node?_eq_some_iff hg.ids_distinct).mpr ⟨hn, hid⟩))
    obtain rfl : node = node' := Option.some.inj (hnode.symm.trans hnode')
    have hcurrentType : current.slotType ≠ .enum := by
      rw [← ((hg.nodes_valid node hn).holds_at hdecl' hvalue?).type_eq, hholds.type_eq]
      exact hvalue
    have hnone : ∀ v : SlotValue, v.slotType ≠ .enum → v.asEnum? = none := by
      intro v hv
      cases v with
      | enum option => exact absurd rfl hv
      | _ => rfl
    by_cases hindex : slot.index = index
    · subst hindex
      have hlt : slot.index < node.values.length := (List.getElem?_eq_some_iff.mp hvalue?).1
      have hnew : (node.setValue slot.index value).value? slot.index = some value := by
        simp [Node.setValue, Node.value?, hlt]
      simp [Node.skeleton, Node.option, hnew, hvalue?, hnone value hvalue,
        hnone current hcurrentType]
    · simp [Node.skeleton, Node.option, Node.setValue, Node.value?, List.getElem?_set_ne hindex]
  · rfl

/-- Selecting another option shows in the node that holds it. -/
theorem WellFormed.setValue_not_agrees (hg : g.WellFormed) {slot : SlotId} {option : Nat}
    (hset : g.setValue slot (.enum option) = .ok (true, h)) : ¬AgreeOn Node.skeleton g h := by
  intro hagree
  obtain ⟨decl, current, hdecl, hcurrent, -, hholds, hchanged, rfl⟩ := setValue_eq_ok_iff.mp hset
  have hdiffers : ¬current.same (.enum option) = true := by simpa using hchanged.symm
  obtain ⟨node, hnode, hvalue⟩ := Option.bind_eq_some_iff.mp hcurrent
  obtain ⟨node', hnode', hdecl'⟩ := Option.bind_eq_some_iff.mp hdecl
  obtain rfl : node = node' := Option.some.inj (hnode.symm.trans hnode')
  obtain ⟨hmem, hid⟩ := mem_of_node?_eq_some hnode
  -- what is stored is an option too, for the slot holds no other values
  obtain ⟨stored, rfl⟩ : ∃ stored, current = .enum stored := by
    have htype := ((hg.nodes_valid node hmem).holds_at hdecl' hvalue).type_eq.symm.trans
      hholds.type_eq
    cases current with
    | enum stored => exact ⟨stored, rfl⟩
    | _ => cases htype
  obtain ⟨hlt, hstored⟩ := List.getElem?_eq_some_iff.mp hvalue
  have hfound := hagree.node?_eq hg.ids_distinct slot.node
  rw [if_neg hdiffers, mapNode_eq, node?_mapNodes (fun n => by split_ifs <;> rfl), hnode,
    Option.map_some, Option.map_some, Option.map_some, if_pos hid, Option.some.injEq,
    Prod.mk.injEq] at hfound
  have hoption := congrFun (congrArg Prod.snd hfound.2) slot.index
  have hequal : option = stored := by
    simpa [Node.skeleton, Node.option, Node.setValue, Node.value?, hlt, hstored,
      SlotValue.asEnum?] using hoption
  exact hdiffers (decide_eq_true hequal.symm)

end Graph

namespace EditCommand.Step

variable {g h : Graph} {command : EditCommand} {outcome : EditOutcome}

/-- An edit that reports no change changes neither connections nor types nor values. -/
theorem agrees_of_unchanged (hg : g.WellFormed) (hstep : command.Step g outcome h)
    (hchanged : outcome.changed = false) : Graph.AgreeOn Node.content g h := by
  obtain ⟨hnodes, hconnections, -⟩ := hstep.perm_of_unchanged hg hchanged
  exact .of_perm hconnections hnodes

/-- An edit that reports no structural change changes neither connections nor types nor options. -/
theorem agrees_of_not_structural (hg : g.WellFormed) (hstep : command.Step g outcome h)
    (hstructural : outcome.structural = false) : Graph.AgreeOn Node.skeleton g h := by
  by_cases hchanged : outcome.changed = false
  · exact (hstep.agrees_of_unchanged hg hchanged).skeleton
  cases hstep with
  | add | duplicate => exact absurd hstructural (by simp [EditOutcome.creation])
  -- the outcome of a structural edit is structural exactly if it changed anything
  | remove | connect | disconnect => exact absurd hstructural hchanged
  | @setValue slot value changed h hset =>
    refine hg.setValue_agrees hset fun henum => hchanged ?_
    simpa [valueOutcome, henum, EditOutcome.structuralEdit] using hstructural
  | move nodes delta => exact (g.move_agrees nodes delta).skeleton
  | @raise node hnode => exact (hg.raise_agrees node).skeleton

/-- **An edit reports that it is structural exactly if connections, types or options differ.** -/
theorem structural_iff (hg : g.WellFormed) (hstep : command.Step g outcome h) :
    outcome.structural = true ↔ ¬Graph.AgreeOn Node.skeleton g h := by
  constructor
  · intro hstructural hagree
    rcases hstep.differs_of_structural hg hstructural with
      hlength | hconnections | ⟨slot, option, -, hset⟩
    · exact hlength hagree.length_eq.symm
    · exact hconnections hagree.connections.symm
    · exact hg.setValue_not_agrees hset hagree
  · intro hdiffers
    by_contra hplain
    exact hdiffers (hstep.agrees_of_not_structural hg ((Bool.not_eq_true _).mp hplain))

end EditCommand.Step

end ShaderGraph
