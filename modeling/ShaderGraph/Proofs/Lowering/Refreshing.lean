import ShaderGraph.Proofs.Dialect.Layout
import ShaderGraph.Proofs.Lowering.Agreement

/-!
# Refreshing is generating anew

Which parameters a program has, under which names, in which order and of which kinds, follows from
what its statements follow from: the connections and, of each node, the id and the type. For a slot
holds values of its declared type only, and all values of a type make parameters of one kind. Edits
that do not reach the structure leave this alone, however many follow each other. So the parameters
of the graph that they lead to fit the program generated before them, and turn it into the program
that the graph then has.
-/

set_option autoImplicit false

namespace ShaderGraph

/-- The empty parameter that values of a type make; options make none. -/
def SlotType.parameter? : SlotType → Option ParameterValue
  | bool => some (.bool false)
  | int => some (.int 0)
  | float => some (.float 0.0)
  | vector | color => some (.vec3 (Vec3.splat 0.0))
  | colorRamp | rgbCurve | vectorCurve => some (.lut [])
  | image => some (.image none)
  | enum => none

/-- The kind of a parameter follows from the type of the value. -/
theorem SlotValue.parameter?_zero (v : SlotValue) :
    v.parameter?.map ParameterValue.zero = v.slotType.parameter? := by
  cases v <;> rfl

namespace Graph

variable {g h : Graph} {node : Node} {output : NodeId}

/-- The parameter of an input slot, without its value. -/
def slotLayout? (g : Graph) (id : NodeId) (type : NodeType) (index : Nat) : Option Parameter :=
  if (g.connection? ⟨id, index⟩).isSome || (implicitInput? type index).isSome then none
  else ((type.slots[index]?).bind fun decl => decl.slotType.parameter?).map fun value =>
    ⟨paramName ⟨id, index⟩, ⟨id, index⟩, value⟩

/-- The layout of a parameter does not depend on the value that its slot holds. -/
theorem slotParameter?_layout (g : Graph) (hn : node.Valid) {slot : Node.Slot}
    (hslot : slot ∈ node.inputs) : (g.slotParameter? node.type slot).map Parameter.layout =
      g.slotLayout? node.id node.type slot.id.index := by
  obtain ⟨id, decl, value⟩ := slot
  obtain ⟨index, hid, hdecl, hvalue, -⟩ := Node.mem_inputs.mp hslot
  simp only at hid hdecl hvalue ⊢
  subst hid
  have hzero : value.parameter?.map ParameterValue.zero = decl.slotType.parameter? := by
    rw [value.parameter?_zero, (hn.holds_at hdecl hvalue).type_eq]
  have hdecl' : node.type.slots[index]? = some decl := hdecl
  rw [slotParameter?, slotLayout?]
  simp only
  split_ifs
  · rfl
  · rw [hdecl', Option.bind_some, ← hzero, Option.map_map, Option.map_map]
    rfl

/-- The layouts of the parameters of a node follow from its id and its type. -/
theorem parameters_layout (g : Graph) (hn : node.Valid) :
    (node.inputs.filterMap (g.slotParameter? node.type)).map Parameter.layout =
      node.type.inputIndices.filterMap (g.slotLayout? node.id node.type) := by
  rw [List.map_filterMap, ← hn.inputs_indices, List.filterMap_map]
  exact List.filterMap_congr fun slot hslot => g.slotParameter?_layout hn hslot

/-- Connections are all that the layouts of parameters take from a graph. -/
theorem slotLayout?_congr (hconnections : h.connections = g.connections) :
    h.slotLayout? = g.slotLayout? := by
  have hconnection : h.connection? = g.connection? := by
    funext dest
    rw [connection?, hconnections, connection?]
  funext id type index
  rw [slotLayout?, hconnection, slotLayout?]

namespace AgreeOn

/-- **Graphs that agree on types have parameters of one layout**, if their nodes are valid. -/
theorem sameLayout (hgh : AgreeOn Node.skeleton g h) (hg : g.WellFormed) (hh : h.WellFormed) :
    (g.programFor output).parameters.sameLayout (h.programFor output).parameters = true := by
  have hflat : ∀ k : Graph, k.WellFormed → k.slotLayout? = g.slotLayout? →
      (k.parameterList (k.liveNodes output)).map Parameter.layout =
        ((k.liveNodes output).map fun n => (n.id, n.skeleton)).flatMap fun entry =>
          entry.2.1.inputIndices.filterMap (g.slotLayout? entry.1 entry.2.1) := by
    intro k hk hlayout
    rw [parameterList, List.map_flatMap, List.flatMap_map]
    refine List.flatMap_congr fun n hn => ?_
    rw [k.parameters_layout (hk.liveNodes_valid n hn), hlayout]
    rfl
  have hlist : (g.parameterList (g.liveNodes output)).map Parameter.layout =
      (h.parameterList (h.liveNodes output)).map Parameter.layout := by
    rw [hflat g hg rfl, hflat h hh (slotLayout?_congr hgh.connections),
      hgh.liveNodes_eq hg.ids_distinct]
  exact ParameterTable.sameLayout_iff.mpr (congrArg ParameterTable.mk hlist)

/-- The parameters of the one graph turn the program of the other into its own. -/
theorem refresh?_eq (hgh : AgreeOn Node.skeleton g h) (hg : g.WellFormed) (hh : h.WellFormed) :
    (g.programFor output).refresh? (h.programFor output).parameters =
      some (h.programFor output) := by
  rw [Program.refresh?_eq, if_pos (hgh.sameLayout hg hh), ← hgh.programFor_eq hg.ids_distinct]

end AgreeOn

end Graph

namespace EditCommand

variable {g h k : Graph} {command : EditCommand} {outcome : EditOutcome}
  {commands : List EditCommand} {outcomes : List EditOutcome}

/-- Whether a list of commands, none of them refused, reports a list of outcomes and leads from one
graph to another. The dependency order may be asked for in between, as generating code and
parameters does. -/
inductive Run : Graph → List EditCommand → List EditOutcome → Graph → Prop
  | nil (g : Graph) : Run g [] [] g
  | cons {g h k : Graph} {command : EditCommand} {outcome : EditOutcome}
    {commands : List EditCommand} {outcomes : List EditOutcome}
    (hexec : command.execute g = .ok (outcome, h)) (hrest : Run h commands outcomes k) :
    Run g (command :: commands) (outcome :: outcomes) k
  | ask {g k : Graph} {commands : List EditCommand} {outcomes : List EditOutcome}
    (hrest : Run g.nodesByOrder.2 commands outcomes k) : Run g commands outcomes k

/-- An edit that does not reach the structure makes no node. -/
theorem Step.allocations_eq (hstep : command.Step g outcome h)
    (hplain : outcome.structural = false) : command.call.allocations g = 0 := by
  cases hstep with
  | add | duplicate => cases hplain
  | _ => rfl

/-- **Edits that do not reach the structure leave a graph consistent, and its skeleton alone.** -/
theorem Run.agrees (hrun : Run g commands outcomes h) (hg : g.Consistent)
    (hplain : ∀ outcome ∈ outcomes, outcome.structural = false) :
    h.Consistent ∧ Graph.AgreeOn Node.skeleton g h := by
  induction hrun with
  | nil g => exact ⟨hg, .refl _ _⟩
  | @cons g h k command outcome commands outcomes hexec _ ih =>
    have hstep := execute_eq_ok_iff.mp hexec
    have hfirst : outcome.structural = false := hplain outcome List.mem_cons_self
    have hh : h.Consistent := by
      rw [hstep.eq_apply]
      exact hg.apply command.call fun halloc => by
        have hnone := hstep.allocations_eq hfirst
        omega
    obtain ⟨hk, hagree⟩ := ih hh fun other hother => hplain other (List.mem_cons_of_mem _ hother)
    exact ⟨hk, (hstep.agrees_of_not_structural hg.toWellFormed hfirst).trans hagree⟩
  | @ask g k commands outcomes _ ih =>
    obtain ⟨hk, hagree⟩ := ih hg.nodesByOrder hplain
    exact ⟨hk, g.generateCode_agrees.skeleton.trans hagree⟩

end EditCommand

namespace Graph

variable {g h : Graph} {program : Program} {commands : List EditCommand}
  {outcomes : List EditOutcome}

/-- **Refreshing is generating anew, after edits that do not reach the structure.** A reachable
graph has a program, and any number of commands follow, each of which reports that it is not
structural. Then the graph that they lead to has parameters, they have the layout of those of the
program, and the program refreshed with them is the program generated anew, in full. -/
theorem refresh_generates (hg : g.Reachable) (hcode : g.generateCode.1 = .ok program)
    (hrun : EditCommand.Run g commands outcomes h)
    (hplain : ∀ outcome ∈ outcomes, outcome.structural = false) :
    ∃ table refreshed, h.generateParameters.1 = .ok table ∧
      program.refresh? table = some refreshed ∧ h.generateCode.1 = .ok refreshed := by
  have hconsistent := hg.consistent
  obtain ⟨hh, hagree⟩ := hrun.agrees hconsistent hplain
  cases ho : g.outputNode? with
  | none => exact absurd (hcode.symm.trans (hconsistent.generate_eq_missing ho).1) (by simp)
  | some output =>
    obtain rfl : program = g.programFor output :=
      Except.ok.inj (hcode.symm.trans (hconsistent.generateCode_eq ho))
    have hlast : h.outputNode? = some output := hagree.outputNode?_eq.trans ho
    exact ⟨_, _, hh.generateParameters_eq hlast,
      hagree.refresh?_eq hconsistent.toWellFormed hh.toWellFormed, hh.generateCode_eq hlast⟩

/-- A factor feeds a ramp, and the ramp the color. The factor is edited and the parameters are
generated; then the ramp is edited, moved and raised, and a connection is made that was there. -/
theorem refresh_generates_ramp :
    let g := ofCalls [.add .value ⟨0, 0⟩, .add .colorRamp ⟨0, 0⟩, .add .output ⟨0, 0⟩,
      .connect ⟨1, 1⟩ ⟨2, 1⟩, .connect ⟨2, 2⟩ ⟨3, 0⟩]
    let commands : List EditCommand := [.setValue ⟨1, 0⟩ (.float 0.25),
      .setValue ⟨2, 0⟩ (.colorRamp ⟨.ease, [⟨0.5, ⟨1.0, 0.0, 0.0, 1.0⟩⟩]⟩), .move [2] ⟨7, 0⟩,
      .raise 1, .connect ⟨2, 2⟩ ⟨3, 0⟩]
    g.Reachable ∧ ∃ program outcomes h, g.generateCode.1 = .ok program ∧
      EditCommand.Run g commands outcomes h ∧ (∀ outcome ∈ outcomes, outcome.structural = false) ∧
      outcomes.map EditOutcome.changed = [true, true, true, false, false] ∧
      ∃ table refreshed, h.generateParameters.1 = .ok table ∧
        program.refresh? table = some refreshed ∧ h.generateCode.1 = .ok refreshed := by
  intro g commands
  have hg : g.Reachable := reachable_ofCalls _ (by decide)
  have ho : g.outputNode? = some 3 := by decide +kernel
  have hcode := hg.consistent.generateCode_eq ho
  have hnext : ∀ (k : Graph) (command : EditCommand) (outcome : EditOutcome),
      (command.execute k).toOption.map Prod.fst = some outcome →
        command.execute k = .ok (outcome, command.call.apply k) := by
    intro k command outcome hreport
    cases hexec : command.execute k with
    | error e => simp [hexec, Except.toOption] at hreport
    | ok result =>
      obtain rfl : result.1 = outcome := by simpa [hexec, Except.toOption] using hreport
      rw [← (EditCommand.execute_eq_ok_iff.mp hexec).eq_apply]
  have hrun : EditCommand.Run g commands [⟨true, false, none⟩, ⟨true, false, none⟩,
      ⟨true, false, none⟩, ⟨false, false, none⟩, ⟨false, false, none⟩] _ :=
    .cons (hnext _ _ _ (by decide +kernel)) (.ask (.cons (hnext _ _ _ (by decide +kernel))
      (.cons (hnext _ _ _ (by decide +kernel)) (.cons (hnext _ _ _ (by decide +kernel))
        (.cons (hnext _ _ _ (by decide +kernel)) (.nil _))))))
  have hplain : ∀ outcome ∈ ([⟨true, false, none⟩, ⟨true, false, none⟩, ⟨true, false, none⟩,
      ⟨false, false, none⟩, ⟨false, false, none⟩] : List EditOutcome),
      outcome.structural = false := by decide
  exact ⟨hg, _, _, _, hcode, hrun, hplain, rfl, refresh_generates hg hcode hrun hplain⟩

end Graph

end ShaderGraph
