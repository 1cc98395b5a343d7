import ShaderGraph.Proofs.Lowering.Inputs

/-!
# The program of a graph, explicitly

In a consistent graph with an output node, lowering cannot fail: the order is there, every input
reads an expression, and the output node has the two inputs that color and alpha are read from.
The program is then given by plain maps over the live nodes, which stand in dependency order.
-/

set_option autoImplicit false

namespace ShaderGraph

open Relation (ReflTransGen)

namespace Graph

variable {g : Graph} {output : NodeId} {node : Node}

/-- The nodes that lead to a node, in dependency order. -/
def liveNodes (g : Graph) (output : NodeId) : List Node :=
  (g.dependencyList.filter fun id => (g.leadingTo output).contains id).filterMap g.node?

/-- The statements of a node, if all that its inputs refer to is there. -/
def statementsOf (g : Graph) (node : Node) : List Statement :=
  Template.statements node.id node.type node.option
    (node.type.inputIndices.map (g.readExpr node.id node.type))

/-- The program of a node, if all that the inputs of the live nodes refer to is there. -/
def programFor (g : Graph) (output : NodeId) : Program :=
  let program : Program :=
    ⟨(g.liveNodes output).flatMap g.statementsOf, ⟨g.parameterList (g.liveNodes output)⟩,
      g.readExpr output .output 0, g.readExpr output .output 1, []⟩
  { program with features := Builtin.closure (program.parts.filterMap Expr.called?) }

/-! ## The live nodes -/

/-- Looking up every id of a list, all of them stored, gives nodes with these ids. -/
theorem ids_filterMap_node? {ids : List NodeId} (hids : ∀ id ∈ ids, id ∈ g.nodeIds) :
    (ids.filterMap g.node?).map Node.id = ids := by
  induction ids with
  | nil => rfl
  | cons id rest ih =>
    obtain ⟨node, hn⟩ := Option.ne_none_iff_exists'.mp
      (mt node?_eq_none_iff.mp (not_not.mpr (hids id List.mem_cons_self)))
    rw [List.filterMap_cons_some hn, List.map_cons, (mem_of_node?_eq_some hn).2,
      ih fun other hother => hids other (List.mem_cons_of_mem _ hother)]

namespace WellFormed

/-- The ids of the live nodes are those of the dependency order that lead to the output. -/
theorem ids_liveNodes (hg : g.WellFormed) (output : NodeId) :
    (g.liveNodes output).map Node.id =
      g.dependencyList.filter fun id => (g.leadingTo output).contains id :=
  ids_filterMap_node? fun _ hid => hg.dependencyList_spec.1.mem_iff.mp (List.mem_filter.mp hid).1

/-- A node is live if it is stored and connections lead from it to the output. -/
theorem mem_liveNodes (hg : g.WellFormed) :
    node ∈ g.liveNodes output ↔ node ∈ g.nodes ∧ ReflTransGen g.Feeds node.id output := by
  simp only [liveNodes, List.mem_filterMap, List.mem_filter, List.contains_iff_mem,
    mem_leadingTo_iff]
  constructor
  · rintro ⟨id, ⟨-, hlead⟩, hn⟩
    obtain ⟨hmem, rfl⟩ := mem_of_node?_eq_some hn
    exact ⟨hmem, hlead⟩
  · rintro ⟨hmem, hlead⟩
    have hid : node.id ∈ g.dependencyList :=
      hg.dependencyList_spec.1.mem_iff.mpr (List.mem_map_of_mem hmem)
    exact ⟨node.id, ⟨hid, hlead⟩, node?_id_of_mem hg.ids_distinct hmem⟩

/-- No node is live twice. -/
theorem liveNodes_nodup (hg : g.WellFormed) (output : NodeId) :
    ((g.liveNodes output).map Node.id).Nodup := by
  rw [hg.ids_liveNodes]
  exact (hg.dependencyList_spec.1.nodup_iff.mpr hg.ids_distinct).filter _

/-- A live node feeds none that stand before it. -/
theorem liveNodes_ordered (hg : g.WellFormed) (output : NodeId) :
    (g.liveNodes output).Pairwise fun a b => ¬g.Feeds b.id a.id := by
  rw [← List.pairwise_map (f := Node.id) (R := fun a b => ¬g.Feeds b a), hg.ids_liveNodes]
  exact hg.dependencyList_spec.2.filter _

/-- The sources of a live node are live and stand before it. -/
theorem feeders_before (hg : g.WellFormed) {done waiting : List Node}
    (hsplit : g.liveNodes output = done ++ node :: waiting) :
    ∀ other ∈ g.nodes, g.Feeds other.id node.id → other ∈ done := by
  intro other hother hfeeds
  have hlive : node ∈ g.liveNodes output := by simp [hsplit]
  have hordered := hg.liveNodes_ordered output
  rw [hsplit, List.pairwise_append, List.pairwise_cons] at hordered
  obtain ⟨-, ⟨hafter, -⟩, -⟩ := hordered
  have hmem : other ∈ g.liveNodes output :=
    hg.mem_liveNodes.mpr ⟨hother, .head hfeeds (hg.mem_liveNodes.mp hlive).2⟩
  rw [hsplit, List.mem_append, List.mem_cons] at hmem
  rcases hmem with hmem | rfl | hmem
  · exact hmem
  · exact absurd (.single hfeeds) (hg.acyclic _)
  · exact absurd hfeeds (hafter other hmem)

/-- No more nodes are live than there are. -/
theorem length_liveNodes_le (hg : g.WellFormed) (output : NodeId) :
    (g.liveNodes output).length ≤ g.nodes.length := by
  have hids : ((g.liveNodes output).map Node.id).length ≤ g.dependencyList.length := by
    rw [hg.ids_liveNodes]
    exact List.length_filter_le ..
  rwa [List.length_map, hg.dependencyList_spec.1.length_eq, nodeIds, List.length_map] at hids

/-- The live nodes are valid, as all nodes are. -/
theorem liveNodes_valid (hg : g.WellFormed) : ∀ node ∈ g.liveNodes output, node.Valid :=
  fun _ hn => hg.nodes_valid _ (hg.mem_liveNodes.mp hn).1

end WellFormed

/-! ## Parameters -/

/-- Every value but an option makes a parameter. -/
theorem exists_parameter {value : SlotValue} (hvalue : value.slotType ≠ .enum) :
    ∃ p, value.parameter? = some p := by
  cases value with
  | enum index => exact absurd rfl hvalue
  | _ => exact ⟨_, rfl⟩

/-- The parameter of a live node's input is found under its name. -/
theorem WellFormed.get?_parameter (hg : g.WellFormed) (hn : node ∈ g.liveNodes output)
    {slot : Node.Slot} (hslot : slot ∈ node.inputs) {p : Parameter}
    (hp : g.slotParameter? node.type slot = some p) :
    (g.programFor output).parameters.get? (paramName slot.id) = some p := by
  refine (find?_key_eq_some_iff (parameterList_names_nodup (hg.liveNodes_nodup output)
    hg.liveNodes_valid)).mpr ⟨?_, (slotParameter?_eq_some hp).1⟩
  exact mem_parameterList.mpr ⟨node, hn, slot, hslot, hp⟩

/-! ## Lowering -/

/-- The designated output node is a stored node of that type. -/
theorem mem_of_outputNode?_eq_some (ho : g.outputNode? = some output) :
    ∃ node ∈ g.nodes, node.id = output ∧ node.type = .output := by
  obtain ⟨node, hn, hid⟩ := List.mem_map.mp (List.min?_mem ho)
  obtain ⟨hmem, htype⟩ := List.mem_filter.mp hn
  exact ⟨node, hmem, hid, by simpa using htype⟩

/-- There is a designated output node unless there is no output node. -/
theorem outputNode?_eq_none_iff : g.outputNode? = none ↔ ∀ node ∈ g.nodes, node.type ≠ .output := by
  rw [outputNode?, List.min?_eq_none_iff, List.map_eq_nil_iff, List.filter_eq_nil_iff]
  simp

/-- In a well-formed graph the schedule of an output node has a program. -/
theorem WellFormed.programOf_eq (hg : g.WellFormed) (ho : g.outputNode? = some output) :
    g.programOf output (g.liveNodes output) = .ok (g.programFor output) := by
  have hstatements : (g.liveNodes output).mapM g.nodeStatements =
      .ok ((g.liveNodes output).map g.statementsOf) := by
    refine mapM_eq_ok fun node hn => ?_
    rw [nodeStatements, hg.inputExprs_eq (hg.mem_liveNodes.mp hn).1]
    rfl
  obtain ⟨node, hn, rfl, htype⟩ := mem_of_outputNode?_eq_some ho
  have hinputs : g.inputExprs node =
      .ok [g.readExpr node.id .output 0, g.readExpr node.id .output 1] := by
    rw [hg.inputExprs_eq hn, htype]
    rfl
  have hoption : (some node).mapM g.inputExprs =
      .ok (some [g.readExpr node.id .output 0, g.readExpr node.id .output 1]) := by
    simp only [Option.mapM_some, hinputs]
    rfl
  unfold programOf
  rw [hstatements, node?_id_of_mem hg.ids_distinct hn, hoption,
    parametersOf_eq (hg.liveNodes_nodup _) hg.liveNodes_valid]
  simp only [programFor, List.flatMap_def]
  rfl

namespace Consistent

/-- The schedule of a consistent graph lists the live nodes. -/
theorem currentSchedule_eq (hg : g.Consistent) (ho : g.outputNode? = some output) :
    g.currentSchedule =
      (.ok (output, g.liveNodes output), { g with order := some g.dependencyList }) := by
  have hschedule : ({ g with order := some g.dependencyList } : Graph).schedule g.dependencyList =
      .ok (output, g.liveNodes output) := by
    have ho' : ({ g with order := some g.dependencyList } : Graph).outputNode? = some output := ho
    rw [schedule, ho']
    rfl
  rw [currentSchedule, hg.nodesByOrder_eq]
  exact congrArg (fun result => (result, _)) hschedule

/-- **A consistent graph with an output node has a program, and it is the explicit one.** -/
theorem generateCode_eq (hg : g.Consistent) (ho : g.outputNode? = some output) :
    g.generateCode.1 = .ok (g.programFor output) := by
  rw [generateCode, hg.currentSchedule_eq ho]
  exact hg.programOf_eq ho

/-- The parameters generated alone are those of the program. -/
theorem generateParameters_eq (hg : g.Consistent) (ho : g.outputNode? = some output) :
    g.generateParameters.1 = .ok (g.programFor output).parameters := by
  rw [generateParameters, hg.currentSchedule_eq ho]
  exact congrArg Except.ok (parametersOf_eq (hg.liveNodes_nodup _) hg.liveNodes_valid)

/-- Without an output node there is neither a program nor are there parameters. -/
theorem generate_eq_missing (hg : g.Consistent) (ho : g.outputNode? = none) :
    g.generateCode.1 = .error .missingOutput ∧ g.generateParameters.1 = .error .missingOutput := by
  have hschedule : g.currentSchedule.1 = .error .missingOutput := by
    have ho' : ({ g with order := some g.dependencyList } : Graph).outputNode? = none := ho
    rw [currentSchedule, hg.nodesByOrder_eq]
    change schedule _ _ = _
    rw [schedule, ho']
  rw [generateCode, generateParameters]
  simp only [hschedule]
  exact ⟨rfl, rfl⟩

end Consistent

end Graph

end ShaderGraph
