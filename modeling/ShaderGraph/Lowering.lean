import ShaderGraph.Graph.Dependency
import ShaderGraph.Lowering.Template

/-!
# From graph to program

The nodes that lead to the designated output node become statements, in dependency order. An input
slot reads, in this order of preference, the variable of the output that feeds it, a coordinate of
the surface if the slot stands for one, or the parameter that holds its value. Ramps and curves
become lookup tables, so that editing them changes parameters only; options select statements.
-/

set_option autoImplicit false

namespace ShaderGraph

/-- Entries of a lookup table. -/
def lutSize : Nat := 256

/-- Why no program could be made. -/
inductive LoweringError
  | cycle (nodes : List NodeId)
  | missingOutput
  | slotNotFound (slot : SlotId)
deriving DecidableEq, Repr

/-- The error in words. -/
def LoweringError.message : LoweringError → String
  | cycle nodes => "Graph contains a cycle through " ++ ", ".intercalate (nodes.map NodeId.label)
  | missingOutput => "Graph has no output node"
  | slotNotFound slot => s!"Slot not found: {slot.label}"

/-- The coordinate that an unconnected input slot stands for. -/
def implicitInput? (type : NodeType) (index : Nat) : Option ShaderInput :=
  match type, index with
  | .imageTexture, 2 => some .uv
  | .noiseTexture, 0 | .checkerTexture, 0 => some .generated
  | _, _ => none

/-- The parameter value of a slot value; options are not parameters. -/
def SlotValue.parameter? : SlotValue → Option ParameterValue
  | .bool v => some (.bool v)
  | .int v => some (.int v)
  | .float v => some (.float v)
  | .vector v | .color v => some (.vec3 v)
  | .colorRamp ramp => some (.lut (ramp.bake lutSize))
  | .rgbCurve curves => some (.lut (curves.bake lutSize))
  | .vectorCurve curves => some (.lut (curves.bake lutSize))
  | .image path => some (.image path)
  | .enum _ => none

/-- The expression converted from the type of one slot to the type of another. -/
def convertExpr (expr : Expr) (source dest : SlotType) : Expr :=
  match source, dest with
  | .int, .float => .convert .float expr
  | .float, .int => .convert .int expr
  | .float, .vector | .float, .color => .convert .vec3 expr
  | .int, .vector | .int, .color => .convert .vec3 (.convert .float expr)
  | .color, .float => .call .luminance [expr]
  | .vector, .float => .call .average [expr]
  | _, _ => expr

namespace Graph

/-- The expression that an input slot of a node reads. -/
def inputExpr (g : Graph) (type : NodeType) (slot : Node.Slot) : Except LoweringError Expr :=
  match g.connection? slot.id with
  | some c =>
    match g.slotDecl? c.source with
    | some source => .ok (convertExpr (.var (varName c.source)) source.slotType slot.decl.slotType)
    | none => .error (.slotNotFound c.source)
  | none =>
    match implicitInput? type slot.id.index with
    | some input => .ok (.input input)
    | none => .ok (.param (paramName slot.id))

/-- The expressions that the input slots of a node read, in slot order. -/
def inputExprs (g : Graph) (node : Node) : Except LoweringError (List Expr) :=
  node.inputs.mapM (g.inputExpr node.type)

/-- The statements of a node. -/
def nodeStatements (g : Graph) (node : Node) : Except LoweringError (List Statement) :=
  (g.inputExprs node).map (Template.statements node.id node.type node.option)

/-- The parameter of an input slot, if the slot reads one. -/
def slotParameter? (g : Graph) (type : NodeType) (slot : Node.Slot) : Option Parameter :=
  if (g.connection? slot.id).isSome || (implicitInput? type slot.id.index).isSome then none
  else slot.value.parameter?.map fun value => ⟨paramName slot.id, slot.id, value⟩

/-- The parameters of a list of nodes, in order of node and slot. -/
def parametersOf (g : Graph) (nodes : List Node) : ParameterTable :=
  (nodes.flatMap fun node => node.inputs.filterMap (g.slotParameter? node.type)).foldl
    ParameterTable.insert .empty

/-- The output node and the nodes leading to it in dependency order, given the order of all. -/
def schedule (g : Graph) (order : List NodeId) : Except LoweringError (NodeId × List Node) :=
  match g.outputNode? with
  | none => .error .missingOutput
  | some output =>
    let live := g.leadingTo output
    .ok (output, (order.filter fun id => live.contains id).filterMap g.node?)

/-- The program of a schedule. -/
def programOf (g : Graph) (output : NodeId) (nodes : List Node) :
    Except LoweringError Program := do
  let statements ← nodes.mapM g.nodeStatements
  match ← ((g.node? output).mapM g.inputExprs) with
  | some [color, alpha] =>
    let program : Program := ⟨statements.flatten, g.parametersOf nodes, color, alpha, []⟩
    return { program with features := Builtin.closure (program.parts.filterMap Expr.called?) }
  | _ => throw .missingOutput

/-- The error for a graph that has no dependency order. -/
def cycleFault (e : CycleError) : LoweringError := .cycle e.nodes

/-- The schedule of the designated output node, and the graph that keeps its order. -/
def currentSchedule (g : Graph) : Except LoweringError (NodeId × List Node) × Graph :=
  let (order, g) := g.nodesByOrder
  ((order.mapError cycleFault).bind g.schedule, g)

/-- The program of the designated output node, and the graph that keeps its order. -/
def generateCode (g : Graph) : Except LoweringError Program × Graph :=
  let (schedule, g) := g.currentSchedule
  (schedule.bind fun (output, nodes) => g.programOf output nodes, g)

/-- The parameters of that program alone, and the graph that keeps its order. -/
def generateParameters (g : Graph) : Except LoweringError ParameterTable × Graph :=
  let (schedule, g) := g.currentSchedule
  (schedule.map fun (_, nodes) => g.parametersOf nodes, g)

end Graph

end ShaderGraph
