import Mathlib.Logic.Function.Basic
import ShaderGraph.Lowering

/-!
# What programs and graphs mean

The meaning of a program and the meaning of a graph are given over the same arbitrary
interpretation, which says what shader values are and what the operations do to them. A program is
run: its statements are evaluated one after the other, each in the parameter table and the variables
bound so far, and a run is stuck where a name is not bound or is bound a second time. A graph is
evaluated directly, by recursion from an output slot along the connections into its node; names,
statements and orders play no part in it, and an option is told by its label, not by its index.
-/

set_option autoImplicit false

namespace ShaderGraph

variable {V : Type}

/-- What shader values are, and what the operations on them do. -/
structure Interpretation (V : Type) where
  /-- Literals, and the stored values of unconnected inputs. -/
  constant : ParameterValue → V
  /-- The coordinates of the surface. -/
  input : ShaderInput → V
  construct : ShaderType → List V → V
  convert : ShaderType → V → V
  swizzle : V → String → V
  binary : BinaryOp → V → V → V
  call : Builtin → List V → V
  select : V → V → V → V

/-- The interpretation with one value only, under which a run is stuck at names alone. -/
def Interpretation.unit : Interpretation Unit :=
  ⟨fun _ => (), fun _ => (), fun _ _ => (), fun _ _ => (), fun _ _ => (), fun _ _ _ => (),
    fun _ _ => (), fun _ _ _ => ()⟩

/-- The values of the variables bound so far. -/
abbrev Bindings (V : Type) := String → Option V

/-! ## Running a program -/

namespace Expr

mutual

/-- The value of an expression, unless it reads a name that is not bound. -/
def eval? (I : Interpretation V) (table : ParameterTable) (env : Bindings V) : Expr → Option V
  | bool v => some (I.constant (.bool v))
  | int v => some (I.constant (.int v))
  | float v => some (I.constant (.float v))
  | param name => (table.get? name).map fun p => I.constant p.value
  | var name => env name
  | input which => some (I.input which)
  | construct type args => (evalAll? I table env args).map (I.construct type)
  | convert type expr => (expr.eval? I table env).map (I.convert type)
  | swizzle expr components => (expr.eval? I table env).map fun v => I.swizzle v components
  | binary op lhs rhs => do
    return I.binary op (← lhs.eval? I table env) (← rhs.eval? I table env)
  | call function args => (evalAll? I table env args).map (I.call function)
  | select cond onTrue onFalse => do
    return I.select (← cond.eval? I table env) (← onTrue.eval? I table env)
      (← onFalse.eval? I table env)

/-- The values of a list of expressions, unless one of them has none. -/
def evalAll? (I : Interpretation V) (table : ParameterTable) (env : Bindings V) :
    List Expr → Option (List V)
  | [] => some []
  | expr :: rest => do
    return (← expr.eval? I table env) :: (← evalAll? I table env rest)

end

end Expr

/-- The bindings after a statement, unless it is stuck: its name must be new. -/
def Statement.run? (I : Interpretation V) (table : ParameterTable) (env : Bindings V)
    (s : Statement) : Option (Bindings V) :=
  if (env s.name).isSome then none
  else (s.expr.eval? I table env).map fun v => Function.update env s.name (some v)

namespace Program

/-- The bindings after a list of statements, unless one of them is stuck. -/
def runAll? (I : Interpretation V) (table : ParameterTable) (env : Bindings V)
    (statements : List Statement) : Option (Bindings V) :=
  statements.foldlM (Statement.run? I table) env

/-- Color and alpha of the result, unless the run is stuck. -/
def run? (I : Interpretation V) (program : Program) : Option (V × V) := do
  let env ← runAll? I program.parameters (fun _ => none) program.statements
  return (← program.color.eval? I program.parameters env,
    ← program.alpha.eval? I program.parameters env)

end Program

/-! ## Evaluating a graph directly -/

namespace Interpretation

variable (I : Interpretation V)

/-- The vector with three equal components. -/
def splat (value : Binary32) : V := I.convert .vec3 (I.constant (.float value))

/-- A value of one slot type as a value of another. -/
def converted (source dest : SlotType) (v : V) : V :=
  match source, dest with
  | .int, .float => I.convert .float v
  | .float, .int => I.convert .int v
  | .float, .vector | .float, .color => I.convert .vec3 v
  | .int, .vector | .int, .color => I.convert .vec3 (I.convert .float v)
  | .color, .float => I.call .luminance [v]
  | .vector, .float => I.call .average [v]
  | _, _ => v

/-- A value, clamped to `[0, 1]` where `clamp` holds. -/
def clamped (clamp v : V) : V := I.select clamp (I.call .saturate [v]) v

/-- The result of an operation of a math node. -/
def math? (operation : String) (a b : V) : Option V :=
  match operation with
  | "Add" => some (I.binary .add a b)
  | "Subtract" => some (I.binary .sub a b)
  | "Multiply" => some (I.binary .mul a b)
  | "Divide" => some (I.binary .div a b)
  | "Power" => some (I.call .pow [a, b])
  | "Minimum" => some (I.call .min [a, b])
  | "Maximum" => some (I.call .max [a, b])
  | "Sine" => some (I.call .sin [a])
  | "Cosine" => some (I.call .cos [a])
  | "Absolute" => some (I.call .abs [a])
  | _ => none

/-- The vector that an operation of a vector math node gives; zero where it gives a number. -/
def vectorMath? (operation : String) (a b : V) : Option V :=
  match operation with
  | "Add" => some (I.binary .add a b)
  | "Subtract" => some (I.binary .sub a b)
  | "Multiply" => some (I.binary .mul a b)
  | "Cross Product" => some (I.call .cross [a, b])
  | "Normalize" => some (I.call .normalize [a])
  | "Dot Product" | "Length" => some (I.splat 0.0)
  | _ => none

/-- The number that an operation of a vector math node gives; zero where it gives a vector. -/
def vectorMeasure? (operation : String) (a b : V) : Option V :=
  match operation with
  | "Dot Product" => some (I.call .dot [a, b])
  | "Length" => some (I.call .length [a])
  | "Add" | "Subtract" | "Multiply" | "Cross Product" | "Normalize" =>
    some (I.constant (.float 0.0))
  | _ => none

/-- The second color of a mixing node as a blend mode changes it. -/
def blend? (mode : String) (a b : V) : Option V :=
  let inverse := I.binary .sub (I.splat 1.0)
  match mode with
  | "Mix" => some b
  | "Add" => some (I.binary .add a b)
  | "Multiply" => some (I.binary .mul a b)
  | "Screen" => some (inverse (I.binary .mul (inverse a) (inverse b)))
  | "Subtract" => some (I.binary .sub a b)
  | "Difference" => some (I.call .abs [I.binary .sub a b])
  | _ => none

/-- The sample of an image with a filter. -/
def sample? (filter : String) (image uv : V) : Option V :=
  match filter with
  | "Linear" => some (I.call .imageLinear [image, uv])
  | "Closest" => some (I.call .imageClosest [image, uv])
  | _ => none

/-- The value of an output slot of a node, given by slot index the labels of the options selected
and the values of the inputs. -/
def output? (type : NodeType) (label : Nat → Option String) (input : Nat → Option V)
    (index : Nat) : Option V :=
  match type, index with
  | .value, 1 | .rgb, 1 | .vector, 1 => input 0
  | .textureCoordinate, 0 => some (I.input .generated)
  | .textureCoordinate, 1 => some (I.input .normal)
  | .textureCoordinate, 2 => some (I.input .uv)
  | .math, 4 => do
    return I.clamped (← input 1) (← I.math? (← label 0) (← input 2) (← input 3))
  | .vectorMath, 3 => do I.vectorMath? (← label 0) (← input 1) (← input 2)
  | .vectorMath, 4 => do I.vectorMeasure? (← label 0) (← input 1) (← input 2)
  | .mixRgb, 5 => do
    let color := ← input 3
    let blended ← I.blend? (← label 0) color (← input 4)
    return I.clamped (← input 1) (I.call .mix [color, blended, ← input 2])
  | .invert, 2 => do
    let color := ← input 1
    return I.call .mix [color, I.binary .sub (I.splat 1.0) color, ← input 0]
  | .separateRgb, 1 => (input 0).map fun color => I.swizzle color "x"
  | .separateRgb, 2 => (input 0).map fun color => I.swizzle color "y"
  | .separateRgb, 3 => (input 0).map fun color => I.swizzle color "z"
  | .combineRgb, 3 => do return I.construct .vec3 [← input 0, ← input 1, ← input 2]
  | .colorRamp, 2 => do return I.swizzle (I.call .sampleRamp [← input 0, ← input 1]) "xyz"
  | .colorRamp, 3 => do return I.swizzle (I.call .sampleRamp [← input 0, ← input 1]) "w"
  | .rgbCurves, 3 => do return I.call .rgbCurves [← input 0, ← input 2, ← input 1]
  | .vectorCurves, 3 => do return I.call .vectorCurves [← input 0, ← input 2, ← input 1]
  | .imageTexture, 3 => do
    return I.swizzle (← I.sample? (← label 1) (← input 0) (← input 2)) "xyz"
  | .imageTexture, 4 => do
    return I.swizzle (← I.sample? (← label 1) (← input 0) (← input 2)) "w"
  | .noiseTexture, 3 => do return I.call .noise [← input 0, ← input 1, ← input 2]
  | .noiseTexture, 4 => do return I.call .noiseColor [← input 0, ← input 1, ← input 2]
  | .checkerTexture, 5 => do return I.call .checker [← input 0, ← input 3]
  | .checkerTexture, 4 => do
    return I.call .mix [← input 2, ← input 1, I.call .checker [← input 0, ← input 3]]
  | _, _ => none

end Interpretation

/-- The label of the option selected in the enum slot at an index. -/
def Node.label? (node : Node) (index : Nat) : Option String := do
  let option ← (← node.value? index).asEnum?
  (← node.decl? index).options[option]?

namespace Graph

variable (g : Graph) (I : Interpretation V)

/-- The value of an input slot of a node of some type, given those of the output slots: what feeds
it, converted, or else the coordinate that it stands for, or else what is stored in it. -/
def inputValue? (output : SlotId → Option V) (type : NodeType) (slot : SlotId) : Option V :=
  match g.connection? slot with
  | some c => do
    let source := ← g.slotDecl? c.source
    let dest := ← g.slotDecl? slot
    return I.converted source.slotType dest.slotType (← output c.source)
  | none =>
    match implicitInput? type slot.index with
    | some which => some (I.input which)
    | none => ((g.slotValue? slot).bind SlotValue.parameter?).map I.constant

/-- The value of an output slot, by recursion along the connections, `depth` nodes deep at most. -/
def outputValue? : Nat → SlotId → Option V
  | 0, _ => none
  | depth + 1, slot => do
    let node ← g.node? slot.node
    I.output? node.type node.label?
      (fun index => g.inputValue? I (outputValue? depth) node.type ⟨slot.node, index⟩) slot.index

/-- Color and alpha at an output node, by recursion `depth` nodes deep at most. -/
def result? (depth : Nat) (output : NodeId) : Option (V × V) := do
  return (← g.inputValue? I (g.outputValue? I depth) .output ⟨output, 0⟩,
    ← g.inputValue? I (g.outputValue? I depth) .output ⟨output, 1⟩)

end Graph

end ShaderGraph
