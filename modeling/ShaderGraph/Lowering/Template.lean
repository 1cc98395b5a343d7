import ShaderGraph.NodeType
import ShaderGraph.Program

/-!
# Statement templates

The statements of a node follow from its type, its selected options and the expressions of its
input slots, which come in slot order. Every output slot is bound to one variable; a few nodes bind
an intermediate value first.
-/

set_option autoImplicit false

namespace ShaderGraph

/-- Name of the parameter that holds the value of an unconnected input slot. -/
def paramName (slot : SlotId) : String :=
  "p_" ++ NodeId.label slot.node ++ "_" ++ toString slot.index

/-- Name of the variable that holds the value of an output slot. -/
def varName (slot : SlotId) : String :=
  "v_" ++ NodeId.label slot.node ++ "_" ++ toString slot.index

/-- Name of a variable that holds an intermediate value of a node. -/
def tempName (node : NodeId) (tag : String) : String := "t_" ++ NodeId.label node ++ "_" ++ tag

namespace Template

/-- Binds an output slot. -/
def output (node : NodeId) (index : Nat) (type : ShaderType) (expr : Expr) : Statement :=
  ⟨node, varName ⟨node, index⟩, type, expr⟩

/-- Binds an intermediate value. -/
def temp (node : NodeId) (tag : String) (type : ShaderType) (expr : Expr) : Statement :=
  ⟨node, tempName node tag, type, expr⟩

/-- Binds a value and then an output to it, clamped to `[0, 1]` where `clamp` holds. -/
def clamped (node : NodeId) (index : Nat) (type : ShaderType) (clamp value : Expr) :
    List Statement :=
  let raw := Expr.var (tempName node "raw")
  [temp node "raw" type value,
   output node index type (.select clamp (.call .saturate [raw]) raw)]

/-- Binds a four-component sample, its color to one output and its alpha to the next. -/
def sampled (node : NodeId) (index : Nat) (tag : String) (sample : Expr) : List Statement :=
  let var := Expr.var (tempName node tag)
  [temp node tag .vec4 sample,
   output node index .vec3 (.swizzle var "xyz"),
   output node (index + 1) .float (.swizzle var "w")]

/-- The value of a math node. -/
def math (operation : Nat) (a b : Expr) : Expr :=
  match operation with
  | 1 => .binary .sub a b
  | 2 => .binary .mul a b
  | 3 => .binary .div a b
  | 4 => .call .pow [a, b]
  | 5 => .call .min [a, b]
  | 6 => .call .max [a, b]
  | 7 => .call .sin [a]
  | 8 => .call .cos [a]
  | 9 => .call .abs [a]
  | _ => .binary .add a b

/-- The vector and the number of a vector math node; the one that is not asked for is zero. -/
def vectorMath (operation : Nat) (a b : Expr) : Expr × Expr :=
  match operation with
  | 1 => (.binary .sub a b, .float 0.0)
  | 2 => (.binary .mul a b, .float 0.0)
  | 3 => (.call .cross [a, b], .float 0.0)
  | 4 => (.splat 0.0, .call .dot [a, b])
  | 5 => (.call .normalize [a], .float 0.0)
  | 6 => (.splat 0.0, .call .length [a])
  | _ => (.binary .add a b, .float 0.0)

/-- The second color of a mixing node after its blend mode. -/
def blended (mode : Nat) (a b : Expr) : Expr :=
  match mode with
  | 1 => .binary .add a b
  | 2 => .binary .mul a b
  | 3 => .binary .sub (.splat 1.0)
      (.binary .mul (.binary .sub (.splat 1.0) a) (.binary .sub (.splat 1.0) b))
  | 4 => .binary .sub a b
  | 5 => .call .abs [.binary .sub a b]
  | _ => b

/-- The statements of a node. -/
def statements (node : NodeId) (type : NodeType) (option : Nat → Nat) (inputs : List Expr) :
    List Statement :=
  match type, inputs with
  | .value, [value] => [output node 1 .float value]
  | .rgb, [value] | .vector, [value] => [output node 1 .vec3 value]
  | .textureCoordinate, [] =>
    [output node 0 .vec3 (.input .generated), output node 1 .vec3 (.input .normal),
     output node 2 .vec3 (.input .uv)]
  | .math, [_, clamp, a, b] => clamped node 4 .float clamp (math (option 0) a b)
  | .vectorMath, [_, a, b] =>
    let (vector, value) := vectorMath (option 0) a b
    [output node 3 .vec3 vector, output node 4 .float value]
  | .mixRgb, [_, clamp, fac, a, b] =>
    clamped node 5 .vec3 clamp (.call .mix [a, blended (option 0) a b, fac])
  | .invert, [fac, color] =>
    [output node 2 .vec3 (.call .mix [color, .binary .sub (.splat 1.0) color, fac])]
  | .separateRgb, [color] =>
    [output node 1 .float (.swizzle color "x"), output node 2 .float (.swizzle color "y"),
     output node 3 .float (.swizzle color "z")]
  | .combineRgb, [r, g, b] => [output node 3 .vec3 (.construct .vec3 [r, g, b])]
  | .colorRamp, [lut, fac] => sampled node 2 "ramp" (.call .sampleRamp [lut, fac])
  | .rgbCurves, [lut, fac, color] => [output node 3 .vec3 (.call .rgbCurves [lut, color, fac])]
  | .vectorCurves, [lut, fac, vector] =>
    [output node 3 .vec3 (.call .vectorCurves [lut, vector, fac])]
  | .imageTexture, [image, _, uv] =>
    let filter := if option 1 = 1 then Builtin.imageClosest else .imageLinear
    sampled node 3 "sample" (.call filter [image, uv])
  | .noiseTexture, [position, scale, octaves] =>
    [output node 3 .float (.call .noise [position, scale, octaves]),
     output node 4 .vec3 (.call .noiseColor [position, scale, octaves])]
  | .checkerTexture, [position, color1, color2, scale] =>
    [output node 5 .float (.call .checker [position, scale]),
     output node 4 .vec3 (.call .mix [color2, color1, .var (varName ⟨node, 5⟩)])]
  | _, _ => []

end Template

end ShaderGraph
