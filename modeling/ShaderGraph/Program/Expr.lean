import ShaderGraph.Slot

/-!
# Shader expressions

A small expression language that every shading language can spell. A parameter stands for an
editable value, a variable for the result of an earlier statement, an input for a coordinate of
the surface. Some functions are built into every language; the others are helpers, whose source a
dialect provides. Helpers may call others, so those that a program needs are searched for.
-/

set_option autoImplicit false

namespace ShaderGraph

/-- The type of a shader value. -/
inductive ShaderType
  | bool
  | int
  | float
  | vec3
  | vec4
deriving DecidableEq, Repr

/-- A coordinate of the shaded surface. -/
inductive ShaderInput
  /-- Object-space coordinates. -/
  | generated
  | normal
  /-- Texture coordinates. -/
  | uv
deriving DecidableEq, Repr

/-- A binary operator. -/
inductive BinaryOp
  | add
  | sub
  | mul
  | div
deriving DecidableEq, Repr

/-- The operator's token, the same in every language. -/
def BinaryOp.symbol : BinaryOp → String
  | add => "+"
  | sub => "-"
  | mul => "*"
  | div => "/"

/-- A function that expressions can call. -/
inductive Builtin
  | pow
  | min
  | max
  | sin
  | cos
  | abs
  /-- Clamps to `[0, 1]`. -/
  | saturate
  /-- Blends two vectors by a factor. -/
  | mix
  | cross
  | dot
  | normalize
  | length
  /-- Brightness of a color. -/
  | luminance
  /-- Mean of the components of a vector. -/
  | average
  /-- Fractal noise. -/
  | noise
  /-- Three independent channels of noise. -/
  | noiseColor
  /-- Mask of a checkerboard. -/
  | checker
  /-- Entry of a lookup table. -/
  | sampleRamp
  /-- Color curves held in a lookup table. -/
  | rgbCurves
  /-- Vector curves held in a lookup table. -/
  | vectorCurves
  /-- Image with a smooth filter. -/
  | imageLinear
  /-- Image without a filter. -/
  | imageClosest
deriving DecidableEq, Repr

namespace Builtin

/-- All functions, in declaration order: every helper comes after those it calls. -/
def all : List Builtin :=
  [pow, min, max, sin, cos, abs, saturate, mix, cross, dot, normalize, length, luminance, average,
   noise, noiseColor, checker, sampleRamp, rgbCurves, vectorCurves, imageLinear, imageClosest]

/-- Whether a dialect has to provide the function's source. -/
def isHelper : Builtin → Bool
  | luminance | average | noise | noiseColor | checker | sampleRamp | rgbCurves | vectorCurves
  | imageLinear | imageClosest => true
  | _ => false

/-- The helpers that a helper calls. -/
def dependencies : Builtin → List Builtin
  | noiseColor => [noise]
  | rgbCurves | vectorCurves => [sampleRamp]
  | _ => []

/-- Whether the first argument must be a texture. -/
def takesTexture : Builtin → Bool
  | sampleRamp | rgbCurves | vectorCurves | imageLinear | imageClosest => true
  | _ => false

/-- The function's name in source text. -/
def functionName : Builtin → String
  | pow => "pow"
  | min => "min"
  | max => "max"
  | sin => "sin"
  | cos => "cos"
  | abs => "abs"
  | saturate => "saturate"
  | mix => "mix"
  | cross => "cross"
  | dot => "dot"
  | normalize => "normalize"
  | length => "length"
  | luminance => "ns_luminance"
  | average => "ns_average"
  | noise => "ns_noise"
  | noiseColor => "ns_noise_color"
  | checker => "ns_checker"
  | sampleRamp => "ns_sample_ramp"
  | rgbCurves => "ns_rgb_curves"
  | vectorCurves => "ns_vector_curves"
  | imageLinear => "ns_image_linear"
  | imageClosest => "ns_image_closest"

/-- Puts a function to those needed and to those pending, unless it is needed already. -/
def require (state : List Builtin × List Builtin) (f : Builtin) : List Builtin × List Builtin :=
  let (needed, pending) := state
  if needed.contains f then (needed, pending) else (f :: needed, f :: pending)

/-- The functions needed after those pending have required what they call, one after the other, the
one that was put there last first; `steps` of them at most. -/
def expand : Nat → List Builtin × List Builtin → List Builtin
  | 0, (needed, _) => needed
  | _ + 1, (needed, []) => needed
  | steps + 1, (needed, f :: pending) =>
    expand steps (f.dependencies.foldl require (needed, pending))

/-- The helpers among `called`, and those that these call in turn, in declaration order. -/
def closure (called : List Builtin) : List Builtin :=
  let helpers := all.filter fun f => f.isHelper && called.contains f
  let needed := expand all.length (helpers, helpers.reverse)
  all.filter needed.contains

end Builtin

/-- A shader expression. -/
inductive Expr
  | bool (value : Bool)
  | int (value : Int32)
  | float (value : Binary32)
  /-- An entry of the parameter table. -/
  | param (name : String)
  /-- The result of an earlier statement. -/
  | var (name : String)
  | input (which : ShaderInput)
  /-- A vector made of its components. -/
  | construct (type : ShaderType) (args : List Expr)
  /-- A conversion; a number converted to a vector fills all components. -/
  | convert (type : ShaderType) (expr : Expr)
  /-- The named components of a vector. -/
  | swizzle (expr : Expr) (components : String)
  | binary (op : BinaryOp) (lhs rhs : Expr)
  | call (function : Builtin) (args : List Expr)
  | select (cond onTrue onFalse : Expr)
deriving Inhabited

namespace Expr

/-- The vector with three equal components. -/
def splat (value : Binary32) : Expr := convert .vec3 (float value)

mutual

/-- The expression and all expressions inside it, each before those inside it. -/
def parts : Expr → List Expr
  | bool v => [bool v]
  | int v => [int v]
  | float v => [float v]
  | param name => [param name]
  | var name => [var name]
  | input which => [input which]
  | construct type args => construct type args :: partsOfAll args
  | convert type expr => convert type expr :: expr.parts
  | swizzle expr components => swizzle expr components :: expr.parts
  | binary op lhs rhs => binary op lhs rhs :: (lhs.parts ++ rhs.parts)
  | call function args => call function args :: partsOfAll args
  | select cond onTrue onFalse =>
    select cond onTrue onFalse :: (cond.parts ++ onTrue.parts ++ onFalse.parts)

/-- The parts of all expressions of a list. -/
def partsOfAll : List Expr → List Expr
  | [] => []
  | expr :: rest => expr.parts ++ partsOfAll rest

end

/-- The function called at the top of an expression. -/
def called? : Expr → Option Builtin
  | call function _ => some function
  | _ => none

end Expr

end ShaderGraph
