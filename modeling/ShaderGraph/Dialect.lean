import ShaderGraph.Binary32.Layout
import ShaderGraph.Program

/-!
# Writing a program in a shading language

A dialect says how one shading language spells types, parameters, inputs, conditionals, calls,
resources and helpers. From that the source text of any program follows. Every call of a function
that reads a texture must name a texture parameter first, and every parameter must be in the
program's table; the text does not depend on the values of the parameters.
-/

set_option autoImplicit false

namespace ShaderGraph

/-- Why no source text could be written. -/
inductive EmitError
  | unknownParameter (name : String)
  | parameterKind (name : String)
deriving DecidableEq, Repr

/-- The error in words. -/
def EmitError.message : EmitError → String
  | unknownParameter name => s!"Unknown parameter: {name}"
  | parameterKind name => s!"Parameter {name} has the wrong kind for its use"

/-- How numbers are written in source text: as literals of a decimal type, never integers. -/
def literalLayout : Binary32.Layout := ⟨.up, some (-4, 15), false, false⟩

/-- Lines of a braced block: its head, its body one step in, and what closes it. -/
def block (head : String) (body : List String) (close : String) : List String :=
  (head ++ " \x7b") :: (body.map ("    " ++ ·) ++ ["\x7d" ++ close])

/-- What a shader binds besides its inputs. -/
inductive Resource
  /-- The block that holds all parameters that are not textures. -/
  | uniforms (members : List Parameter)
  | sampler (name : String)
  | texture (parameter : Parameter)
deriving DecidableEq

/-- The spelling of one shading language. -/
structure Dialect where
  name : String
  /-- Extension of source files, without the dot. -/
  fileExtension : String
  /-- Name of a type, which also constructs its values. -/
  typeName : ShaderType → String
  /-- Access to a parameter. -/
  parameter : Parameter → String
  /-- Access to a coordinate of the surface. -/
  input : ShaderInput → String
  /-- A conditional value, from the condition and the values when true and when false. -/
  select : String → String → String → String
  /-- A call with all its arguments. -/
  call : Builtin → List String → String
  /-- The samplers that texture parameters need. -/
  samplers : List String
  /-- The lines that declare a resource at a binding number. -/
  declare : Nat → Resource → List String
  /-- The lines before the resources. -/
  opening : List String
  /-- The lines between the resources and the helpers. -/
  interface : List String
  /-- The lines that define a helper. -/
  helper : Builtin → List String
  /-- Head of the main function. -/
  mainHead : List String × String
  /-- The line of a statement, from variable, type and value. -/
  statement : String → ShaderType → String → String
  /-- The line of the result, from color and alpha. -/
  result : String → String → String

namespace Dialect

mutual

/-- Text of an expression over a parameter table. -/
def writeExpr (d : Dialect) (table : ParameterTable) : Expr → Except EmitError String
  | .bool v => .ok (if v then "true" else "false")
  | .int v => .ok (if v < 0 then "(" ++ toString v.toInt ++ ")" else toString v.toInt)
  | .float v => .ok (literalLayout.write v)
  | .param name =>
    match table.get? name with
    | some parameter => .ok (d.parameter parameter)
    | none => .error (.unknownParameter name)
  | .var name => .ok name
  | .input which => .ok (d.input which)
  | .construct type args => do
    let args ← writeExprs d table args
    return d.typeName type ++ "(" ++ ", ".intercalate args ++ ")"
  | .convert type expr => do
    let expr ← writeExpr d table expr
    return d.typeName type ++ "(" ++ expr ++ ")"
  | .swizzle expr components => do
    let expr ← writeExpr d table expr
    return expr ++ "." ++ components
  | .binary op lhs rhs => do
    let lhs ← writeExpr d table lhs
    let rhs ← writeExpr d table rhs
    return "(" ++ lhs ++ " " ++ op.symbol ++ " " ++ rhs ++ ")"
  | .call function args => do
    let args ← writeExprs d table args
    return d.call function args
  | .select cond onTrue onFalse => do
    let cond ← writeExpr d table cond
    let onTrue ← writeExpr d table onTrue
    let onFalse ← writeExpr d table onFalse
    return d.select cond onTrue onFalse

/-- Texts of a list of expressions. -/
def writeExprs (d : Dialect) (table : ParameterTable) : List Expr → Except EmitError (List String)
  | [] => .ok []
  | expr :: rest => do
    let text ← writeExpr d table expr
    let texts ← writeExprs d table rest
    return text :: texts

end

end Dialect

/-- What is wrong with the texture argument of a call, if the expression is one. -/
def Expr.textureFault? (table : ParameterTable) : Expr → Option EmitError
  | .call function args =>
    if !function.takesTexture then none
    else match args.head? with
      | some (.param name) =>
        match table.get? name with
        | some parameter =>
          if parameter.value.isTexture then none else some (.parameterKind name)
        | none => some (.unknownParameter name)
      | _ => some (.parameterKind function.functionName)
  | _ => none

/-- The first wrong texture argument of a program. -/
def Program.textureFault? (program : Program) : Option EmitError :=
  program.parts.findSome? (Expr.textureFault? program.parameters)

namespace Dialect

/-- Declares a resource behind the lines so far, under the number that is next. -/
def bind (d : Dialect) (state : List String × Nat) (resource : Resource) : List String × Nat :=
  let (lines, binding) := state
  (lines ++ d.declare binding resource, binding + 1)

/-- The lines that declare all resources, numbered from `0` in the order they are declared in: the
block of the uniforms, if there are any, and the samplers and textures, if there are textures. -/
def resourceLines (d : Dialect) (table : ParameterTable) : List String :=
  let textures := table.entries.filter fun p => p.value.isTexture
  let uniforms := table.entries.filter fun p => !p.value.isTexture
  let state := ([], 0)
  let state := if uniforms.isEmpty then state else d.bind state (.uniforms uniforms)
  let state :=
    if textures.isEmpty then state
    else
      let state := d.samplers.foldl (fun state name => d.bind state (.sampler name)) state
      textures.foldl (fun state p => d.bind state (.texture p)) state
  state.1

/-- The lines that define helpers, an empty line before each. -/
def helperLines (d : Dialect) (features : List Builtin) : List String :=
  (features.filter Builtin.isHelper).flatMap fun function => "" :: d.helper function

/-- The line of a statement. -/
def statementLine (d : Dialect) (table : ParameterTable) (s : Statement) :
    Except EmitError String :=
  (d.writeExpr table s.expr).map (d.statement s.name s.type)

/-- The lines of the main function. -/
def mainLines (d : Dialect) (program : Program) : Except EmitError (List String) := do
  let statements ← program.statements.mapM (d.statementLine program.parameters)
  let color ← d.writeExpr program.parameters program.color
  let alpha ← d.writeExpr program.parameters program.alpha
  let (attributes, head) := d.mainHead
  return attributes ++ block head (statements ++ [d.result color alpha]) ""

/-- The source text of a program. -/
def emit (d : Dialect) (program : Program) : Except EmitError String :=
  match program.textureFault? with
  | some fault => .error fault
  | none => do
    let main ← d.mainLines program
    let lines := d.opening ++ d.resourceLines program.parameters ++ d.interface ++
      d.helperLines program.features ++ "" :: main
    return String.join (lines.map (· ++ "\n"))

end Dialect

end ShaderGraph
