import ShaderGraph.Program.Parameters

/-!
# Shader programs

A program is a list of statements, each binding a variable once, the parameters they read, the
expressions for color and alpha of the result, and the helpers that must be defined.
-/

set_option autoImplicit false

namespace ShaderGraph

/-- A variable bound to the value of an expression. -/
structure Statement where
  /-- The node for which the statement was made. -/
  node : NodeId
  name : String
  type : ShaderType
  expr : Expr

/-- A shader, independent of the language it will be written in. -/
structure Program where
  statements : List Statement
  parameters : ParameterTable
  /-- Color of the result. -/
  color : Expr
  /-- Alpha of the result. -/
  alpha : Expr
  /-- The helpers used, in declaration order. -/
  features : List Builtin

namespace Program

/-- All top-level expressions: those of the statements, then color and alpha. -/
def expressions (program : Program) : List Expr :=
  program.statements.map Statement.expr ++ [program.color, program.alpha]

/-- All expressions and the expressions inside them. -/
def parts (program : Program) : List Expr := program.expressions.flatMap Expr.parts

/-- Puts other parameter values into the program in place, if the table has the same layout; tells
whether it has. -/
def refresh (program : Program) (parameters : ParameterTable) : Bool × Program :=
  if program.parameters.sameLayout parameters then (true, { program with parameters })
  else (false, program)

/-- The program with other parameter values, if the table has the same layout. -/
def refresh? (program : Program) (parameters : ParameterTable) : Option Program :=
  let (fits, program) := program.refresh parameters
  if fits then some program else none

end Program

end ShaderGraph
