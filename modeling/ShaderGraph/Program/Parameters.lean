import ShaderGraph.Program.Expr

/-!
# Parameters

The values that can be edited without changing the statements live in a table of named parameters.
Two tables have the same layout when they bind the same names, in the same order, to the same
slots and kinds of value; then one can take the place of the other.
-/

set_option autoImplicit false

namespace ShaderGraph

/-- The value of a parameter. -/
inductive ParameterValue
  | bool (value : Bool)
  | int (value : Int32)
  | float (value : Binary32)
  | vec3 (value : Vec3)
  /-- A lookup table, bound as a texture of one row. -/
  | lut (entries : List Vec4)
  /-- An image, bound as a texture. -/
  | image (path : Option String)
deriving DecidableEq

namespace ParameterValue

/-- Type of a value in the parameter block; textures are not in it. -/
def uniformType? : ParameterValue → Option ShaderType
  | bool _ => some .bool
  | int _ => some .int
  | float _ => some .float
  | vec3 _ => some .vec3
  | lut _ | image _ => none

/-- Whether the value is bound as a texture. -/
def isTexture (value : ParameterValue) : Bool := value.uniformType?.isNone

/-- Whether two values are of one kind, whatever they hold. -/
def sameKind : ParameterValue → ParameterValue → Bool
  | bool _, bool _ | int _, int _ | float _, float _ | vec3 _, vec3 _ | lut _, lut _
  | image _, image _ => true
  | _, _ => false

end ParameterValue

/-- A named parameter and the slot it reads from. -/
structure Parameter where
  name : String
  slot : SlotId
  value : ParameterValue
deriving DecidableEq

/-- The parameters of a shader, each name once, in the order in which the names came. -/
structure ParameterTable where
  entries : List Parameter
deriving DecidableEq

namespace ParameterTable

/-- The table without parameters. -/
def empty : ParameterTable := ⟨[]⟩

/-- The parameter of a name. -/
def get? (table : ParameterTable) (name : String) : Option Parameter :=
  table.entries.find? fun p => p.name == name

/-- Whether there is a parameter of a name. -/
def contains (table : ParameterTable) (name : String) : Bool := (table.get? name).isSome

/-- The table with a parameter added, or put in the place of the one that has its name. -/
def insert (table : ParameterTable) (parameter : Parameter) : ParameterTable :=
  if table.contains parameter.name then
    ⟨table.entries.map fun p => if p.name == parameter.name then parameter else p⟩
  else ⟨table.entries ++ [parameter]⟩

/-- The names in table order. -/
def names (table : ParameterTable) : List String := table.entries.map Parameter.name

/-- Whether one table can take the place of the other. -/
def sameLayout (a b : ParameterTable) : Bool :=
  decide (a.entries.length = b.entries.length) &&
    (a.entries.zip b.entries).all fun (p, q) =>
      decide (p.name = q.name) && decide (p.slot = q.slot) && p.value.sameKind q.value

end ParameterTable

end ShaderGraph
