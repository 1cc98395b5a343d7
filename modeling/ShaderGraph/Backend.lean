import ShaderGraph.Dialect.Wgsl
import ShaderGraph.Dialect.Glsl

/-!
# Backends

The shading languages that a program can be written in, by name. Names are matched without regard
to the case of ASCII letters.
-/

set_option autoImplicit false

namespace ShaderGraph

/-- A shading language to write in. -/
inductive Backend
  | wgsl
  | glsl
deriving DecidableEq, Repr, Inhabited

namespace Backend

/-- All backends. -/
def all : List Backend := [wgsl, glsl]

/-- How the language is written. -/
def dialect : Backend → Dialect
  | wgsl => Wgsl.dialect
  | glsl => Glsl.dialect

/-- Name of the backend. -/
def name : Backend → String
  | wgsl => "wgsl"
  | glsl => "glsl"

/-- Extension of emitted files, without the dot. -/
def fileExtension (backend : Backend) : String := backend.dialect.fileExtension

/-- The backend of a name, in any letter case. -/
def ofName? (name : String) : Option Backend :=
  all.find? fun backend => backend.name.toList == name.toList.map Char.toLower

/-- The source text of a program. -/
def emit (backend : Backend) (program : Program) : Except EmitError String :=
  backend.dialect.emit program

end Backend

end ShaderGraph
