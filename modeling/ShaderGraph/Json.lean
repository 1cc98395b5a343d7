import ShaderGraph.Binary32.Layout
import ShaderGraph.Program.Parameters
import ShaderGraph.Text.Quoted

/-!
# Parameter tables as JSON

Hosts that bind the parameters of a shader read them as JSON: one member per parameter, in table
order, with the slot it reads from and its value. Arrays and objects take one line per entry,
indented by two spaces. JSON has no word for a number that is not finite, so such a number is null.
-/

set_option autoImplicit false

namespace ShaderGraph

/-- A JSON value. -/
inductive Json
  /-- A number, a Boolean or null, as it is written. -/
  | token (text : String)
  /-- Quoted text. -/
  | quoted (text : String)
  | array (items : List Json)
  | object (members : List (String × Json))

namespace Json

/-- How numbers are written. -/
def numberLayout : Binary32.Layout := ⟨.even, some (-6, 12), true, false⟩

/-- A natural number. -/
def nat (n : Nat) : Json := token (toString n)

/-- A number. -/
def number (x : Binary32) : Json :=
  token (if x.isFinite then numberLayout.write x else "null")

/-- Text that may be absent. -/
def optional : Option String → Json
  | none => token "null"
  | some s => quoted s

/-- A new line at an indentation. -/
def newline (indent : Nat) : String := "\n" ++ String.ofList (List.replicate (2 * indent) ' ')

/-- Entries between brackets, each on a line of its own. -/
def enclose (start finish : String) (indent : Nat) (entries : List String) : String :=
  if entries.isEmpty then start ++ finish
  else
    start ++ ",".intercalate (entries.map (newline (indent + 1) ++ ·)) ++ newline indent ++ finish

mutual

/-- Text of a value whose first line is indented by `indent` steps. -/
def write (indent : Nat) : Json → String
  | token text => text
  | quoted text => Text.quoteTransfer text
  | array items => enclose "[" "]" indent (writeItems (indent + 1) items)
  | object members => enclose "\x7b" "\x7d" indent (writeMembers (indent + 1) members)

/-- Texts of the items of an array. -/
def writeItems (indent : Nat) : List Json → List String
  | [] => []
  | item :: rest => write indent item :: writeItems indent rest

/-- Texts of the members of an object. -/
def writeMembers (indent : Nat) : List (String × Json) → List String
  | [] => []
  | (name, value) :: rest =>
    (Text.quoteTransfer name ++ ": " ++ write indent value) :: writeMembers indent rest

end

end Json

/-- The value as JSON: an object whose only member is named for the kind of value. -/
def ParameterValue.json : ParameterValue → Json
  | bool v => .object [("Bool", .token (if v then "true" else "false"))]
  | int v => .object [("Int", .token (toString v.toInt))]
  | float v => .object [("Float", .number v)]
  | vec3 v => .object [("Vec3", .array (v.toList.map .number))]
  | lut entries =>
    .object [("Lut", .array (entries.map fun entry => .array (entry.toList.map .number)))]
  | image path => .object [("Image", .object [("path", .optional path)])]

/-- The parameter as JSON. -/
def Parameter.json (parameter : Parameter) : Json :=
  .object [
    ("slot", .object [("node", .nat parameter.slot.node), ("index", .nat parameter.slot.index)]),
    ("value", parameter.value.json)]

/-- The table as JSON. -/
def ParameterTable.json (table : ParameterTable) : Json :=
  .object (table.entries.map fun parameter => (parameter.name, parameter.json))

end ShaderGraph
