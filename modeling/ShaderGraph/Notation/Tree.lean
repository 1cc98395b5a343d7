import ShaderGraph.Binary32.Layout
import ShaderGraph.Text.Quoted

/-!
# Writing object notation

Documents and settings are written as nested records, lists and tuples. Records and lists take one
line per entry, indented by four spaces; tuples and tagged values stay on their line. Numbers are
written positionally, never with an exponent.
-/

set_option autoImplicit false

namespace ShaderGraph.Notation

/-- A value in object notation. -/
inductive Tree
  /-- A number, a Boolean or an option, as it is written. -/
  | token (text : String)
  /-- Quoted text. -/
  | quoted (text : String)
  /-- Named fields, after the record's name if that is shown. -/
  | record (name : String) (fields : List (String × Tree))
  /-- Values of a fixed count. -/
  | tuple (items : List Tree)
  /-- Values of any count. -/
  | list (items : List Tree)
  /-- One value after a tag, or a wrapped value if the tag is empty. -/
  | tagged (tag : String) (content : Tree)

/-- How numbers are written: all digits, and the sign of a NaN. -/
def numberLayout : Binary32.Layout := ⟨.up, none, false, true⟩

namespace Tree

/-- A natural number. -/
def nat (n : Nat) : Tree := token (toString n)

/-- An integer. -/
def int (n : Int) : Tree := token (toString n)

/-- A number. -/
def float (x : Binary32) : Tree := token (numberLayout.write x)

/-- A Boolean. -/
def bool (b : Bool) : Tree := token (if b then "true" else "false")

/-- Text that may be absent. -/
def optional : Option String → Tree
  | none => token "None"
  | some text => tagged "Some" (quoted text)

/-- A new line at an indentation. -/
def newline (indent : Nat) : String := "\n" ++ String.ofList (List.replicate (4 * indent) ' ')

mutual

/-- Text of a value whose first line is indented by `indent` steps. -/
def write (indent : Nat) : Tree → String
  | token text => text
  | quoted text => Text.quoteDebug true text
  | record name fields =>
    name ++ "(" ++ writeFields (indent + 1) fields ++ newline indent ++ ")"
  | tuple items => "(" ++ ", ".intercalate (writeEach indent items) ++ ")"
  | list items =>
    if items.isEmpty then "[]"
    else "[" ++ String.join ((writeEach (indent + 1) items).map fun text =>
      newline (indent + 1) ++ text ++ ",") ++ newline indent ++ "]"
  | tagged tag content => tag ++ "(" ++ write indent content ++ ")"

/-- Texts of a list of values. -/
def writeEach (indent : Nat) : List Tree → List String
  | [] => []
  | item :: rest => write indent item :: writeEach indent rest

/-- Text of the fields of a record, each on a line of its own. -/
def writeFields (indent : Nat) : List (String × Tree) → String
  | [] => ""
  | (name, value) :: rest =>
    newline indent ++ name ++ ": " ++ write indent value ++ "," ++ writeFields indent rest

end

end Tree

end ShaderGraph.Notation
