import ShaderGraph.Notation.Skip

/-!
# Whole texts

A text is any number of attributes, one value and nothing else, with blanks anywhere between.
-/

set_option autoImplicit false

namespace ShaderGraph.Notation

/-- The style with the attribute of a name added. -/
def Style.enable? (style : Style) : String → Option Style
  | "implicit_some" => some { style with implicitSome := true }
  | "unwrap_newtypes" => some { style with bareWrappers := true }
  | "unwrap_variant_newtypes" => some { style with bareContents := true }
  | "explicit_struct_names" => some { style with namedRecords := true }
  | _ => none

/-- The text after several fixed strings, each followed by blanks. -/
def fixedAll : List String → List Char → Option (List Char)
  | [], text => some text
  | expected :: rest, text => do fixedAll rest (← skipBlank (← fixed expected text))

/-- The names of one attribute, added to a style. -/
def attributeNames : Nat → Style → List Char → Option (Style × List Char)
  | 0, _, _ => none
  | fuel + 1, style, text => do
    let (name, text) ← identifier text
    let style ← style.enable? name
    let (separated, text) ← comma text
    if separated && text.head?.any Text.continuesIdentifier then attributeNames fuel style text
    else return (style, text)

/-- All attributes at the front of a text. -/
def attributes : Nat → Style → List Char → Option (Style × List Char)
  | 0, _, _ => none
  | fuel + 1, style, text =>
    if text.head? = some '#' then do
      let text ← fixedAll ["#", "!", "[", "enable", "("] text
      let (style, text) ← attributeNames (text.length + 1) style text
      attributes fuel style (← fixedAll [")", "]"] text)
    else some (style, text)

/-- The value that a whole text holds. -/
def readWhole {α : Type} (read : Reader α) (text : String) : Option α := do
  let text ← skipBlank text.toList
  let (style, text) ← attributes (text.length + 1) .plain text
  let (value, text) ← read ⟨style, nestingLimit⟩ text
  guard (← skipBlank text).isEmpty
  return value

end ShaderGraph.Notation
