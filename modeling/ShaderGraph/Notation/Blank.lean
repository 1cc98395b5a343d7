import ShaderGraph.Text.Identifier

/-!
# Blanks, symbols and words

What stands between the values of object notation: white space, line comments, nested block
comments, single symbols, commas, words and identifiers. A reader takes the rest of the text and
gives what follows; it gives nothing where the text is malformed.
-/

set_option autoImplicit false

namespace ShaderGraph.Notation

/-- Whether a character is white space between tokens. -/
def isBlank (c : Char) : Bool :=
  c == ' ' || c == '\t' || c == '\n' || c == '\r' || c == '\x0b' || c == '\x0c' ||
    c == '\u0085' || c == '\u200e' || c == '\u200f' || c == '\u2028' || c == '\u2029'

/-- Where a run of blanks stands. -/
inductive BlankState
  | between
  | lineComment
  /-- Inside block comments, `depth` of them around the next one. -/
  | blockComment (depth : Nat)

/-- The text after the blanks and comments at its front. -/
def skipFrom : BlankState → List Char → Option (List Char)
  | .between, [] => some []
  | .between, '/' :: '/' :: rest => skipFrom .lineComment rest
  | .between, '/' :: '*' :: rest => skipFrom (.blockComment 0) rest
  | .between, '/' :: _ => none
  | .between, c :: rest => if isBlank c then skipFrom .between rest else some (c :: rest)
  | .lineComment, [] => some []
  | .lineComment, c :: rest =>
    if c = '\n' then skipFrom .between rest else skipFrom .lineComment rest
  | .blockComment _, [] => none
  | .blockComment depth, '/' :: '*' :: rest => skipFrom (.blockComment (depth + 1)) rest
  | .blockComment depth, '*' :: '/' :: rest =>
    match depth with
    | 0 => skipFrom .between rest
    | depth + 1 => skipFrom (.blockComment depth) rest
  | .blockComment depth, _ :: rest => skipFrom (.blockComment depth) rest

/-- The text after the blanks and comments at its front. -/
def skipBlank (text : List Char) : Option (List Char) := skipFrom .between text

/-- The text after a symbol that must stand at its front. -/
def symbol (c : Char) : List Char → Option (List Char)
  | [] => none
  | d :: rest => if d = c then some rest else none

/-- The text after a fixed string at its front. -/
def fixed (expected : String) (text : List Char) : Option (List Char) :=
  if expected.toList.isPrefixOf text then some (text.drop expected.length) else none

/-- The text after a word at its front; a longer identifier is another word. -/
def word (expected : String) (text : List Char) : Option (List Char) :=
  (fixed expected text).filter fun rest => !rest.head?.any Text.continuesIdentifier

/-- Whether a comma follows, and the text after it and the blanks around it. -/
def comma (text : List Char) : Option (Bool × List Char) := do
  match ← skipBlank text with
  | ',' :: rest => return (true, ← skipBlank rest)
  | rest => return (false, rest)

/-- Whether a character may stand in an identifier marked as raw. -/
def continuesRaw (c : Char) : Bool :=
  Text.continuesIdentifier c || c == '.' || c == '+' || c == '-'

/-- The longest front of a text whose characters satisfy `p`, and the rest. -/
def run (p : Char → Bool) (text : List Char) : List Char × List Char :=
  (text.takeWhile p, text.dropWhile p)

/-- The identifier at the front; only one marked as raw may hold points, pluses and minuses. -/
def identifier (text : List Char) : Option (String × List Char) :=
  match text with
  | 'r' :: '"' :: _ => none
  | 'r' :: '#' :: rest =>
    let (name, rest) := run continuesRaw rest
    if name.isEmpty then none else some (String.ofList name, rest)
  | c :: _ =>
    if Text.startsIdentifier c then
      let (name, rest) := run Text.continuesIdentifier text
      if rest.head?.any continuesRaw then none else some (String.ofList name, rest)
    else none
  | [] => none

end ShaderGraph.Notation
