import ShaderGraph.Notation.Number
import ShaderGraph.Text.Utf8

/-!
# Quoted text in object notation

Text stands between double quotes, with escapes for quotes, controls and code points, or between
raw quotes, where nothing is escaped. Byte escapes may build up one character from its encoding.
Characters and byte strings occur only where values are skipped.
-/

set_option autoImplicit false

namespace ShaderGraph.Notation

/-- Two hexadecimal digits. -/
def hexByte : List Char → Option (Nat × List Char)
  | a :: b :: rest => do
    let high ← hexDigit? a
    let low ← hexDigit? b
    return (16 * high + low, rest)
  | _ => none

/-- The character whose encoding is exactly the given bytes. -/
def encodedChar? (bytes : List Nat) : Option Char :=
  match Text.Utf8.decode ⟨(bytes.map UInt8.ofNat).toArray⟩ with
  | .ok text =>
    match text.toList with
    | [c] => some c
    | _ => none
  | .error _ => none

/-- A character built from byte escapes; `bytes` are read, `more` may follow. -/
def joinedBytes : Nat → List Nat → List Char → Option (Char × List Char)
  | more, bytes, text =>
    match encodedChar? bytes with
    | some c => some (c, text)
    | none =>
      match more with
      | 0 => none
      | more + 1 => do
        let text ← symbol 'x' (← symbol '\\' text)
        let (byte, text) ← hexByte text
        joinedBytes more (bytes ++ [byte]) text

/-- A code point of one to six hexadecimal digits, up to its closing brace. -/
def codePoint : Nat → Bool → Nat → List Char → Option (Char × List Char)
  | _, _, _, [] => none
  | left, any, value, c :: rest =>
    if c = '\x7d' then
      if any && (value < 0xd800 || (0xdfff < value && value < 0x110000)) then
        some (Char.ofNat value, rest)
      else none
    else match left with
      | 0 => none
      | left + 1 => do codePoint left true (16 * value + (← hexDigit? c)) rest

/-- What an escape may stand for. -/
inductive EscapeUse
  /-- A character of a text, which byte escapes may build together. -/
  | text
  /-- A single character. -/
  | char
  /-- A byte. -/
  | byte
deriving DecidableEq

/-- The character that an escape stands for, after its backslash. -/
def escape (use : EscapeUse) : List Char → Option (Char × List Char)
  | [] => none
  | c :: rest =>
    match c with
    | '\'' | '"' | '\\' => some (c, rest)
    | 'n' => some ('\n', rest)
    | 'r' => some ('\r', rest)
    | 't' => some ('\t', rest)
    | '0' => some ('\x00', rest)
    | 'x' => do
      let (byte, rest) ← hexByte rest
      match use with
      | .byte => return (Char.ofNat byte, rest)
      | .char => joinedBytes 0 [byte] rest
      | .text => joinedBytes 3 [byte] rest
    | 'u' => do codePoint 6 false 0 (← symbol '\x7b' rest)
    | _ => none

/-- The characters up to the closing quote; each of the `fuel` steps reads one. -/
def escapedChars (use : EscapeUse) : Nat → List Char → Option (List Char × List Char)
  | 0, _ => none
  | _ + 1, [] => none
  | fuel + 1, c :: rest =>
    if c = '"' then some ([], rest)
    else if c = '\\' then do
      let (c, rest) ← escape use rest
      let (chars, rest) ← escapedChars use fuel rest
      return (c :: chars, rest)
    else do
      let (chars, rest) ← escapedChars use fuel rest
      return (c :: chars, rest)

/-- The characters before the first occurrence of `ending`, and the text after it. -/
def charsUntil (ending : List Char) : List Char → Option (List Char × List Char)
  | [] => none
  | c :: rest =>
    if ending.isPrefixOf (c :: rest) then some ([], (c :: rest).drop ending.length)
    else do
      let (chars, rest) ← charsUntil ending rest
      return (c :: chars, rest)

/-- Raw text after its `r`: hashes, a quote, anything, the quote and as many hashes again. -/
def rawChars (text : List Char) : Option (List Char × List Char) := do
  let (hashes, rest) := run (· == '#') text
  charsUntil ('"' :: hashes) (← symbol '"' rest)

/-- Quoted text, escaped or raw. -/
def string : List Char → Option (String × List Char)
  | '"' :: rest => do
    let (chars, rest) ← escapedChars .text (rest.length + 1) rest
    return (String.ofList chars, rest)
  | 'r' :: rest => do
    let (chars, rest) ← rawChars rest
    return (String.ofList chars, rest)
  | _ => none

/-- The text after a character between single quotes, in which an escape stands for `use`. -/
def skipChar (use : EscapeUse) (text : List Char) : Option (List Char) := do
  match ← symbol '\'' text with
  | [] => none
  | '\\' :: rest =>
    let (_, rest) ← escape use rest
    symbol '\'' rest
  | _ :: rest => symbol '\'' rest

/-- The text after a byte string, escaped or raw, from its `b` on. -/
def skipByteString : List Char → Option (List Char)
  | 'b' :: '"' :: rest => (escapedChars .byte (rest.length + 1) rest).map Prod.snd
  | 'b' :: 'r' :: rest => (rawChars rest).map Prod.snd
  | _ => none

/-- The text after a byte or a byte string, from its `b` on. -/
def skipBytes : List Char → Option (List Char)
  | 'b' :: '\'' :: '\\' :: 'u' :: _ => none
  | 'b' :: '\'' :: c :: rest =>
    if c.toNat < 0x80 then skipChar .byte ('\'' :: c :: rest) else none
  | text => skipByteString text

end ShaderGraph.Notation
