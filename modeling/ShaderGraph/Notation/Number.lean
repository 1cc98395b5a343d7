import ShaderGraph.Binary32.Reading
import ShaderGraph.Notation.Blank

/-!
# Numbers in object notation

Integers are decimal, hexadecimal, octal or binary, with underscores after the first digit and an
optional suffix that must be the integer type asked for. Decimals may leave out the digits on one
side of the point; an underscore may not follow the point. Infinities and NaN are words.
-/

set_option autoImplicit false

namespace ShaderGraph.Notation

/-- An integer type: its suffix and its bounds. -/
structure IntegerType where
  suffix : String
  least : Int
  greatest : Int

/-- The signed integers of a given width. -/
def IntegerType.signed (width : Nat) : IntegerType :=
  ⟨"i" ++ toString width, -(Nat.pow 2 (width - 1)), Nat.pow 2 (width - 1) - 1⟩

/-- The unsigned integers of a given width. -/
def IntegerType.unsigned (width : Nat) : IntegerType :=
  ⟨"u" ++ toString width, 0, Nat.pow 2 width - 1⟩

/-- All integer types that a suffix can name. -/
def IntegerType.all : List IntegerType :=
  [.signed 8, .signed 16, .signed 32, .signed 64, .unsigned 8, .unsigned 16, .unsigned 32,
   .unsigned 64]

/-- Whether a character can stand in an integer. -/
def isIntegerChar (c : Char) : Bool :=
  c.isDigit || ('a' ≤ c && c ≤ 'f') || ('A' ≤ c && c ≤ 'F') || c == '_'

/-- Value of a hexadecimal digit. -/
def hexDigit? (c : Char) : Option Nat :=
  if c.isDigit then some (c.toNat - '0'.toNat)
  else if 'a' ≤ c && c ≤ 'f' then some (c.toNat - 'a'.toNat + 10)
  else if 'A' ≤ c && c ≤ 'F' then some (c.toNat - 'A'.toNat + 10)
  else none

/-- Value of a run of digits below a base, underscores left out. -/
def digitsBelow (base : Nat) : Nat → List Char → Option Nat
  | value, [] => some value
  | value, c :: rest =>
    if c = '_' then digitsBelow base value rest
    else match hexDigit? c with
      | some digit => if digit < base then digitsBelow base (value * base + digit) rest else none
      | none => none

/-- The base announced at the front of an integer, and what follows it. -/
def baseAt : List Char → Nat × List Char
  | '0' :: 'b' :: rest => (2, rest)
  | '0' :: 'o' :: rest => (8, rest)
  | '0' :: 'x' :: rest => (16, rest)
  | text => (10, text)

/-- An integer without sign and suffix. -/
def unsignedDigits (text : List Char) : Option (Nat × List Char) :=
  let (base, text) := baseAt text
  let (digits, rest) := run isIntegerChar text
  if digits.isEmpty || digits.head? == some '_' then none
  else (digitsBelow base 0 digits).map fun value => (value, rest)

/-- The integer type whose suffix follows the digits at the front of a text. -/
def suffixAt? (text : List Char) : Option IntegerType :=
  let rest := text.dropWhile isIntegerChar
  IntegerType.all.find? fun type => (word type.suffix rest).isSome

/-- An integer within the bounds of a type, with that type's suffix if any. -/
def integer (type : IntegerType) (text : List Char) : Option (Int × List Char) := do
  let (negative, text) := Binary32.signAt text
  let suffix := suffixAt? text
  guard (suffix.all fun found => found.suffix == type.suffix)
  let (value, rest) ← unsignedDigits text
  let rest ← if suffix.isSome then word type.suffix rest else some rest
  let value : Int := if negative then -value else value
  guard (decide (type.least ≤ value) && decide (value ≤ type.greatest))
  return (value, rest)

/-- Whether a character can stand in a decimal. -/
def isDecimalChar (c : Char) : Bool :=
  c.isDigit || c == 'e' || c == 'E' || c == '.' || c == '+' || c == '-' || c == '_'

/-- A decimal without its underscores; none may come first or right after a point. -/
def withoutUnderscores : Bool → List Char → Option (List Char)
  | _, [] => some []
  | allowed, c :: rest =>
    if c = '_' then
      if allowed then withoutUnderscores allowed rest else none
    else
      let allowed :=
        if c = '.' then false else if c.isDigit || c == 'e' || c == 'E' then true else allowed
      (withoutUnderscores allowed rest).map (c :: ·)

/-- The words for numbers that have no digits. -/
def namedNumbers : List (String × Binary32) :=
  [("inf", .infinity), ("+inf", .infinity), ("-inf", -.infinity),
   ("NaN", .nan), ("+NaN", .nan), ("-NaN", -.nan)]

/-- The text after one of the suffixes of decimals, or the same text if none follows. -/
def decimalSuffix (suffixes : List String) (text : List Char) : Option (List Char) :=
  match ["f32", "f64"].find? fun suffix => (word suffix text).isSome with
  | some suffix => if suffixes.contains suffix then word suffix text else none
  | none => some text

/-- The word for a number without digits, with an optional suffix. -/
def namedNumber (suffixes : List String) (text : List Char) : Option (Binary32 × List Char) :=
  namedNumbers.findSome? fun (name, value) => do
    let rest ← fixed name text
    let rest ← decimalSuffix suffixes rest
    guard (!rest.head?.any Text.continuesIdentifier)
    return (value, rest)

/-- A decimal, with one of the given suffixes if any. -/
def decimal (suffixes : List String) (text : List Char) : Option (Binary32 × List Char) :=
  match namedNumber suffixes text with
  | some read => some read
  | none => do
    let (token, rest) := run isDecimalChar text
    let token ← withoutUnderscores false token
    let rest ← decimalSuffix suffixes rest
    let value ← Binary32.ofText? token
    return (value, rest)

/-- A single precision number. -/
def float (text : List Char) : Option (Binary32 × List Char) := decimal ["f32"] text

/-- The text after a number of any type. -/
def skipNumber (text : List Char) : Option (List Char) :=
  let unsigned := (Binary32.signAt text).2
  let decimals := (decimal ["f32", "f64"] text).map Prod.snd
  if (unsigned.takeWhile isIntegerChar).length < (unsigned.takeWhile isDecimalChar).length then
    decimals
  else
    let integers := IntegerType.all.findSome? fun type => (integer type text).map Prod.snd
    integers <|> decimals

end ShaderGraph.Notation
