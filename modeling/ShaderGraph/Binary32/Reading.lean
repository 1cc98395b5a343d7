import ShaderGraph.Binary32

/-!
# Reading decimals

A decimal is an optional sign, digits with at most one point among or around them, and an optional
exponent. There must be a digit before the exponent, and the whole text must be used. The value is
rounded once, straight to single precision.
-/

set_option autoImplicit false

namespace ShaderGraph.Binary32

/-- The longest run of decimal digits at the front, and what follows it. -/
def digitRun (text : List Char) : List Char × List Char :=
  (text.takeWhile Char.isDigit, text.dropWhile Char.isDigit)

/-- Value of a run of decimal digits. -/
def digitsValue (digits : List Char) : Nat :=
  digits.foldl (fun value c => value * 10 + (c.toNat - '0'.toNat)) 0

/-- An optional sign: whether it was a minus, and what follows it. -/
def signAt : List Char → Bool × List Char
  | '-' :: rest => (true, rest)
  | '+' :: rest => (false, rest)
  | text => (false, text)

/-- The power of ten that ends a decimal: nothing, or `e` with a signed run of digits. -/
def exponentOf? : List Char → Option Int
  | [] => some 0
  | c :: text =>
    if c = 'e' ∨ c = 'E' then
      let (negative, text) := signAt text
      let (digits, rest) := digitRun text
      if digits.isEmpty || !rest.isEmpty then none
      else some (if negative then -(digitsValue digits : Int) else digitsValue digits)
    else none

/-- The number written by a whole decimal text. -/
def ofText? (text : List Char) : Option Binary32 :=
  let (negative, text) := signAt text
  let (whole, rest) := digitRun text
  let (fraction, rest) := match rest with
    | '.' :: rest => digitRun rest
    | rest => ([], rest)
  if whole.isEmpty && fraction.isEmpty then none
  else (exponentOf? rest).map fun power =>
    ofDecimal negative (digitsValue (whole ++ fraction)) (power - fraction.length)

end ShaderGraph.Binary32
