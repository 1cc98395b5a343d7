import ShaderGraph.Binary32.Shortest

/-!
# Decimal layouts

How a number is written out is a format's decision and is held in one record: which magnitudes are
written positionally, whether an exponent carries a plus sign, which of two equally near shortest
decimals is taken and how a NaN with its sign bit set is spelled. Whole numbers always keep `.0`.
-/

set_option autoImplicit false

namespace ShaderGraph.Binary32

/-- The decisions of one number format. -/
structure Layout where
  /-- Rule between two equally near shortest decimals. -/
  tie : Tie
  /-- Least and greatest power of ten of a leading digit written positionally; `none` is any. -/
  positional : Option (Int × Int)
  /-- Whether a positive exponent is written with a plus sign. -/
  plusSign : Bool
  /-- Whether a NaN shows its sign bit. -/
  signedNaN : Bool

namespace Layout

/-- Text of `digits * 10 ^ exponent` without an exponent, always with a decimal point. -/
def writePositional (d : Decimal) : String :=
  let digits := Nat.toDigits 10 d.digits
  let point := (digits.length : Int) + d.exponent
  if 0 ≤ d.exponent then
    String.ofList (digits ++ List.replicate d.exponent.toNat '0') ++ ".0"
  else if 0 < point then
    String.ofList (digits.take point.toNat) ++ "." ++ String.ofList (digits.drop point.toNat)
  else
    "0." ++ String.ofList (List.replicate (-point).toNat '0' ++ digits)

/-- Text of `digits * 10 ^ exponent` with one digit before the point and an exponent. -/
def writeScientific (plusSign : Bool) (d : Decimal) : String :=
  let digits := Nat.toDigits 10 d.digits
  let power := (digits.length : Int) + d.exponent - 1
  let fraction := digits.drop 1
  String.ofList (digits.take 1) ++ (if fraction.isEmpty then "" else "." ++ String.ofList fraction)
    ++ "e" ++ (if plusSign && decide (0 ≤ power) then "+" else "") ++ toString power

/-- Text of a positive decimal, positional or scientific as the layout asks. -/
def writeDecimal (layout : Layout) (d : Decimal) : String :=
  let power := ((Nat.toDigits 10 d.digits).length : Int) + d.exponent - 1
  match layout.positional with
  | none => writePositional d
  | some (least, greatest) =>
    if least ≤ power ∧ power ≤ greatest then writePositional d
    else writeScientific layout.plusSign d

/-- Text of a number. -/
def write (layout : Layout) (x : Binary32) : String :=
  if x.isNaN then (if layout.signedNaN && x.isNegative then "-NaN" else "NaN")
  else
    (if x.isNegative then "-" else "") ++
      if x.magnitude = 0 then "0.0"
      else if x.magnitude = infiniteMagnitude then "inf"
      else layout.writeDecimal (shortest layout.tie x.magnitude)

end Layout

end ShaderGraph.Binary32
