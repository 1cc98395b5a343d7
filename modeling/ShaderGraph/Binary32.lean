/-!
# Single precision numbers

A number is its 32 bits: one sign bit, eight exponent bits and 23 fraction bits. Comparison is
defined on the bits, so it can be reasoned about: a NaN compares with nothing, and the two zeros
are the same number although their bits differ. The four arithmetic operations are the machine's.
Decimal literals are rounded once, to the nearest number, ties to the even one.
-/

set_option autoImplicit false

namespace ShaderGraph

/-- A single precision number, identified with its bits. -/
structure Binary32 where
  /-- Sign, exponent and fraction, from the highest bit down. -/
  bits : UInt32
deriving DecidableEq, Inhabited

namespace Binary32

/-- The bits without the sign. -/
def magnitude (x : Binary32) : Nat := x.bits.toNat % 0x80000000

/-- Whether the sign bit is set, which it also is on `-0.0` and on some NaNs. -/
def isNegative (x : Binary32) : Bool := decide (0x80000000 ≤ x.bits.toNat)

/-- The magnitude of the infinities; every larger magnitude is a NaN. -/
def infiniteMagnitude : Nat := 0x7f800000

/-- Whether the bits stand for no number. -/
def isNaN (x : Binary32) : Bool := decide (infiniteMagnitude < x.magnitude)

/-- Whether the number is neither infinite nor a NaN. -/
def isFinite (x : Binary32) : Bool := decide (x.magnitude < infiniteMagnitude)

/-- Place of a number on the line of all numbers; both zeros have place `0`. -/
def place (x : Binary32) : Int :=
  if x.isNegative then -(x.magnitude : Int) else x.magnitude

/-- Numeric equality: `0.0` equals `-0.0`, and a NaN equals nothing. -/
def sameNumber (x y : Binary32) : Bool :=
  !x.isNaN && !y.isNaN && decide (x.place = y.place)

/-- Numeric order; a NaN is below nothing. -/
def lt (x y : Binary32) : Bool :=
  !x.isNaN && !y.isNaN && decide (x.place < y.place)

/-- Numeric order or equality; false of a NaN on either side. -/
def le (x y : Binary32) : Bool :=
  !x.isNaN && !y.isNaN && decide (x.place ≤ y.place)

/-- The number with the given sign and magnitude bits. -/
def ofMagnitude (negative : Bool) (magnitude : Nat) : Binary32 :=
  ⟨UInt32.ofNat (if negative then 0x80000000 + magnitude else magnitude)⟩

/-- Positive infinity. -/
def infinity : Binary32 := ofMagnitude false infiniteMagnitude

/-- The quiet NaN with an empty payload. -/
def nan : Binary32 := ofMagnitude false 0x7fc00000

/-- The same number with the sign bit flipped. -/
def neg (x : Binary32) : Binary32 := ofMagnitude (!x.isNegative) x.magnitude

/-- Magnitude bits of `num / den` rounded to nearest, ties to even; `den` must be positive. -/
def nearestMagnitude (num den : Nat) : Nat :=
  if num = 0 then 0 else
    let scaled (e : Int) : Nat × Nat := (num * Nat.pow 2 (-e).toNat, den * Nat.pow 2 e.toNat)
    let low := max ((num.log2 : Int) - den.log2 - 24) (-149)
    let e := if (scaled low).1 / (scaled low).2 < 0x1000000 then low else low + 1
    let (n, d) := scaled e
    let q := n / d
    let r := n % d
    let m := if d < 2 * r || (2 * r == d && q % 2 == 1) then q + 1 else q
    min ((e + 149).toNat * 0x800000 + m) infiniteMagnitude

/-- The number nearest to `num / den` with the given sign; `den` must be positive. -/
def ofRatio (negative : Bool) (num den : Nat) : Binary32 :=
  ofMagnitude negative (nearestMagnitude num den)

/-- The number nearest to `digits * 10 ^ exponent` with the given sign. -/
def ofDecimal (negative : Bool) (digits : Nat) (exponent : Int) : Binary32 :=
  let order := ((Nat.toDigits 10 digits).length : Int) + exponent
  if digits = 0 || order < -50 then ofMagnitude negative 0
  else if 50 < order then ofMagnitude negative infiniteMagnitude
  else ofRatio negative (digits * Nat.pow 10 exponent.toNat) (Nat.pow 10 (-exponent).toNat)

/-- A decimal literal stands for the nearest number. -/
instance : OfScientific Binary32 where
  ofScientific mantissa negativeExponent exponent :=
    ofDecimal false mantissa (if negativeExponent then -(exponent : Int) else exponent)

/-- The number nearest to a natural number. -/
def ofNat (n : Nat) : Binary32 := ofRatio false n 1

/-- The machine's view of the number. -/
def toFloat32 (x : Binary32) : Float32 := Float32.ofBits x.bits

/-- The bits of a machine number. -/
def ofFloat32 (x : Float32) : Binary32 := ⟨x.toBits⟩

/-- The sum, rounded once. -/
instance : Add Binary32 := ⟨fun x y => ofFloat32 (x.toFloat32 + y.toFloat32)⟩

/-- The difference, rounded once. -/
instance : Sub Binary32 := ⟨fun x y => ofFloat32 (x.toFloat32 - y.toFloat32)⟩

/-- The product, rounded once. -/
instance : Mul Binary32 := ⟨fun x y => ofFloat32 (x.toFloat32 * y.toFloat32)⟩

/-- The quotient, rounded once. -/
instance : Div Binary32 := ⟨fun x y => ofFloat32 (x.toFloat32 / y.toFloat32)⟩

/-- The number with the other sign. -/
instance : Neg Binary32 := ⟨neg⟩

/-- The number itself inside `[low, high]`, the nearer end outside; a NaN stays a NaN. -/
def clamp (x low high : Binary32) : Binary32 :=
  if x.lt low then low else if high.lt x then high else x

end Binary32

/-- Three numbers: a vector or an RGB color. -/
structure Vec3 where
  x : Binary32
  y : Binary32
  z : Binary32
deriving DecidableEq, Inhabited

/-- Four numbers: an RGBA color or one entry of a lookup table. -/
structure Vec4 where
  x : Binary32
  y : Binary32
  z : Binary32
  w : Binary32
deriving DecidableEq, Inhabited

namespace Vec3

/-- The components in order. -/
def toList (v : Vec3) : List Binary32 := [v.x, v.y, v.z]

/-- The vector with three equal components. -/
def splat (s : Binary32) : Vec3 := ⟨s, s, s⟩

/-- Numeric equality of every component. -/
def sameNumbers (v w : Vec3) : Bool :=
  v.x.sameNumber w.x && v.y.sameNumber w.y && v.z.sameNumber w.z

end Vec3

namespace Vec4

/-- The components in order. -/
def toList (v : Vec4) : List Binary32 := [v.x, v.y, v.z, v.w]

/-- Numeric equality of every component. -/
def sameNumbers (v w : Vec4) : Bool :=
  v.x.sameNumber w.x && v.y.sameNumber w.y && v.z.sameNumber w.z && v.w.sameNumber w.w

end Vec4

end ShaderGraph
