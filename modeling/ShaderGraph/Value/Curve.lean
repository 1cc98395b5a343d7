import ShaderGraph.Value.Fault
import ShaderGraph.Value.Sampling

/-!
# Curves

A curve runs straight from each control point to the next and is level outside them. It is well
formed when it has two points or more, all finite, each strictly right of the one before. Colors
are curved channel by channel after one curve common to all channels; vectors axis by axis.
-/

set_option autoImplicit false

namespace ShaderGraph

/-- A control point of a curve. -/
structure CurvePoint where
  x : Binary32
  y : Binary32
deriving DecidableEq

/-- A piecewise straight curve through control points. -/
structure Curve where
  points : List CurvePoint
deriving DecidableEq

/-- Curves applied to the channels of a color, after a curve common to all of them. -/
structure ColorCurves where
  combined : Curve
  red : Curve
  green : Curve
  blue : Curve
deriving DecidableEq

/-- Curves applied to the axes of a vector. -/
structure VectorCurves where
  x : Curve
  y : Curve
  z : Curve
deriving DecidableEq

namespace Curve

/-- The curve that leaves every number of `[low, high]` as it is. -/
def identity (low high : Binary32) : Curve := ⟨[⟨low, low⟩, ⟨high, high⟩]⟩

/-- What is wrong with a curve, if anything. -/
def fault? (curve : Curve) : Option ValueFault :=
  if curve.points.length < 2 then some .curveTooShort
  else if curve.points.any fun p => !p.x.isFinite || !p.y.isFinite then some .notFinite
  else if (neighbours curve.points).any fun (a, b) => b.x.le a.x then some .curveOrder
  else none

/-- The height at `x` on the first segment that ends right of it, or `otherwise` if none does. -/
def heightAfter (x otherwise : Binary32) (left : CurvePoint) : List CurvePoint → Binary32
  | [] => otherwise
  | right :: rest =>
    if x.lt right.x then
      left.y + (right.y - left.y) * ((x - left.x) / (right.x - left.x))
    else heightAfter x otherwise right rest

/-- The height at `x`; a curve without points leaves `x` as it is. -/
def evaluate (curve : Curve) (x : Binary32) : Binary32 :=
  match curve.points with
  | [] => x
  | first :: rest =>
    let last := (first :: rest).getLast (List.cons_ne_nil first rest)
    if x.le first.x then first.y
    else if last.x.le x then last.y
    else heightAfter x last.y first rest

/-- Numerically equal points. -/
def sameNumbers (a b : Curve) : Bool :=
  decide (a.points.length = b.points.length) &&
    (a.points.zip b.points).all fun (p, q) => p.x.sameNumber q.x && p.y.sameNumber q.y

end Curve

namespace ColorCurves

/-- Curves that leave every color as it is. -/
def identity : ColorCurves :=
  let curve := Curve.identity 0.0 1.0
  ⟨curve, curve, curve, curve⟩

/-- The four curves, the common one first. -/
def curves (c : ColorCurves) : List Curve := [c.combined, c.red, c.green, c.blue]

/-- What is wrong with the first malformed curve, if one is. -/
def fault? (c : ColorCurves) : Option ValueFault := c.curves.findSome? Curve.fault?

/-- The curved color. -/
def evaluate (c : ColorCurves) (color : Vec3) : Vec3 :=
  ⟨c.red.evaluate (c.combined.evaluate color.x),
   c.green.evaluate (c.combined.evaluate color.y),
   c.blue.evaluate (c.combined.evaluate color.z)⟩

/-- Red, green, blue and common heights at `size` places of `[0, 1]`. -/
def bake (c : ColorCurves) (size : Nat) : List Vec4 :=
  (sampleInterval size 0.0 1.0).map fun x =>
    ⟨c.red.evaluate x, c.green.evaluate x, c.blue.evaluate x, c.combined.evaluate x⟩

/-- Numerically equal curves. -/
def sameNumbers (a b : ColorCurves) : Bool :=
  a.combined.sameNumbers b.combined && a.red.sameNumbers b.red &&
    a.green.sameNumbers b.green && a.blue.sameNumbers b.blue

end ColorCurves

namespace VectorCurves

/-- Curves that leave every vector of the cube from `-1` to `1` as it is. -/
def identity : VectorCurves :=
  let curve := Curve.identity (-1.0) 1.0
  ⟨curve, curve, curve⟩

/-- The three curves in axis order. -/
def curves (c : VectorCurves) : List Curve := [c.x, c.y, c.z]

/-- What is wrong with the first malformed curve, if one is. -/
def fault? (c : VectorCurves) : Option ValueFault := c.curves.findSome? Curve.fault?

/-- The curved vector. -/
def evaluate (c : VectorCurves) (v : Vec3) : Vec3 :=
  ⟨c.x.evaluate v.x, c.y.evaluate v.y, c.z.evaluate v.z⟩

/-- Heights of the three curves at `size` places of `[-1, 1]`, and a one. -/
def bake (c : VectorCurves) (size : Nat) : List Vec4 :=
  (sampleInterval size (-1.0) 1.0).map fun v =>
    ⟨c.x.evaluate v, c.y.evaluate v, c.z.evaluate v, 1.0⟩

/-- Numerically equal curves. -/
def sameNumbers (a b : VectorCurves) : Bool :=
  a.x.sameNumbers b.x && a.y.sameNumbers b.y && a.z.sameNumbers b.z

end VectorCurves

end ShaderGraph
