import ShaderGraph.Value.Fault
import ShaderGraph.Value.Sampling

/-!
# Color ramps

A ramp is a list of colored stops along `[0, 1]`. Left of the first stop and right of the last one
it holds their colors; between two stops it blends them as its interpolation says. A ramp is well
formed when it has a stop, all its numbers are finite and the stops go from left to right.
-/

set_option autoImplicit false

namespace ShaderGraph

/-- How the colors of two neighbouring stops are blended. -/
inductive RampInterpolation
  /-- In proportion to the distance. -/
  | linear
  /-- Not at all: the left stop holds. -/
  | constant
  /-- Smoothly, with level ends. -/
  | ease
deriving DecidableEq, Repr

/-- One color of a ramp and where it stands. -/
structure ColorStop where
  position : Binary32
  color : Vec4
deriving DecidableEq

/-- A gradient through ordered color stops. -/
structure ColorRamp where
  interpolation : RampInterpolation
  stops : List ColorStop
deriving DecidableEq

namespace ColorStop

/-- What is wrong with a stop on its own, if anything. -/
def fault? (stop : ColorStop) : Option ValueFault :=
  if !stop.position.isFinite || !stop.color.toList.all Binary32.isFinite then some .notFinite
  else if (0.0 : Binary32).le stop.position && stop.position.le 1.0 then none
  else some .rampOrder

/-- Numeric equality of position and color. -/
def sameNumbers (a b : ColorStop) : Bool :=
  a.position.sameNumber b.position && a.color.sameNumbers b.color

end ColorStop

/-- The color `f` of the way from `a` to `b`. -/
def blend (a b : Vec4) (f : Binary32) : Vec4 :=
  ⟨a.x + (b.x - a.x) * f, a.y + (b.y - a.y) * f, a.z + (b.z - a.z) * f, a.w + (b.w - a.w) * f⟩

namespace ColorRamp

/-- The ramp from opaque black to opaque white. -/
def blackToWhite : ColorRamp :=
  ⟨.linear, [⟨0.0, ⟨0.0, 0.0, 0.0, 1.0⟩⟩, ⟨1.0, ⟨1.0, 1.0, 1.0, 1.0⟩⟩]⟩

/-- What is wrong with a ramp, if anything. -/
def fault? (ramp : ColorRamp) : Option ValueFault :=
  if ramp.stops.isEmpty then some .emptyRamp
  else match ramp.stops.findSome? ColorStop.fault? with
    | some fault => some fault
    | none =>
      if (neighbours ramp.stops).any fun (a, b) => b.position.lt a.position then some .rampOrder
      else none

/-- The blend factor at a fraction `f` of the way between two stops. -/
def factor (interpolation : RampInterpolation) (f : Binary32) : Binary32 :=
  match interpolation with
  | .linear => f
  | .constant => 0.0
  | .ease => f * f * (3.0 - 2.0 * f)

/-- The color at `t`, which lies right of `left`, the stop before `rest`. -/
def colorAfter (interpolation : RampInterpolation) (t : Binary32) (left : ColorStop) :
    List ColorStop → Vec4
  | [] => left.color
  | right :: rest =>
    if t.lt right.position then
      let span := right.position - left.position
      let f := if (0.0 : Binary32).lt span then (t - left.position) / span else 0.0
      blend left.color right.color (factor interpolation f)
    else colorAfter interpolation t right rest

/-- The color at `t`, which is first moved into `[0, 1]`; a ramp without stops has none. -/
def evaluate (ramp : ColorRamp) (t : Binary32) : Vec4 :=
  match ramp.stops with
  | [] => ⟨0.0, 0.0, 0.0, 0.0⟩
  | first :: rest =>
    let t := t.clamp 0.0 1.0
    if t.le first.position then first.color
    else colorAfter ramp.interpolation t first rest

/-- The colors at `size` evenly spaced places. -/
def bake (ramp : ColorRamp) (size : Nat) : List Vec4 :=
  (sampleInterval size 0.0 1.0).map ramp.evaluate

/-- Equal interpolation and numerically equal stops. -/
def sameNumbers (a b : ColorRamp) : Bool :=
  decide (a.interpolation = b.interpolation) && decide (a.stops.length = b.stops.length) &&
    (a.stops.zip b.stops).all fun (s, t) => s.sameNumbers t

end ColorRamp

end ShaderGraph
