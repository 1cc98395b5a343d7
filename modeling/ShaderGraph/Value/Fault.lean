/-!
# Malformed values

The reasons for which a slot value is refused whatever slot it is meant for.
-/

set_option autoImplicit false

namespace ShaderGraph

/-- Why a value is malformed. -/
inductive ValueFault
  /-- A number is infinite or a NaN. -/
  | notFinite
  /-- A color ramp has no stops. -/
  | emptyRamp
  /-- A stop of a color ramp lies outside `[0, 1]` or before the stop in front of it. -/
  | rampOrder
  /-- A curve has fewer than two points. -/
  | curveTooShort
  /-- The points of a curve do not go strictly to the right. -/
  | curveOrder
deriving DecidableEq, Repr

/-- The fault in words. -/
def ValueFault.message : ValueFault → String
  | notFinite => "value is not finite"
  | emptyRamp => "color ramp has no stops"
  | rampOrder => "color ramp stops must be ordered within [0, 1]"
  | curveTooShort => "curve needs at least two points"
  | curveOrder => "curve points must be strictly increasing in x"

end ShaderGraph
