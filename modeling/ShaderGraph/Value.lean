import ShaderGraph.Value.Ramp
import ShaderGraph.Value.Curve

/-!
# Slot values

A slot holds one of ten kinds of value. Values are compared by their numbers, so `0.0` and `-0.0`
are the same value; a value with a NaN would differ from itself, but such a value is malformed and
no slot takes it.
-/

set_option autoImplicit false

namespace ShaderGraph

/-- The kind of value a slot is declared to hold. -/
inductive SlotType
  | bool
  | float
  | int
  | vector
  | color
  /-- An index into a fixed list of options. -/
  | enum
  | colorRamp
  | rgbCurve
  | vectorCurve
  | image
deriving DecidableEq, Repr

/-- A value of a slot. -/
inductive SlotValue
  | bool (value : Bool)
  | float (value : Binary32)
  | int (value : Int32)
  | vector (value : Vec3)
  | color (value : Vec3)
  /-- The index of the selected option. -/
  | enum (index : Nat)
  | colorRamp (ramp : ColorRamp)
  | rgbCurve (curves : ColorCurves)
  | vectorCurve (curves : VectorCurves)
  /-- The path or name of an image, or no image. -/
  | image (path : Option String)
deriving DecidableEq

namespace SlotType

/-- Name of the type as it appears in messages. -/
def name : SlotType → String
  | bool => "Bool"
  | float => "Float"
  | int => "Int"
  | vector => "Vector"
  | color => "Color"
  | enum => "Enum"
  | colorRamp => "ColorRamp"
  | rgbCurve => "RgbCurve"
  | vectorCurve => "VectorCurve"
  | image => "Image"

/-- All slot types. -/
def all : List SlotType :=
  [bool, float, int, vector, color, enum, colorRamp, rgbCurve, vectorCurve, image]

/-- Whether values of this type can flow along connections. -/
def isConnectable : SlotType → Bool
  | bool | float | int | vector | color => true
  | enum | colorRamp | rgbCurve | vectorCurve | image => false

/-- Whether an output of type `source` can feed an input of type `dest`, converting if need be. -/
def canFeed (source dest : SlotType) : Bool :=
  match source, dest with
  | bool, bool => true
  | int, int | int, float | int, vector | int, color => true
  | float, float | float, int | float, vector | float, color => true
  | vector, vector | vector, color | vector, float => true
  | color, color | color, vector | color, float => true
  | _, _ => false

end SlotType

namespace SlotValue

/-- The type of slot that the value is meant for. -/
def slotType : SlotValue → SlotType
  | bool _ => .bool
  | float _ => .float
  | int _ => .int
  | vector _ => .vector
  | color _ => .color
  | enum _ => .enum
  | colorRamp _ => .colorRamp
  | rgbCurve _ => .rgbCurve
  | vectorCurve _ => .vectorCurve
  | image _ => .image

/-- What is wrong with the value on its own, if anything. -/
def fault? : SlotValue → Option ValueFault
  | bool _ | int _ | enum _ | image _ => none
  | float v => if v.isFinite then none else some .notFinite
  | vector v | color v => if v.toList.all Binary32.isFinite then none else some .notFinite
  | colorRamp ramp => ramp.fault?
  | rgbCurve curves => curves.fault?
  | vectorCurve curves => curves.fault?

/-- The number of a float value. -/
def asFloat? : SlotValue → Option Binary32
  | float v => some v
  | _ => none

/-- The index of an enum value. -/
def asEnum? : SlotValue → Option Nat
  | enum index => some index
  | _ => none

/-- Whether two values are of one kind and numerically equal. -/
def same : SlotValue → SlotValue → Bool
  | bool a, bool b => a == b
  | float a, float b => a.sameNumber b
  | int a, int b => decide (a = b)
  | vector a, vector b => a.sameNumbers b
  | color a, color b => a.sameNumbers b
  | enum a, enum b => decide (a = b)
  | colorRamp a, colorRamp b => a.sameNumbers b
  | rgbCurve a, rgbCurve b => a.sameNumbers b
  | vectorCurve a, vectorCurve b => a.sameNumbers b
  | image a, image b => decide (a = b)
  | _, _ => false

end SlotValue

end ShaderGraph
