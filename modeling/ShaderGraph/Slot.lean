import ShaderGraph.Value

/-!
# Slots

A slot is addressed by its node and its index in the node type's slot table. The table declares
for each slot a name, a direction, a default value, which also fixes its type, and whether a
connection may lead into it.
-/

set_option autoImplicit false

namespace ShaderGraph

/-- Identifies a node within a graph. -/
abbrev NodeId := Nat

/-- The id as it is shown. -/
def NodeId.label (id : NodeId) : String := "n" ++ toString id

/-- The address of one slot of one node. -/
structure SlotId where
  node : NodeId
  index : Nat
deriving DecidableEq, Repr, Inhabited

namespace SlotId

/-- The address as it is shown. -/
def label (slot : SlotId) : String := NodeId.label slot.node ++ ":" ++ toString slot.index

/-- The order of addresses: by node, then by index. -/
def before (a b : SlotId) : Bool :=
  decide (a.node < b.node) || (decide (a.node = b.node) && decide (a.index < b.index))

/-- A 64-bit cache key: the low half of the node id above the index. Distinct nodes can share it. -/
def packed (slot : SlotId) : Nat :=
  slot.node % 0x100000000 * 0x100000000 + slot.index % 0x100000000

end SlotId

/-- Whether a slot takes values or gives them. -/
inductive SlotDirection
  | input
  | output
deriving DecidableEq, Repr

/-- The default value of a declared slot. -/
inductive SlotDefault
  | bool (value : Bool)
  | float (value : Binary32)
  | int (value : Int32)
  | vector (value : Vec3)
  | color (value : Vec3)
  /-- An option index, and the labels of the options in index order. -/
  | enum (index : Nat) (options : List String)
  | colorRamp
  | rgbCurve
  | vectorCurve
  | image
deriving DecidableEq

namespace SlotDefault

/-- The default of an output slot, whose value is never used. -/
def zero : SlotType → SlotDefault
  | .bool => bool false
  | .float => float 0.0
  | .int => int 0
  | .vector => vector (Vec3.splat 0.0)
  | .color => color (Vec3.splat 0.0)
  | .enum => enum 0 []
  | .colorRamp => colorRamp
  | .rgbCurve => rgbCurve
  | .vectorCurve => vectorCurve
  | .image => image

/-- The type of slot that the default belongs to. -/
def slotType : SlotDefault → SlotType
  | bool _ => .bool
  | float _ => .float
  | int _ => .int
  | vector _ => .vector
  | color _ => .color
  | enum _ _ => .enum
  | colorRamp => .colorRamp
  | rgbCurve => .rgbCurve
  | vectorCurve => .vectorCurve
  | image => .image

/-- The default as a value. -/
def value : SlotDefault → SlotValue
  | bool v => .bool v
  | float v => .float v
  | int v => .int v
  | vector v => .vector v
  | color v => .color v
  | enum index _ => .enum index
  | colorRamp => .colorRamp .blackToWhite
  | rgbCurve => .rgbCurve .identity
  | vectorCurve => .vectorCurve .identity
  | image => .image none

end SlotDefault

/-- One row of a node type's slot table. -/
structure SlotDecl where
  name : String
  direction : SlotDirection
  default : SlotDefault
  /-- Whether a connection may lead into the slot. -/
  connectable : Bool
deriving DecidableEq

namespace SlotDecl

/-- An input that connections may feed. -/
def input (name : String) (default : SlotDefault) : SlotDecl := ⟨name, .input, default, true⟩

/-- An input that is only edited in place. -/
def property (name : String) (default : SlotDefault) : SlotDecl := ⟨name, .input, default, false⟩

/-- An output. -/
def output (name : String) (type : SlotType) : SlotDecl := ⟨name, .output, .zero type, true⟩

/-- The declared type. -/
def slotType (decl : SlotDecl) : SlotType := decl.default.slotType

/-- Whether the slot takes values. -/
def isInput (decl : SlotDecl) : Bool := decide (decl.direction = .input)

/-- Whether the slot gives values. -/
def isOutput (decl : SlotDecl) : Bool := decide (decl.direction = .output)

/-- Labels of the options of an enum slot; other slots have none. -/
def options (decl : SlotDecl) : List String :=
  match decl.default with
  | .enum _ options => options
  | _ => []

/-- Whether an output declared `source` can feed an input declared `dest`. -/
def canFeed (source dest : SlotDecl) : Bool :=
  source.isOutput && dest.isInput && dest.connectable && source.slotType.canFeed dest.slotType

/-- Whether the slot takes the value: right type, well formed, an enum index among the options. -/
def accepts (decl : SlotDecl) (value : SlotValue) : Bool :=
  decide (decl.slotType = value.slotType) && value.fault?.isNone &&
    match value with
    | .enum index => decide (index < decl.options.length)
    | _ => true

end SlotDecl

/-- A connection from an output slot to an input slot. -/
structure Connection where
  source : SlotId
  dest : SlotId
deriving DecidableEq, Repr

/-- Whether the connection starts or ends at a node. -/
def Connection.involves (c : Connection) (id : NodeId) : Bool :=
  decide (c.source.node = id) || decide (c.dest.node = id)

end ShaderGraph
