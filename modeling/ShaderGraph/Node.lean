import ShaderGraph.NodeType

/-!
# Nodes

A node has an id, a type that never changes, a place on the canvas and one value for every slot
its type declares. Values that come from outside are taken only if every slot accepts its own.
-/

set_option autoImplicit false

namespace ShaderGraph

/-- A place on the canvas, or an offset between two places. -/
structure Position where
  x : Int32
  y : Int32
deriving DecidableEq, Inhabited

/-- The 32-bit integer nearest to an integer. -/
def saturateInt32 (n : Int) : Int32 :=
  Int32.ofInt (max (-0x80000000) (min 0x7fffffff n))

/-- The position moved by an offset; coordinates stop at the ends of their range. -/
def Position.move (p delta : Position) : Position :=
  ⟨saturateInt32 (p.x.toInt + delta.x.toInt), saturateInt32 (p.y.toInt + delta.y.toInt)⟩

/-- A node of a graph. -/
structure Node where
  id : NodeId
  type : NodeType
  position : Position
  /-- One value per declared slot, in declaration order. -/
  values : List SlotValue
deriving DecidableEq

namespace Node

/-- The node with its type's default values. -/
def ofType (id : NodeId) (type : NodeType) (position : Position) : Node :=
  ⟨id, type, position, type.slots.map fun decl => decl.default.value⟩

/-- The node with given values, if there is one for each slot and each slot accepts its own. -/
def ofValues? (id : NodeId) (type : NodeType) (position : Position) (values : List SlotValue) :
    Option Node :=
  if type.slots.length = values.length ∧
      (type.slots.zip values).all (fun (decl, value) => decl.accepts value) then
    some ⟨id, type, position, values⟩
  else none

/-- Address of the slot at an index. -/
def slotId (node : Node) (index : Nat) : SlotId := ⟨node.id, index⟩

/-- Declaration of the slot at an index. -/
def decl? (node : Node) (index : Nat) : Option SlotDecl := node.type.slots[index]?

/-- Value of the slot at an index. -/
def value? (node : Node) (index : Nat) : Option SlotValue := node.values[index]?

/-- The selected option of the enum slot at an index; `0` where there is none. -/
def option (node : Node) (index : Nat) : Nat := ((node.value? index).bind SlotValue.asEnum?).getD 0

/-- The node with another value at an index. -/
def setValue (node : Node) (index : Nat) (value : SlotValue) : Node :=
  { node with values := node.values.set index value }

/-- One slot of a node with its declaration and value. -/
structure Slot where
  id : SlotId
  decl : SlotDecl
  value : SlotValue

/-- All slots in declaration order. -/
def slots (node : Node) : List Slot :=
  (node.type.slots.zip node.values).mapIdx fun index (decl, value) =>
    ⟨node.slotId index, decl, value⟩

/-- The slots that take values. -/
def inputs (node : Node) : List Slot := node.slots.filter fun slot => slot.decl.isInput

/-- The slots that give values. -/
def outputs (node : Node) : List Slot := node.slots.filter fun slot => slot.decl.isOutput

/-- Whether two nodes have the same id, type and place, and numerically equal values. -/
def same (a b : Node) : Bool :=
  decide (a.id = b.id) && decide (a.position = b.position) && decide (a.type = b.type) &&
    decide (a.values.length = b.values.length) &&
    (a.values.zip b.values).all fun (v, w) => v.same w

end Node

end ShaderGraph
