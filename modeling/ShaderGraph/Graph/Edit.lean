import ShaderGraph.Graph.Basic

/-!
# Editing nodes

Adding, removing, duplicating, moving and raising nodes, and writing slot values. Whatever changes
the set of nodes drops the kept dependency order; values, places and display order do not.
-/

set_option autoImplicit false

namespace ShaderGraph

/-- Why a node was refused. -/
inductive GraphError
  | duplicateNode (id : NodeId)
  | nodeNotFound (id : NodeId)
  | idOutOfRange (id : NodeId)
deriving DecidableEq, Repr

/-- The error in words. -/
def GraphError.message : GraphError → String
  | duplicateNode id => s!"Node already exists: {NodeId.label id}"
  | nodeNotFound id => s!"Node not found: {NodeId.label id}"
  | idOutOfRange id => s!"Node id {NodeId.label id} is out of range"

/-- Why a slot value was refused. -/
inductive ValueError
  | slotNotFound (slot : SlotId)
  | outputSlot (slot : SlotId)
  | typeMismatch (slot : SlotId) (expected found : SlotType)
  | enumOutOfRange (slot : SlotId) (index options : Nat)
  | invalid (slot : SlotId) (reason : ValueFault)
deriving DecidableEq, Repr

/-- The error in words. -/
def ValueError.message : ValueError → String
  | slotNotFound slot => s!"Slot not found: {slot.label}"
  | outputSlot slot => s!"Slot is an output: {slot.label}"
  | typeMismatch slot expected found =>
    s!"Slot {slot.label} expects {expected.name}, got {found.name}"
  | enumOutOfRange slot index options =>
    s!"Enum index {index} out of range for slot {slot.label} ({options} options)"
  | invalid slot reason => s!"Invalid value for slot {slot.label}: {reason.message}"

namespace Graph

/-- The allocator moved up so that `id` and all ids below it are never handed out. -/
def reserve (g : Graph) (id : NodeId) : Graph :=
  { g with nextId := max g.nextId (min (id + 1) maxNextId) }

/-- The allocator value after the next id is handed out. -/
def advancedId (g : Graph) : Nat := min (g.nextId + 1) maxNextId

/-- Adds a node with its type's default values under a new id. -/
def add (g : Graph) (type : NodeType) (position : Position) : NodeId × Graph :=
  (g.nextId,
    { g with
      nodes := g.nodes ++ [Node.ofType g.nextId type position]
      nextId := g.advancedId
      order := none })

/-- Puts a node into the graph in place, under its own id. -/
def insertNodeInPlace (g : Graph) (node : Node) : Except GraphError Unit × Graph :=
  if maxNodeId < node.id then (.error (.idOutOfRange node.id), g)
  else if g.contains node.id then (.error (.duplicateNode node.id), g)
  else (.ok (), { g.reserve node.id with nodes := g.nodes ++ [node], order := none })

/-- Puts a node into the graph under its own id. -/
def insertNode (g : Graph) (node : Node) : Except GraphError Graph :=
  (granted (g.insertNodeInPlace node)).map Prod.snd

/-- Adds a node in place with its type's default values, under a chosen id. -/
def addWithIdInPlace (g : Graph) (type : NodeType) (position : Position) (id : NodeId) :
    Except GraphError Unit × Graph :=
  g.insertNodeInPlace (.ofType id type position)

/-- Adds a node with its type's default values under a chosen id. -/
def addWithId (g : Graph) (type : NodeType) (position : Position) (id : NodeId) :
    Except GraphError Graph :=
  g.insertNode (.ofType id type position)

/-- Takes the node of an id out, if there is one, and puts the id to the removed ones. -/
def takeOut (state : List NodeId × List Node) (id : NodeId) : List NodeId × List Node :=
  let (removed, nodes) := state
  if nodes.any fun node => node.id == id then
    (removed.insert id, nodes.eraseP fun node => node.id == id)
  else (removed, nodes)

/-- Removes nodes with all their connections; returns how many there were. The nodes are taken out
one by one, which tells what ids there were; the connections go by these. -/
def remove (g : Graph) (ids : List NodeId) : Nat × Graph :=
  let (removed, nodes) := ids.foldl takeOut ([], g.nodes)
  let g := { g with nodes }
  if removed.isEmpty then (0, g)
  else
    (removed.length,
      { g with
        connections := g.connections.filter fun c =>
          !removed.contains c.dest.node && !removed.contains c.source.node
        order := none })

/-- Copies a node in place, without its connections, under a new id and a little aside. -/
def duplicateInPlace (g : Graph) (id : NodeId) : Option NodeId × Graph :=
  match g.node? id with
  | none => (none, g)
  | some source =>
    match Node.ofValues? g.nextId source.type (source.position.move duplicateOffset)
        source.values with
    | none => (none, g)
    | some copy =>
      (some g.nextId,
        { g with nodes := g.nodes ++ [copy], nextId := g.advancedId, order := none })

/-- Copies a node, without its connections, under a new id and a little aside. -/
def duplicate (g : Graph) (id : NodeId) : Option (NodeId × Graph) :=
  let (copied, g) := g.duplicateInPlace id
  copied.map fun id => (id, g)

/-- The graph with the node of an id changed by `f`. -/
def mapNode (g : Graph) (id : NodeId) (f : Node → Node) : Graph :=
  { g with nodes := g.nodes.map fun node => if node.id = id then f node else node }

/-- Writes a slot value in place; tells whether the stored value changed. -/
def setValueInPlace (g : Graph) (slot : SlotId) (value : SlotValue) :
    Except ValueError Bool × Graph :=
  match g.slotDecl? slot, g.slotValue? slot with
  | some decl, some current =>
    if !decl.isInput then (.error (.outputSlot slot), g)
    else if decl.slotType ≠ value.slotType then
      (.error (.typeMismatch slot decl.slotType value.slotType), g)
    else match value.asEnum?.filter (decl.options.length ≤ ·) with
      | some index => (.error (.enumOutOfRange slot index decl.options.length), g)
      | none =>
        match value.fault? with
        | some reason => (.error (.invalid slot reason), g)
        | none =>
          if current.same value then (.ok false, g)
          else (.ok true, g.mapNode slot.node (·.setValue slot.index value))
  | _, _ => (.error (.slotNotFound slot), g)

/-- Writes a slot value; tells whether the stored value changed. -/
def setValue (g : Graph) (slot : SlotId) (value : SlotValue) : Except ValueError (Bool × Graph) :=
  granted (g.setValueInPlace slot value)

/-- Moves nodes, each once per mention; tells whether there was any to move. -/
def move (g : Graph) (ids : List NodeId) (delta : Position) : Bool × Graph :=
  if delta = ⟨0, 0⟩ then (false, g)
  else
    (ids.any g.contains,
      ids.foldl (fun h id => h.mapNode id fun node =>
        { node with position := node.position.move delta }) g)

/-- Draws a node on top of all others; tells whether it was not there already. -/
def raise (g : Graph) (id : NodeId) : Bool × Graph :=
  match g.node? id with
  | none => (false, g)
  | some node =>
    if (g.nodes.getLast?.map Node.id) = some id then (false, g)
    else (true, { g with nodes := g.nodes.filter (fun other => other.id ≠ id) ++ [node] })

end Graph

end ShaderGraph
