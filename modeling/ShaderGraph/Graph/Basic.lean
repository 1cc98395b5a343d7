import ShaderGraph.Node

/-!
# Graphs

A graph holds its nodes in display order and its connections in the order of their destinations,
at most one into each input slot. The allocator hands out ids upward and never twice. The
dependency order is kept once it has been asked for, until the structure changes.

Two graphs are the same when they hold the same nodes and the same connections; display order,
allocator and kept order do not count.

A call that may be refused works on the graph in place: it gives its answer and the graph it leaves,
also where the answer is a refusal. `granted` forgets the graph that a refusal leaves.
-/

set_option autoImplicit false

namespace ShaderGraph

/-- A shader node graph. -/
structure Graph where
  /-- The nodes in display order. -/
  nodes : List Node
  /-- The connections, ascending by destination. -/
  connections : List Connection
  /-- The id that the next new node gets. -/
  nextId : Nat
  /-- The dependency order, if it was asked for since the last structural change. -/
  order : Option (List NodeId)

/-- Largest id taken from callers and documents; the upper half is left to the allocator. -/
def maxNodeId : NodeId := 0x7fffffffffffffff

/-- Largest value of the allocator. -/
def maxNextId : Nat := 0xffffffffffffffff

/-- Offset of a duplicate from the node it copies. -/
def duplicateOffset : Position := ⟨20, 20⟩

/-- The answer of a call and the state it leaves, or why it was refused and no state. -/
def granted {ε α σ : Type} : Except ε α × σ → Except ε (α × σ)
  | (.ok answer, state) => .ok (answer, state)
  | (.error error, _) => .error error

namespace Graph

/-- The graph without nodes. -/
def empty : Graph := ⟨[], [], 1, none⟩

/-- The graph to start from has no nodes. -/
instance : Inhabited Graph := ⟨empty⟩

/-- The node with an id. -/
def node? (g : Graph) (id : NodeId) : Option Node := g.nodes.find? fun node => node.id == id

/-- Whether there is a node with an id. -/
def contains (g : Graph) (id : NodeId) : Bool := (g.node? id).isSome

/-- The node ids in display order. -/
def nodeIds (g : Graph) : List NodeId := g.nodes.map Node.id

/-- Declaration of a slot. -/
def slotDecl? (g : Graph) (slot : SlotId) : Option SlotDecl :=
  (g.node? slot.node).bind fun node => node.decl? slot.index

/-- Value of a slot. -/
def slotValue? (g : Graph) (slot : SlotId) : Option SlotValue :=
  (g.node? slot.node).bind fun node => node.value? slot.index

/-- The connection into a slot. -/
def connection? (g : Graph) (dest : SlotId) : Option Connection :=
  g.connections.find? fun c => c.dest == dest

/-- The connections out of a slot. -/
def connectionsFrom (g : Graph) (source : SlotId) : List Connection :=
  g.connections.filter fun c => c.source == source

/-- The connections that start or end at a node. -/
def connectionsOf (g : Graph) (id : NodeId) : List Connection :=
  g.connections.filter fun c => c.involves id

/-- The output node with the lowest id, which is the one that is compiled. -/
def outputNode? (g : Graph) : Option NodeId :=
  ((g.nodes.filter fun node => node.type = .output).map Node.id).min?

/-- Whether the two graphs hold the same nodes and the same connections. -/
def same (g h : Graph) : Bool :=
  decide (g.nodes.length = h.nodes.length) &&
    g.nodes.all (fun node => (h.node? node.id).any node.same) &&
    decide (g.connections = h.connections)

end Graph

end ShaderGraph
