import ShaderGraph.Graph.Basic

/-!
# Dependency between nodes

A node depends on the nodes whose outputs feed it. The dependency order lists every node after all
that it depends on: again and again it takes the lowest id among the nodes that wait for nothing.
Reachability along connections, forward or backward, is a search that expands each node once.
-/

set_option autoImplicit false

namespace ShaderGraph

/-- The nodes that could not be ordered because of a cycle. -/
structure CycleError where
  nodes : List NodeId
deriving DecidableEq, Repr

/-- The error in words. -/
def CycleError.message (e : CycleError) : String :=
  s!"Graph contains a cycle through {e.nodes.length} node(s)"

/-- Nodes not yet placed, each with the number of connections that it still waits for. -/
abbrev Waiting := List (NodeId × Nat)

namespace Waiting

/-- All nodes with the number of connections into each. -/
def start (ids : List NodeId) (connections : List Connection) : Waiting :=
  ids.map fun id => (id, connections.countP fun c => c.dest.node == id)

/-- The lowest id among the nodes that wait for nothing. -/
def next? (waiting : Waiting) : Option NodeId :=
  ((waiting.filter fun entry => entry.2 == 0).map Prod.fst).min?

/-- The nodes without `placed`, none of them waiting for a connection from it any more. -/
def release (connections : List Connection) (placed : NodeId) (waiting : Waiting) : Waiting :=
  (waiting.filter fun entry => entry.1 != placed).map fun (id, count) =>
    (id, count - connections.countP fun c => c.source.node == placed && c.dest.node == id)

/-- The nodes in the order in which they stop waiting, `steps` of them at most. -/
def placed (connections : List Connection) : Nat → Waiting → List NodeId
  | 0, _ => []
  | steps + 1, waiting =>
    match waiting.next? with
    | none => []
    | some id => id :: placed connections steps (waiting.release connections id)

end Waiting

/-- The nodes reached from `pending` along `next`, expanding `fuel` nodes at most. -/
def reach (next : NodeId → List NodeId) : Nat → List NodeId → List NodeId → List NodeId
  | 0, _, seen => seen
  | _ + 1, [], seen => seen
  | fuel + 1, id :: pending, seen =>
    if seen.contains id then reach next fuel pending seen
    else reach next fuel (next id ++ pending) (id :: seen)

namespace Graph

/-- The nodes that a node feeds directly. -/
def dependents (g : Graph) (id : NodeId) : List NodeId :=
  (g.connections.filter fun c => c.source.node == id).map fun c => c.dest.node

/-- The nodes that feed a node directly. -/
def sources (g : Graph) (id : NodeId) : List NodeId :=
  (g.connections.filter fun c => c.dest.node == id).map fun c => c.source.node

/-- Enough steps to walk along every connection once. -/
def searchSteps (g : Graph) : Nat := g.connections.length + 2

/-- The nodes that connections lead to from a node, itself included. -/
def reachableFrom (g : Graph) (id : NodeId) : List NodeId :=
  reach g.dependents g.searchSteps [id] []

/-- The nodes from which connections lead to a node, itself included. -/
def leadingTo (g : Graph) (id : NodeId) : List NodeId :=
  reach g.sources g.searchSteps [id] []

/-- The dependency order, worked out from the nodes and connections. -/
def dependencyOrder (g : Graph) : Except CycleError (List NodeId) :=
  let order := Waiting.placed g.connections g.nodes.length (.start g.nodeIds g.connections)
  if order.length < g.nodes.length then
    .error ⟨(g.nodeIds.filter fun id => !order.contains id).mergeSort⟩
  else .ok order

/-- The dependency order, and the graph that keeps it. -/
def nodesByOrder (g : Graph) : Except CycleError (List NodeId) × Graph :=
  match g.order with
  | some order => (.ok order, g)
  | none =>
    match g.dependencyOrder with
    | .ok order => (.ok order, { g with order := some order })
    | .error e => (.error e, g)

end Graph

end ShaderGraph
