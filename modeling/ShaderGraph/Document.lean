import ShaderGraph.Graph.Connect
import ShaderGraph.Graph.Edit
import ShaderGraph.Lowering
import ShaderGraph.Notation.Tree

/-!
# Documents

A document is a graph as it is stored: a version, the allocator, the nodes in display order and the
connections in the order of their destinations. A graph is rebuilt from a document only as a whole:
every node must fit its type and every connection must be allowed, given those before it.
-/

set_option autoImplicit false

namespace ShaderGraph

/-- The stored form of a node. -/
structure NodeRecord where
  id : NodeId
  type : NodeType
  position : Position
  values : List SlotValue
deriving DecidableEq

/-- The stored form of a graph. -/
structure GraphDocument where
  version : Nat
  nextId : Nat
  nodes : List NodeRecord
  connections : List Connection
deriving DecidableEq

/-- The version of documents written here, and the newest that can be read. -/
def documentVersion : Nat := 1

/-- Why a document holds no graph. -/
inductive DocumentError
  /-- The text is not a document. -/
  | parse
  | unsupportedVersion (version : Nat)
  | invalidNextId (nextId : Nat)
  | invalidValues (id : NodeId)
  | duplicateConnection (dest : SlotId)
  | graph (error : GraphError)
  | connection (error : ConnectionError)
deriving DecidableEq, Repr

/-- The error in words. -/
def DocumentError.message : DocumentError → String
  | parse => "Parse error"
  | unsupportedVersion version =>
    s!"Document version {version} is newer than supported version {documentVersion}"
  | invalidNextId nextId => s!"Invalid next id: {nextId}"
  | invalidValues id => s!"Invalid slot values for node {NodeId.label id}"
  | duplicateConnection dest => s!"Multiple connections into {dest.label}"
  | graph error => error.message
  | connection error => s!"Invalid connection: {error.message}"

/-- The stored form of a node. -/
def Node.toRecord (node : Node) : NodeRecord := ⟨node.id, node.type, node.position, node.values⟩

namespace GraphDocument

/-- The document of a graph. -/
def ofGraph (g : Graph) : GraphDocument :=
  ⟨documentVersion, g.nextId, g.nodes.map Node.toRecord, g.connections⟩

/-- The graph with the node of a record added. -/
def insertRecord (g : Graph) (record : NodeRecord) : Except DocumentError Graph :=
  match Node.ofValues? record.id record.type record.position record.values with
  | none => .error (.invalidValues record.id)
  | some node => (g.insertNode node).mapError .graph

/-- The graph with a connection added, where there was none into its destination. -/
def insertConnection (g : Graph) (c : Connection) : Except DocumentError Graph :=
  if (g.connection? c.dest).isSome then .error (.duplicateConnection c.dest)
  else match g.connect c.source c.dest with
    | .ok (_, g) => .ok g
    | .error error => .error (.connection error)

/-- The graph that a document holds. -/
def toGraph (d : GraphDocument) : Except DocumentError Graph :=
  if documentVersion < d.version then .error (.unsupportedVersion d.version)
  else if maxNodeId + 1 < d.nextId then .error (.invalidNextId d.nextId)
  else do
    let g ← d.nodes.foldlM insertRecord (Graph.empty.reserve (d.nextId - 1))
    d.connections.foldlM insertConnection g

end GraphDocument

end ShaderGraph
