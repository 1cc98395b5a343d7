import ShaderGraph.Graph.Connect
import ShaderGraph.Graph.Edit

/-!
# Editing commands

A command is one edit that a user asks for, made on the graph in place. It is refused, with the
reason, or gives an outcome: whether the graph now differs, and whether the difference can reach
the statements of the program and not just its parameters or the layout of the canvas.
-/

set_option autoImplicit false

namespace ShaderGraph

/-- One edit of a graph. -/
inductive EditCommand
  | add (type : NodeType) (position : Position)
  | remove (nodes : List NodeId)
  | duplicate (node : NodeId)
  | connect (source dest : SlotId)
  | disconnect (dest : SlotId)
  | setValue (slot : SlotId) (value : SlotValue)
  | move (nodes : List NodeId) (delta : Position)
  | raise (node : NodeId)
deriving DecidableEq

/-- What a command did to the graph. -/
structure EditOutcome where
  /-- The graph differs from before. -/
  changed : Bool
  /-- The difference can reach the statements of the program. -/
  structural : Bool
  /-- The node that the command made. -/
  created : Option NodeId
deriving DecidableEq, Repr

namespace EditOutcome

/-- Nothing happened. -/
def unchanged : EditOutcome := ⟨false, false, none⟩

/-- An edit that reaches the statements if it changed anything. -/
def structuralEdit (changed : Bool) : EditOutcome := ⟨changed, changed, none⟩

/-- An edit that reaches parameters or layout only. -/
def cosmeticEdit (changed : Bool) : EditOutcome := ⟨changed, false, none⟩

/-- A node was made. -/
def creation (id : NodeId) : EditOutcome := ⟨true, true, some id⟩

end EditOutcome

/-- Why a command was refused. -/
inductive CommandError
  | graph (error : GraphError)
  | connection (error : ConnectionError)
  | value (error : ValueError)
  | nodeNotFound (id : NodeId)
deriving DecidableEq, Repr

/-- The error in words. -/
def CommandError.message : CommandError → String
  | graph error => error.message
  | connection error => error.message
  | value error => error.message
  | nodeNotFound id => s!"Node not found: {NodeId.label id}"

namespace EditCommand

/-- What the command is called in menus. -/
def description : EditCommand → String
  | add .. => "Add Node"
  | remove .. => "Delete Nodes"
  | duplicate .. => "Duplicate Node"
  | connect .. => "Connect"
  | disconnect .. => "Disconnect"
  | setValue .. => "Edit Value"
  | move .. => "Move Nodes"
  | raise .. => "Raise Node"

/-- The outcome of writing a value; options choose statements, all other values are parameters. -/
def valueOutcome (value : SlotValue) (changed : Bool) : EditOutcome :=
  if value.slotType = .enum then .structuralEdit changed else .cosmeticEdit changed

/-- Makes a command on a graph in place. Raising a node is never a change, for the display order is
not part of what makes two graphs the same. -/
def executeInPlace (g : Graph) : EditCommand → Except CommandError EditOutcome × Graph
  | add type position =>
    let (id, g) := g.add type position
    (.ok (.creation id), g)
  | remove nodes =>
    let (removed, g) := g.remove nodes
    (.ok (.structuralEdit (decide (0 < removed))), g)
  | duplicate node =>
    match g.duplicateInPlace node with
    | (some id, g) => (.ok (.creation id), g)
    | (none, g) => (.error (.nodeNotFound node), g)
  | connect source dest =>
    match g.connectInPlace source dest with
    | (.ok previous, g) =>
      (.ok (.structuralEdit (!(previous.map Connection.source == some source))), g)
    | (.error e, g) => (.error (.connection e), g)
  | disconnect dest =>
    let (removed, g) := g.disconnect dest
    (.ok (.structuralEdit removed.isSome), g)
  | setValue slot value =>
    match g.setValueInPlace slot value with
    | (.ok changed, g) => (.ok (valueOutcome value changed), g)
    | (.error e, g) => (.error (.value e), g)
  | move nodes delta =>
    let (moved, g) := g.move nodes delta
    (.ok (.cosmeticEdit moved), g)
  | raise node =>
    if g.contains node then (.ok .unchanged, (g.raise node).2)
    else (.error (.nodeNotFound node), g)

/-- The outcome of a command and the graph after it. -/
def execute (g : Graph) (command : EditCommand) : Except CommandError (EditOutcome × Graph) :=
  granted (command.executeInPlace g)

end EditCommand

end ShaderGraph
