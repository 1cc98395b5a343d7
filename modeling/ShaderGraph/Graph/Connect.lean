import ShaderGraph.Graph.Dependency

/-!
# Connecting slots

A connection runs from an output slot to a connectable input slot whose type it can feed, and may
not close a cycle of nodes. A second connection into a slot replaces the first.
-/

set_option autoImplicit false

namespace ShaderGraph

/-- Why a connection was refused. -/
inductive ConnectionError
  | slotNotFound (slot : SlotId)
  | notAnOutput (slot : SlotId)
  | notAnInput (slot : SlotId)
  | notConnectable (slot : SlotId)
  | incompatibleTypes (source dest : SlotType)
  | wouldCycle (source dest : SlotId)
deriving DecidableEq, Repr

/-- The error in words. -/
def ConnectionError.message : ConnectionError → String
  | slotNotFound slot => s!"Slot not found: {slot.label}"
  | notAnOutput slot => s!"Slot is not an output: {slot.label}"
  | notAnInput slot => s!"Slot is not an input: {slot.label}"
  | notConnectable slot => s!"Slot does not accept connections: {slot.label}"
  | incompatibleTypes source dest =>
    s!"Cannot connect {source.name} output to {dest.name} input"
  | wouldCycle source dest =>
    s!"Connecting {source.label} to {dest.label} would create a cycle"

/-- The connections with `c` at its place; one with the same destination is replaced. -/
def insertConnection (c : Connection) : List Connection → List Connection
  | [] => [c]
  | d :: rest =>
    if d.dest = c.dest then c :: rest
    else if c.dest.before d.dest then c :: d :: rest
    else d :: insertConnection c rest

namespace Graph

/-- The declarations of both ends of an allowed connection, or why it is not allowed. -/
def checkEnds (g : Graph) (source dest : SlotId) : Except ConnectionError Unit :=
  match g.slotDecl? source, g.slotDecl? dest with
  | none, _ => .error (.slotNotFound source)
  | some _, none => .error (.slotNotFound dest)
  | some s, some d =>
    if !s.isOutput then .error (.notAnOutput source)
    else if !d.isInput then .error (.notAnInput dest)
    else if !d.connectable then .error (.notConnectable dest)
    else if !s.slotType.canFeed d.slotType then
      .error (.incompatibleTypes s.slotType d.slotType)
    else .ok ()

/-- Connects an output to an input in place; returns the connection that this replaced, if any. -/
def connectInPlace (g : Graph) (source dest : SlotId) :
    Except ConnectionError (Option Connection) × Graph :=
  match g.checkEnds source dest with
  | .error e => (.error e, g)
  | .ok () =>
    if source.node = dest.node ∨ source.node ∈ g.reachableFrom dest.node then
      (.error (.wouldCycle source dest), g)
    else
      let previous := g.connection? dest
      (.ok previous,
        { g with
          connections := insertConnection ⟨source, dest⟩ g.connections
          order := if previous = some ⟨source, dest⟩ then g.order else none })

/-- Connects an output to an input; returns the connection that this replaced, if any. -/
def connect (g : Graph) (source dest : SlotId) :
    Except ConnectionError (Option Connection × Graph) :=
  granted (g.connectInPlace source dest)

/-- Takes away the connection into a slot and returns it. -/
def disconnect (g : Graph) (dest : SlotId) : Option Connection × Graph :=
  match g.connection? dest with
  | none => (none, g)
  | some c =>
    (some c, { g with connections := g.connections.filter (·.dest ≠ dest), order := none })

end Graph

end ShaderGraph
