import ShaderGraph.Document

/-!
# Writing documents

The object notation of slot values, node records and whole documents. The text of a document
follows from the document alone, so equal documents have equal texts.
-/

set_option autoImplicit false

namespace ShaderGraph

open Notation (Tree)

/-- A tuple of numbers. -/
def floatsTree (xs : List Binary32) : Tree := .tuple (xs.map .float)

/-- The name of an interpolation. -/
def RampInterpolation.name : RampInterpolation → String
  | linear => "Linear"
  | constant => "Constant"
  | ease => "Ease"

/-- A ramp in object notation. -/
def ColorRamp.tree (ramp : ColorRamp) : Tree :=
  .record "" [
    ("interpolation", .token ramp.interpolation.name),
    ("stops", .list (ramp.stops.map fun stop =>
      .record "" [("position", .float stop.position), ("color", floatsTree stop.color.toList)]))]

/-- A curve in object notation. -/
def Curve.tree (curve : Curve) : Tree :=
  .record "" [("points", .list (curve.points.map fun p => floatsTree [p.x, p.y]))]

/-- A slot value in object notation. -/
def SlotValue.tree : SlotValue → Tree
  | .bool v => .tagged "Bool" (.bool v)
  | .float v => .tagged "Float" (.float v)
  | .int v => .tagged "Int" (.int v.toInt)
  | .vector v => .tagged "Vector" (floatsTree v.toList)
  | .color v => .tagged "Color" (floatsTree v.toList)
  | .enum index => .tagged "Enum" (.nat index)
  | .colorRamp ramp => .tagged "ColorRamp" ramp.tree
  | .rgbCurve c => .tagged "RgbCurve" (.record "" [("combined", c.combined.tree),
      ("r", c.red.tree), ("g", c.green.tree), ("b", c.blue.tree)])
  | .vectorCurve c =>
    .tagged "VectorCurve" (.record "" [("x", c.x.tree), ("y", c.y.tree), ("z", c.z.tree)])
  | .image path => .tagged "Image" (.record "" [("path", .optional path)])

/-- A slot address in object notation. -/
def SlotId.tree (slot : SlotId) : Tree :=
  .record "" [("node", .tagged "" (.nat slot.node)), ("index", .nat slot.index)]

/-- A node record in object notation. -/
def NodeRecord.tree (record : NodeRecord) : Tree :=
  .record "" [
    ("id", .tagged "" (.nat record.id)),
    ("type", .token record.type.key),
    ("position", .tuple [.int record.position.x.toInt, .int record.position.y.toInt]),
    ("values", .list (record.values.map SlotValue.tree))]

namespace GraphDocument

/-- A document in object notation. -/
def tree (d : GraphDocument) : Tree :=
  .record "" [
    ("version", .nat d.version),
    ("next_id", .nat d.nextId),
    ("nodes", .list (d.nodes.map NodeRecord.tree)),
    ("connections", .list (d.connections.map fun c => .tuple [c.source.tree, c.dest.tree]))]

/-- The text of a document. -/
def write (d : GraphDocument) : String := d.tree.write 0

end GraphDocument

/-- The text of a graph's document. -/
def Graph.serialize (g : Graph) : String := (GraphDocument.ofGraph g).write

end ShaderGraph
