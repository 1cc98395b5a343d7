import ShaderGraph.Document
import ShaderGraph.Notation.Whole

/-!
# Reading documents

Records are read field by field, in any order, into drafts; a field given twice, a field missing at
the end or a value of another shape makes the text no document. Unknown fields are skipped.
-/

set_option autoImplicit false

namespace ShaderGraph

open Notation (Reader)

namespace Draft

/-- Three numbers. -/
def vec3 (bare : Bool) : Reader Vec3 :=
  Notation.mapped (fun | [x, y, z] => some ⟨x, y, z⟩ | _ => none)
    (Notation.tuple 3 Notation.number bare)

/-- Four numbers. -/
def vec4 (bare : Bool) : Reader Vec4 :=
  Notation.mapped (fun | [x, y, z, w] => some ⟨x, y, z, w⟩ | _ => none)
    (Notation.tuple 4 Notation.number bare)

/-- A control point. -/
def curvePoint : Reader CurvePoint :=
  Notation.mapped (fun | [x, y] => some ⟨x, y⟩ | _ => none)
    (Notation.tuple 2 Notation.number false)

/-- A place on the canvas. -/
def position : Reader Position :=
  Notation.mapped (fun | [x, y] => some ⟨x, y⟩ | _ => none)
    (Notation.tuple 2 Notation.int32 false)

/-- A node id. -/
def nodeId : Reader NodeId := Notation.wrapped "NodeId" (Notation.nat 64)

/-- The fields of a curve read so far. -/
structure CurveFields where
  points : Option (List CurvePoint) := none

/-- A curve. -/
def curve : Reader Curve :=
  Notation.mapped (fun d : CurveFields => d.points.map Curve.mk)
    (Notation.record "Curve" (fun name d =>
      match name with
      | "points" => Notation.once d.points (Notation.list curvePoint) fun v => ⟨some v⟩
      | _ => Notation.unknownField d) {} false)

/-- The fields of color curves read so far. -/
structure ColorCurvesFields where
  combined : Option Curve := none
  red : Option Curve := none
  green : Option Curve := none
  blue : Option Curve := none

/-- Color curves. -/
def colorCurves (bare : Bool) : Reader ColorCurves :=
  Notation.mapped (fun d : ColorCurvesFields => do
      return ⟨← d.combined, ← d.red, ← d.green, ← d.blue⟩)
    (Notation.record "RgbCurve" (fun name d =>
      match name with
      | "combined" => Notation.once d.combined curve fun v => { d with combined := some v }
      | "r" => Notation.once d.red curve fun v => { d with red := some v }
      | "g" => Notation.once d.green curve fun v => { d with green := some v }
      | "b" => Notation.once d.blue curve fun v => { d with blue := some v }
      | _ => Notation.unknownField d) {} bare)

/-- The fields of vector curves read so far. -/
structure VectorCurvesFields where
  x : Option Curve := none
  y : Option Curve := none
  z : Option Curve := none

/-- Vector curves. -/
def vectorCurves (bare : Bool) : Reader VectorCurves :=
  Notation.mapped (fun d : VectorCurvesFields => do return ⟨← d.x, ← d.y, ← d.z⟩)
    (Notation.record "VectorCurve" (fun name d =>
      match name with
      | "x" => Notation.once d.x curve fun v => { d with x := some v }
      | "y" => Notation.once d.y curve fun v => { d with y := some v }
      | "z" => Notation.once d.z curve fun v => { d with z := some v }
      | _ => Notation.unknownField d) {} bare)

/-- The fields of a color stop read so far. -/
structure StopFields where
  position : Option Binary32 := none
  color : Option Vec4 := none

/-- A color stop. -/
def colorStop : Reader ColorStop :=
  Notation.mapped (fun d : StopFields => do return ⟨← d.position, ← d.color⟩)
    (Notation.record "ColorStop" (fun name d =>
      match name with
      | "position" =>
        Notation.once d.position Notation.number fun v => { d with position := some v }
      | "color" => Notation.once d.color (vec4 false) fun v => { d with color := some v }
      | _ => Notation.unknownField d) {} false)

/-- The interpolation of a name. -/
def interpolation? : String → Option RampInterpolation
  | "Linear" => some .linear
  | "Constant" => some .constant
  | "Ease" => some .ease
  | _ => none

/-- The fields of a color ramp read so far. -/
structure RampFields where
  interpolation : Option RampInterpolation := none
  stops : Option (List ColorStop) := none

/-- A color ramp. -/
def colorRamp (bare : Bool) : Reader ColorRamp :=
  Notation.mapped (fun d : RampFields => do return ⟨← d.interpolation, ← d.stops⟩)
    (Notation.record "ColorRamp" (fun name d =>
      match name with
      | "interpolation" =>
        Notation.once d.interpolation (Notation.named interpolation?) fun v =>
          { d with interpolation := some v }
      | "stops" =>
        Notation.once d.stops (Notation.list colorStop) fun v => { d with stops := some v }
      | _ => Notation.unknownField d) {} bare)

/-- The fields of an image reference read so far. -/
structure ImageFields where
  path : Option (Option String) := none

/-- The path of an image; leaving it out is the same as giving none. -/
def image (bare : Bool) : Reader (Option String) :=
  Notation.mapped (fun d : ImageFields => some (d.path.getD none))
    (Notation.record "ImageRef" (fun name d =>
      match name with
      | "path" => Notation.once d.path (Notation.optional fun _ => Notation.text) fun v => ⟨some v⟩
      | _ => Notation.unknownField d) {} bare)

/-- A reader of the content of a slot value. -/
def content {α : Type} (make : α → SlotValue) (read : Bool → Reader α) : Bool → Reader SlotValue :=
  fun bare => Notation.mapped (fun v => some (make v)) (read bare)

/-- A slot value. -/
def slotValue : Reader SlotValue :=
  Notation.tagged fun
    | "Bool" => some (content .bool fun _ => Notation.bool)
    | "Float" => some (content .float fun _ => Notation.number)
    | "Int" => some (content .int fun _ => Notation.int32)
    | "Vector" => some (content .vector vec3)
    | "Color" => some (content .color vec3)
    | "Enum" => some (content .enum fun _ => Notation.nat 32)
    | "ColorRamp" => some (content .colorRamp colorRamp)
    | "RgbCurve" => some (content .rgbCurve colorCurves)
    | "VectorCurve" => some (content .vectorCurve vectorCurves)
    | "Image" => some (content .image image)
    | _ => none

/-- The fields of a slot address read so far. -/
structure SlotFields where
  node : Option NodeId := none
  index : Option Nat := none

/-- A slot address. -/
def slotId : Reader SlotId :=
  Notation.mapped (fun d : SlotFields => do return ⟨← d.node, ← d.index⟩)
    (Notation.record "SlotId" (fun name d =>
      match name with
      | "node" => Notation.once d.node nodeId fun v => { d with node := some v }
      | "index" => Notation.once d.index (Notation.nat 32) fun v => { d with index := some v }
      | _ => Notation.unknownField d) {} false)

/-- A connection, as the pair of its ends. -/
def connection : Reader Connection :=
  Notation.mapped (fun | [source, dest] => some ⟨source, dest⟩ | _ => none)
    (Notation.tuple 2 slotId false)

/-- The fields of a node record read so far. -/
structure RecordFields where
  id : Option NodeId := none
  type : Option NodeType := none
  position : Option Position := none
  values : Option (List SlotValue) := none

/-- A node record. -/
def nodeRecord : Reader NodeRecord :=
  Notation.mapped (fun d : RecordFields => do
      return ⟨← d.id, ← d.type, ← d.position, ← d.values⟩)
    (Notation.record "NodeRecord" (fun name d =>
      match name with
      | "id" => Notation.once d.id nodeId fun v => { d with id := some v }
      | "type" =>
        Notation.once d.type (Notation.named NodeType.ofKey?) fun v => { d with type := some v }
      | "position" => Notation.once d.position position fun v => { d with position := some v }
      | "values" =>
        Notation.once d.values (Notation.list slotValue) fun v => { d with values := some v }
      | _ => Notation.unknownField d) {} false)

/-- The fields of a document read so far. -/
structure DocumentFields where
  version : Option Nat := none
  nextId : Option Nat := none
  nodes : Option (List NodeRecord) := none
  connections : Option (List Connection) := none

/-- A document. -/
def graphDocument : Reader GraphDocument :=
  Notation.mapped (fun d : DocumentFields => do
      return ⟨← d.version, ← d.nextId, ← d.nodes, ← d.connections⟩)
    (Notation.record "GraphDocument" (fun name d =>
      match name with
      | "version" => Notation.once d.version (Notation.nat 32) fun v => { d with version := some v }
      | "next_id" => Notation.once d.nextId (Notation.nat 64) fun v => { d with nextId := some v }
      | "nodes" =>
        Notation.once d.nodes (Notation.list nodeRecord) fun v => { d with nodes := some v }
      | "connections" =>
        Notation.once d.connections (Notation.list connection) fun v =>
          { d with connections := some v }
      | _ => Notation.unknownField d) {} false)

end Draft

/-- The document that a text holds. -/
def GraphDocument.read? (text : String) : Option GraphDocument :=
  Notation.readWhole Draft.graphDocument text

/-- The graph whose document a text holds. -/
def Graph.parse (text : String) : Except DocumentError Graph :=
  match GraphDocument.read? text with
  | none => .error .parse
  | some document => document.toGraph

end ShaderGraph
