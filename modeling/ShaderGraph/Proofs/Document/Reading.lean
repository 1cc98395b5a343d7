import ShaderGraph.Document.Writer
import ShaderGraph.Document.Reader
import ShaderGraph.Proofs.Notation.Sequence
import ShaderGraph.Proofs.Notation.Record
import ShaderGraph.Proofs.Value.Finite

/-!
# Documents read back

A document whose numbers are finite and whose integers fit their widths is read back from its text
as it was. The readers of its parts give back those parts, from the curve points and color stops up
to the node records and connections, and no part is nested too deeply.
-/

set_option autoImplicit false

namespace ShaderGraph

open Notation (Tree ReadsBack ReadsFields readsBack_tuple readsBack_list readsBack_record)

/-! ## Documents that can be written -/

/-- Whether a value can be written: its numbers are finite, and an option fits in 32 bits. -/
def SlotValue.Writable (value : SlotValue) : Prop :=
  value.Finite ∧ ∀ index, value = .enum index → index < 2 ^ 32

/-- Whether the numbers of a slot address fit their widths. -/
def SlotId.Writable (slot : SlotId) : Prop := slot.node < 2 ^ 64 ∧ slot.index < 2 ^ 32

/-- Whether a document can be written: its numbers are finite, its integers fit their widths. -/
structure GraphDocument.Writable (d : GraphDocument) : Prop where
  version_lt : d.version < 2 ^ 32
  nextId_lt : d.nextId < 2 ^ 64
  id_lt : ∀ record ∈ d.nodes, record.id < 2 ^ 64
  values : ∀ record ∈ d.nodes, ∀ value ∈ record.values, value.Writable
  ends : ∀ c ∈ d.connections, c.source.Writable ∧ c.dest.Writable

namespace Draft

variable {α σ : Type}

/-- A record is read back as the value that its fields make up. -/
theorem readsBack_fields {name : String} {field : String → σ → Notation.Reader σ} {levels : Nat}
    {start last : σ} {entries : List (String × Tree)} {f : σ → Option α} {value : α}
    (hfields : ReadsFields field levels start entries last) (hf : f last = some value) :
    ReadsBack (Notation.mapped f (Notation.record name field start false)) (levels + 2)
      (.record "" entries) value :=
  (readsBack_record hfields).mapped hf

/-- A list is read back if each of its items is. -/
theorem readsBack_listOf {read : Notation.Reader α} {levels : Nat} {tree : α → Tree}
    {items : List α} (h : ∀ item ∈ items, ReadsBack read levels (tree item) item) :
    ReadsBack (Notation.list read) (levels + 2) (.list (items.map tree)) items := by
  refine readsBack_list ?_
  rw [List.forall₂_map_left_iff]
  exact List.forall₂_same.mpr h

/-! ## Tuples of numbers -/

/-- Finite numbers are read back from the tuple of their texts. -/
theorem readsBack_floats {xs : List Binary32} (hne : xs ≠ []) (hxs : ∀ x ∈ xs, x.isFinite = true)
    {count : Nat} (hcount : count = xs.length) :
    ReadsBack (Notation.tuple count Notation.number false) 2 (floatsTree xs) xs := by
  refine readsBack_tuple (by simpa using hne) ?_ (by simpa using hcount)
  rw [List.forall₂_map_left_iff]
  exact List.forall₂_same.mpr fun x hx => Notation.readsBack_number (hxs x hx)

/-- A vector of three finite numbers is read back. -/
theorem readsBack_vec3 {v : Vec3} (hv : ∀ x ∈ v.toList, x.isFinite = true) :
    ReadsBack (vec3 false) 2 (floatsTree v.toList) v := by
  have h : ReadsBack (Notation.tuple 3 Notation.number false) 2 (floatsTree v.toList) v.toList :=
    readsBack_floats (by simp [Vec3.toList]) hv rfl
  exact h.mapped rfl

/-- A vector of four finite numbers is read back. -/
theorem readsBack_vec4 {v : Vec4} (hv : ∀ x ∈ v.toList, x.isFinite = true) :
    ReadsBack (vec4 false) 2 (floatsTree v.toList) v := by
  have h : ReadsBack (Notation.tuple 4 Notation.number false) 2 (floatsTree v.toList) v.toList :=
    readsBack_floats (by simp [Vec4.toList]) hv rfl
  exact h.mapped rfl

/-- A point of a curve is read back if both coordinates are finite. -/
theorem readsBack_curvePoint {p : CurvePoint} (hx : p.x.isFinite = true)
    (hy : p.y.isFinite = true) : ReadsBack curvePoint 2 (floatsTree [p.x, p.y]) p := by
  have h : ReadsBack (Notation.tuple 2 Notation.number false) 2 (floatsTree [p.x, p.y])
      [p.x, p.y] := readsBack_floats (by simp) (by simp [hx, hy]) rfl
  exact h.mapped rfl

/-- Every position is read back. -/
theorem readsBack_position (p : Position) :
    ReadsBack position 2 (.tuple [.int p.x.toInt, .int p.y.toInt]) p := by
  have h : ReadsBack (Notation.tuple 2 Notation.int32 false) 2
      (.tuple [.int p.x.toInt, .int p.y.toInt]) [p.x, p.y] :=
    readsBack_tuple (by simp)
      (.cons (Notation.readsBack_int32 p.x) (.cons (Notation.readsBack_int32 p.y) .nil)) rfl
  exact h.mapped rfl

/-! ## Curves, ramps and images -/

/-- A curve of finite points is read back. -/
theorem readsBack_curve {c : Curve} (hc : c.Finite) : ReadsBack curve 6 c.tree c := by
  have hpoints : ReadsBack (Notation.list curvePoint) 4
      (.list (c.points.map fun p => floatsTree [p.x, p.y])) c.points :=
    readsBack_listOf fun p hp => readsBack_curvePoint (hc p hp).1 (hc p hp).2
  exact readsBack_fields (.cons (by decide) (hpoints.once _) (.nil _)) rfl

/-- The four curves of colours are read back by their names. -/
theorem readsBack_colorCurves {c : ColorCurves} (hc : ∀ curve ∈ c.curves, curve.Finite) :
    ReadsBack (colorCurves false) 8 (.record "" [("combined", c.combined.tree), ("r", c.red.tree),
      ("g", c.green.tree), ("b", c.blue.tree)]) c := by
  have hcombined := readsBack_curve (hc c.combined (by simp [ColorCurves.curves]))
  have hred := readsBack_curve (hc c.red (by simp [ColorCurves.curves]))
  have hgreen := readsBack_curve (hc c.green (by simp [ColorCurves.curves]))
  have hblue := readsBack_curve (hc c.blue (by simp [ColorCurves.curves]))
  exact readsBack_fields (.cons (by decide) (hcombined.once _) (.cons (by decide) (hred.once _)
    (.cons (by decide) (hgreen.once _) (.cons (by decide) (hblue.once _) (.nil _))))) rfl

/-- The three curves of vectors are read back by their names. -/
theorem readsBack_vectorCurves {c : VectorCurves} (hc : ∀ curve ∈ c.curves, curve.Finite) :
    ReadsBack (vectorCurves false) 8
      (.record "" [("x", c.x.tree), ("y", c.y.tree), ("z", c.z.tree)]) c := by
  have hx := readsBack_curve (hc c.x (by simp [VectorCurves.curves]))
  have hy := readsBack_curve (hc c.y (by simp [VectorCurves.curves]))
  have hz := readsBack_curve (hc c.z (by simp [VectorCurves.curves]))
  exact readsBack_fields (.cons (by decide) (hx.once _) (.cons (by decide) (hy.once _)
    (.cons (by decide) (hz.once _) (.nil _)))) rfl

/-- A finite stop of a ramp is read back. -/
theorem readsBack_colorStop {stop : ColorStop} (hstop : stop.Finite) :
    ReadsBack colorStop 4 (.record ""
      [("position", .float stop.position), ("color", floatsTree stop.color.toList)]) stop := by
  have hplace : ReadsBack Notation.number 2 (.float stop.position) stop.position :=
    (Notation.readsBack_number hstop.1).mono (by decide)
  exact readsBack_fields (.cons (by decide) (hplace.once _)
    (.cons (by decide) ((readsBack_vec4 hstop.2).once _) (.nil _))) rfl

/-- The way in which a ramp interpolates is read back from its name. -/
theorem readsBack_interpolation (interpolation : RampInterpolation) :
    ReadsBack (Notation.named interpolation?) 0 (.token interpolation.name) interpolation := by
  cases interpolation <;> exact Notation.readsBack_named (by decide) rfl

/-- A ramp of finite stops is read back. -/
theorem readsBack_colorRamp {ramp : ColorRamp} (hramp : ∀ stop ∈ ramp.stops, stop.Finite) :
    ReadsBack (colorRamp false) 8 ramp.tree ramp := by
  have hinterpolation := (readsBack_interpolation ramp.interpolation).mono (Nat.zero_le 6)
  have hstops : ReadsBack (Notation.list colorStop) 6 (.list (ramp.stops.map fun stop =>
      .record "" [("position", .float stop.position), ("color", floatsTree stop.color.toList)]))
      ramp.stops :=
    readsBack_listOf fun stop hstop => readsBack_colorStop (hramp stop hstop)
  exact readsBack_fields (.cons (by decide) (hinterpolation.once _)
    (.cons (by decide) (hstops.once _) (.nil _))) rfl

/-- The path of an image is read back, and so is its absence. -/
theorem readsBack_image (path : Option String) :
    ReadsBack (image false) 3 (.record "" [("path", .optional path)]) path := by
  have hpath : ReadsBack (Notation.optional fun _ => Notation.text) 1 (.optional path) path := by
    cases path with
    | none => exact Notation.readsBack_optional_none.mono (by decide)
    | some text => exact Notation.readsBack_optional_some (Notation.readsBack_text text)
  exact readsBack_fields (.cons (by decide) (hpath.once _) (.nil _)) rfl

/-! ## Slot values -/

/-- A slot value is read back if its content is. -/
theorem readsBack_content {tag : String} (htag : Notation.isName tag = true) {read : Bool →
    Notation.Reader α} {make : α → SlotValue} {contents : String → Option (Bool →
    Notation.Reader SlotValue)} (hread : contents tag = some (content make read)) {levels : Nat}
    {tree : Tree} {value : α} (h : ReadsBack (read false) levels tree value)
    (hlevels : levels ≤ 8) :
    ReadsBack (Notation.tagged contents) 10 (.tagged tag tree) (make value) :=
  Notation.readsBack_tagged htag hread ((h.mapped (f := fun v => some (make v)) rfl).mono hlevels)

/-- A value of finite numbers is read back from its tag and content. -/
theorem readsBack_slotValue {value : SlotValue} (hvalue : value.Writable) :
    ReadsBack slotValue 10 value.tree value := by
  obtain ⟨hfinite, hoption⟩ := hvalue
  cases value with
  | bool b => exact readsBack_content (by decide) rfl (Notation.readsBack_bool b) (by decide)
  | float x =>
    exact readsBack_content (by decide) rfl (Notation.readsBack_number hfinite) (by decide)
  | int n => exact readsBack_content (by decide) rfl (Notation.readsBack_int32 n) (by decide)
  | vector v => exact readsBack_content (by decide) rfl (readsBack_vec3 hfinite) (by decide)
  | color v => exact readsBack_content (by decide) rfl (readsBack_vec3 hfinite) (by decide)
  | enum index =>
    exact readsBack_content (by decide) rfl (Notation.readsBack_nat (hoption index rfl)) (by decide)
  | colorRamp ramp =>
    exact readsBack_content (by decide) rfl (readsBack_colorRamp hfinite) (by decide)
  | rgbCurve curves =>
    exact readsBack_content (by decide) rfl (readsBack_colorCurves hfinite) (by decide)
  | vectorCurve curves =>
    exact readsBack_content (by decide) rfl (readsBack_vectorCurves hfinite) (by decide)
  | image path => exact readsBack_content (by decide) rfl (readsBack_image path) (by decide)

/-! ## Records and documents -/

/-- An id below `2 ^ 64` is read back. -/
theorem readsBack_nodeId {id : NodeId} (hid : id < 2 ^ 64) :
    ReadsBack nodeId 1 (.tagged "" (.nat id)) id :=
  Notation.readsBack_wrapped (Notation.readsBack_nat hid)

/-- A slot is read back if its numbers fit the types of the notation. -/
theorem readsBack_slotId {slot : SlotId} (hslot : slot.Writable) :
    ReadsBack slotId 3 slot.tree slot := by
  have hnode := readsBack_nodeId hslot.1
  have hindex := (Notation.readsBack_nat hslot.2).mono (Nat.zero_le 1)
  exact readsBack_fields (.cons (by decide) (hnode.once _)
    (.cons (by decide) (hindex.once _) (.nil _))) rfl

/-- A connection is read back if both its slots are. -/
theorem readsBack_connection {c : Connection} (hsource : c.source.Writable)
    (hdest : c.dest.Writable) :
    ReadsBack connection 5 (.tuple [c.source.tree, c.dest.tree]) c := by
  have h : ReadsBack (Notation.tuple 2 slotId false) 5 (.tuple [c.source.tree, c.dest.tree])
      [c.source, c.dest] :=
    readsBack_tuple (by simp)
      (.cons (readsBack_slotId hsource) (.cons (readsBack_slotId hdest) .nil)) rfl
  exact h.mapped rfl

/-- The type of a node is read back from its key. -/
theorem readsBack_nodeType (type : NodeType) :
    ReadsBack (Notation.named NodeType.ofKey?) 0 (.token type.key) type := by
  cases type <;> exact Notation.readsBack_named (by decide) (by decide)

/-- A node is read back if its id fits and its values can be written. -/
theorem readsBack_nodeRecord {record : NodeRecord} (hid : record.id < 2 ^ 64)
    (hvalues : ∀ value ∈ record.values, value.Writable) :
    ReadsBack nodeRecord 14 record.tree record := by
  have hnode := (readsBack_nodeId hid).mono (show 1 ≤ 12 by decide)
  have htype := (readsBack_nodeType record.type).mono (Nat.zero_le 12)
  have hposition := (readsBack_position record.position).mono (show 2 ≤ 12 by decide)
  have hlist : ReadsBack (Notation.list slotValue) 12 (.list (record.values.map SlotValue.tree))
      record.values :=
    readsBack_listOf fun value hvalue => readsBack_slotValue (hvalues value hvalue)
  exact readsBack_fields (.cons (by decide) (hnode.once _) (.cons (by decide) (htype.once _)
    (.cons (by decide) (hposition.once _) (.cons (by decide) (hlist.once _) (.nil _))))) rfl

/-- A document is read back if its parts can be written. -/
theorem readsBack_graphDocument {d : GraphDocument} (hd : d.Writable) :
    ReadsBack graphDocument 18 d.tree d := by
  have hversion := (Notation.readsBack_nat hd.version_lt).mono (Nat.zero_le 16)
  have hnextId := (Notation.readsBack_nat hd.nextId_lt).mono (Nat.zero_le 16)
  have hnodes : ReadsBack (Notation.list nodeRecord) 16 (.list (d.nodes.map NodeRecord.tree))
      d.nodes := readsBack_listOf fun record hrecord =>
    readsBack_nodeRecord (hd.id_lt record hrecord) (hd.values record hrecord)
  have hends : ReadsBack (Notation.list connection) 7
      (.list (d.connections.map fun c => .tuple [c.source.tree, c.dest.tree])) d.connections :=
    readsBack_listOf fun c hc => readsBack_connection (hd.ends c hc).1 (hd.ends c hc).2
  have hconnections := hends.mono (show 7 ≤ 16 by decide)
  exact readsBack_fields (.cons (by decide) (hversion.once _) (.cons (by decide) (hnextId.once _)
    (.cons (by decide) (hnodes.once _) (.cons (by decide) (hconnections.once _) (.nil _))))) rfl

end Draft

/-! ## Whole texts -/

/-- A value that can be read back is read from its text alone. -/
theorem Notation.readWhole_write {α : Type} {read : Notation.Reader α} {levels : Nat} {tree : Tree}
    {value : α} (h : ReadsBack read levels tree value) (hlevels : levels ≤ Notation.nestingLimit)
    (hhead : (tree.write 0).toList.head? ≠ some '#') :
    Notation.readWhole read (tree.write 0) = some value := by
  have hskip := h.skipBlank 0 []
  have hread := h.reads 0 ⟨.plain, Notation.nestingLimit⟩ [] rfl hlevels Notation.ended_nil
  rw [List.append_nil] at hskip hread
  have hattributes : Notation.attributes ((tree.write 0).toList.length + 1) .plain
      (tree.write 0).toList = some (.plain, (tree.write 0).toList) := by
    rw [Notation.attributes, if_neg hhead]
  have hend : Notation.skipBlank [] = some [] := rfl
  simp only [Notation.readWhole, hskip, Option.bind_eq_bind, Option.bind_some, hattributes, hread,
    hend]
  rfl

/-- **A document is read back from its text.** -/
theorem GraphDocument.read?_write {d : GraphDocument} (hd : d.Writable) :
    GraphDocument.read? d.write = some d := by
  refine Notation.readWhole_write (Draft.readsBack_graphDocument hd) (by decide) ?_
  rw [GraphDocument.tree, Notation.toList_record]
  simp

end ShaderGraph
