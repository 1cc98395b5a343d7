import Mathlib.Data.List.Perm.Subperm
import ShaderGraph.Proofs.Graph.WellFormed
import ShaderGraph.Proofs.Value.Finite

/-!
# The same graph

Values are compared by their numbers and graphs by their nodes and connections. Between values,
nodes and well-formed graphs this is an equality that goes either way; it holds of a well-formed
graph and every graph that differs in the display order, the allocator or the kept order only.
-/

set_option autoImplicit false

namespace ShaderGraph

/-! ## Values -/

/-- Lists can be compared from either side if their entries can. -/
theorem all_zip_comm {α : Type} {p : α → α → Bool} (h : ∀ a b, p a b = p b a)
    (first second : List α) : ((first.zip second).all fun (a, b) => p a b) =
      (second.zip first).all fun (a, b) => p a b := by
  induction first generalizing second with
  | nil => cases second <;> rfl
  | cons a first ih =>
    cases second with
    | nil => rfl
    | cons b second =>
      rw [List.zip_cons_cons, List.zip_cons_cons, List.all_cons, List.all_cons, ih second]
      exact congrArg (· && _) (h a b)

/-- Numbers are compared alike from either side. -/
theorem Binary32.sameNumber_comm (x y : Binary32) : x.sameNumber y = y.sameNumber x := by
  simp only [sameNumber, Bool.and_comm (!x.isNaN), eq_comm (a := x.place)]

/-- Vectors of three are compared alike from either side. -/
theorem Vec3.sameNumbers_comm (v w : Vec3) : v.sameNumbers w = w.sameNumbers v := by
  simp only [sameNumbers, Binary32.sameNumber_comm v.x, Binary32.sameNumber_comm v.y,
    Binary32.sameNumber_comm v.z]

/-- Vectors of four are compared alike from either side. -/
theorem Vec4.sameNumbers_comm (v w : Vec4) : v.sameNumbers w = w.sameNumbers v := by
  simp only [sameNumbers, Binary32.sameNumber_comm v.x, Binary32.sameNumber_comm v.y,
    Binary32.sameNumber_comm v.z, Binary32.sameNumber_comm v.w]

/-- Ramps are compared alike from either side. -/
theorem ColorRamp.sameNumbers_comm (a b : ColorRamp) : a.sameNumbers b = b.sameNumbers a := by
  have hstop : ∀ s t : ColorStop, s.sameNumbers t = t.sameNumbers s := by
    intro s t
    rw [ColorStop.sameNumbers, ColorStop.sameNumbers, Binary32.sameNumber_comm,
      Vec4.sameNumbers_comm]
  rw [sameNumbers, sameNumbers, all_zip_comm hstop, decide_eq_decide.mpr eq_comm,
    decide_eq_decide.mpr (eq_comm (a := a.stops.length))]

/-- Curves are compared alike from either side. -/
theorem Curve.sameNumbers_comm (a b : Curve) : a.sameNumbers b = b.sameNumbers a := by
  have hpoint : ∀ p q : CurvePoint, (p.x.sameNumber q.x && p.y.sameNumber q.y) =
      (q.x.sameNumber p.x && q.y.sameNumber p.y) := by
    intro p q
    rw [Binary32.sameNumber_comm p.x, Binary32.sameNumber_comm p.y]
  rw [sameNumbers, sameNumbers, all_zip_comm hpoint, decide_eq_decide.mpr eq_comm]

/-- Values of slots are compared alike from either side, also those of different types. -/
theorem SlotValue.same_comm (v w : SlotValue) : v.same w = w.same v := by
  cases v <;> cases w <;> try rfl
  case bool.bool a b => exact Bool.beq_comm
  case float.float x y => exact Binary32.sameNumber_comm x y
  case vector.vector v w | color.color v w => exact Vec3.sameNumbers_comm v w
  case colorRamp.colorRamp a b => exact ColorRamp.sameNumbers_comm a b
  case int.int a b | enum.enum a b | image.image a b => exact decide_eq_decide.mpr eq_comm
  case rgbCurve.rgbCurve a b =>
    simp only [same, ColorCurves.sameNumbers, Curve.sameNumbers_comm a.combined,
      Curve.sameNumbers_comm a.red, Curve.sameNumbers_comm a.green, Curve.sameNumbers_comm a.blue]
  case vectorCurve.vectorCurve a b =>
    simp only [same, VectorCurves.sameNumbers, Curve.sameNumbers_comm a.x,
      Curve.sameNumbers_comm a.y, Curve.sameNumbers_comm a.z]

/-! ## Nodes -/

namespace Node

variable {node : Node}

/-- Every value of a valid node is held by one of the slots. -/
theorem Valid.exists_decl (hn : node.Valid) {value : SlotValue} (hvalue : value ∈ node.values) :
    ∃ decl ∈ node.type.slots, decl.Holds value := by
  obtain ⟨index, hindex, hget⟩ := List.getElem_of_mem hvalue
  have hslots : index < node.type.slots.length := hn.length_eq.symm ▸ hindex
  refine ⟨node.type.slots[index], List.getElem_mem hslots, ?_⟩
  have hdecl : node.decl? index = some node.type.slots[index] := List.getElem?_eq_getElem hslots
  exact hn.holds_at hdecl (List.getElem?_eq_some_iff.mpr ⟨hindex, hget⟩)

/-- A valid node is the same as itself, as no NaN is among its numbers. -/
theorem Valid.same_self (hn : node.Valid) : node.same node = true := by
  rw [Node.same, all_zip_self]
  · simp
  · intro value hvalue
    obtain ⟨decl, -, hholds⟩ := hn.exists_decl hvalue
    exact SlotValue.same_self (SlotValue.finite_of_faultless hholds.faultless)

/-- Nodes are compared alike from either side. -/
theorem same_comm (a b : Node) : a.same b = b.same a := by
  rw [Node.same, Node.same, all_zip_comm SlotValue.same_comm, decide_eq_decide.mpr eq_comm,
    decide_eq_decide.mpr (eq_comm (a := a.position)), decide_eq_decide.mpr (eq_comm (a := a.type)),
    decide_eq_decide.mpr (eq_comm (a := a.values.length))]

end Node

/-! ## Graphs -/

namespace Graph

variable {g h : Graph}

/-- Graphs are the same if they have as many nodes, the same connections and, under each id of the
one, the same node in the other. -/
theorem same_iff : g.same h = true ↔ g.nodes.length = h.nodes.length ∧
    (∀ n ∈ g.nodes, ∃ m, h.node? n.id = some m ∧ n.same m = true) ∧
      g.connections = h.connections := by
  simp only [same, Bool.and_eq_true, decide_eq_true_eq, List.all_eq_true, Option.any_eq_true,
    and_assoc]

/-- A graph of valid nodes with distinct ids is the same as every graph with its nodes, in whatever
order, and its connections. -/
theorem same_of_perm (hd : g.nodeIds.Nodup) (hvalid : ∀ node ∈ g.nodes, node.Valid)
    (hnodes : h.nodes.Perm g.nodes) (hconnections : h.connections = g.connections) :
    h.same g = true := by
  refine same_iff.mpr ⟨hnodes.length_eq, ?_, hconnections⟩
  intro node hnode
  have hmem : node ∈ g.nodes := hnodes.mem_iff.mp hnode
  exact ⟨node, node?_id_of_mem hd hmem, (hvalid node hmem).same_self⟩

/-- A graph is the same as one with its nodes in another display order. -/
theorem WellFormed.same_of_perm (hg : g.WellFormed) (hnodes : h.nodes.Perm g.nodes)
    (hconnections : h.connections = g.connections) : h.same g = true :=
  Graph.same_of_perm hg.ids_distinct hg.nodes_valid hnodes hconnections

/-- A graph is the same as one with its nodes and connections. -/
theorem WellFormed.same (hg : g.WellFormed) (hnodes : h.nodes = g.nodes)
    (hconnections : h.connections = g.connections) : h.same g = true :=
  hg.same_of_perm (.of_eq hnodes) hconnections

/-- What is the same one way is the same the other way, where ids are distinct. -/
theorem same_symm (hg : g.nodeIds.Nodup) (hh : h.nodeIds.Nodup) (hsame : g.same h = true) :
    h.same g = true := by
  obtain ⟨hlength, hnodes, hconnections⟩ := same_iff.mp hsame
  have hsubset : g.nodeIds ⊆ h.nodeIds := by
    intro id hid
    obtain ⟨n, hn, rfl⟩ := List.mem_map.mp hid
    obtain ⟨m, hm, hnm⟩ := hnodes n hn
    obtain ⟨hmem, hid⟩ := mem_of_node?_eq_some hm
    exact List.mem_map.mpr ⟨m, hmem, hid⟩
  -- as many ids, so the ids of the other graph are no more than these
  have hids : g.nodeIds.Perm h.nodeIds := by
    refine (List.subperm_of_subset hg hsubset).perm_of_length_le ?_
    rw [nodeIds, nodeIds, List.length_map, List.length_map]
    exact Nat.le_of_eq hlength.symm
  refine same_iff.mpr ⟨hlength.symm, ?_, hconnections.symm⟩
  intro m hm
  obtain ⟨n, hn, hid⟩ := List.mem_map.mp (hids.mem_iff.mpr (List.mem_map_of_mem hm))
  obtain ⟨m', hm', hnm⟩ := hnodes n hn
  obtain rfl : m = m' := Option.some.inj ((node?_id_of_mem hh hm).symm.trans (hid ▸ hm'))
  exact ⟨n, hid ▸ node?_id_of_mem hg hn, (Node.same_comm m n).trans hnm⟩

/-- It does not matter which of two graphs is compared with the other, where ids are distinct. -/
theorem same_comm (hg : g.nodeIds.Nodup) (hh : h.nodeIds.Nodup) : g.same h = h.same g :=
  Bool.eq_iff_iff.mpr ⟨same_symm hg hh, same_symm hh hg⟩

end Graph

end ShaderGraph
