import ShaderGraph.Proofs.Document.Acceptance
import ShaderGraph.Proofs.Document.Reading
import ShaderGraph.Proofs.Graph.Same

/-!
# Saving and loading graphs

The text of a graph is read back as the document it was written from, and that document holds the
graph, because the graph is well formed. The one thing that a graph may have and a document may not
is an allocator past the ids that documents may hold: such a graph can be written but not read
again.
-/

set_option autoImplicit false

namespace ShaderGraph

namespace Node

variable {node : Node}

/-- The values of a valid node can be written. -/
theorem Valid.writable (hn : node.Valid) : ∀ value ∈ node.values, value.Writable := by
  intro value hvalue
  obtain ⟨decl, hdecl, hholds⟩ := hn.exists_decl hvalue
  have hoptions : ∀ type : NodeType, ∀ decl ∈ type.slots, decl.options.length < 2 ^ 32 := by
    intro type
    cases type <;> decide
  refine ⟨SlotValue.finite_of_faultless hholds.faultless, fun index hindex => ?_⟩
  exact (hholds.option_lt index hindex).trans (hoptions node.type decl hdecl)

end Node

namespace Graph

variable {g : Graph}

/-! ## Documents of graphs can be written -/

/-- The addresses of declared slots can be written, as long as the allocator fits 64 bits. -/
theorem WellFormed.writable_slot (hg : g.WellFormed) (hnext : g.nextId < 2 ^ 64) {slot : SlotId}
    {decl : SlotDecl} (hdecl : g.slotDecl? slot = some decl) : slot.Writable := by
  obtain ⟨node, hnode, hid, hindex⟩ := (slotDecl?_eq_some_iff hg.ids_distinct).mp hdecl
  have hslots : node.type.slots.length < 2 ^ 32 := by
    cases node.type <;> decide
  obtain ⟨hlt, -⟩ := List.getElem?_eq_some_iff.mp hindex
  exact ⟨hid ▸ (hg.ids_below node hnode).trans hnext, hlt.trans hslots⟩

/-- The document of a well-formed graph can be written, as long as the allocator fits 64 bits. -/
theorem WellFormed.writable (hg : g.WellFormed) (hnext : g.nextId < 2 ^ 64) :
    (GraphDocument.ofGraph g).Writable where
  version_lt := show documentVersion < 2 ^ 32 by decide
  nextId_lt := hnext
  id_lt record hrecord := by
    obtain ⟨node, hnode, rfl⟩ := List.mem_map.mp hrecord
    exact (hg.ids_below node hnode).trans hnext
  values record hrecord := by
    obtain ⟨node, hnode, rfl⟩ := List.mem_map.mp hrecord
    exact (hg.nodes_valid node hnode).writable
  ends c hc := by
    obtain ⟨source, dest, hsource, hdest, -⟩ := hg.allowed c hc
    exact ⟨hg.writable_slot hnext hsource, hg.writable_slot hnext hdest⟩

/-! ## Whole texts -/

/-- The document of a graph whose allocator is past the ids that documents may hold is refused. -/
theorem toGraph_ofGraph_of_lt (hnext : 2 ^ 63 < g.nextId) :
    (GraphDocument.ofGraph g).toGraph = .error (.invalidNextId g.nextId) := by
  have hlimit : maxNodeId + 1 < g.nextId := by
    simp only [maxNodeId, NodeId]
    omega
  simp [GraphDocument.toGraph, GraphDocument.ofGraph, hlimit]

/-- The allocator of a reachable graph fits 64 bits. -/
theorem Reachable.nextId_lt (hg : g.Reachable) : g.nextId < 2 ^ 64 := by
  obtain ⟨n, hn, hreach⟩ := hg
  obtain ⟨-, hnext⟩ := hreach.wellFormed hn
  omega

/-- Parsing the text of a reachable graph comes down to what its document holds. -/
theorem Reachable.parse_eq_toGraph (hg : g.Reachable) :
    Graph.parse g.serialize = (GraphDocument.ofGraph g).toGraph := by
  have hread : GraphDocument.read? g.serialize = some (GraphDocument.ofGraph g) :=
    GraphDocument.read?_write (hg.invariant.writable hg.nextId_lt)
  rw [Graph.parse, hread]

/-- The text of a reachable graph whose allocator is past the ids that documents may hold is
refused. -/
theorem Reachable.parse_refused (hg : g.Reachable) (hnext : maxNodeId + 1 < g.nextId) :
    Graph.parse g.serialize = .error (.invalidNextId g.nextId) :=
  hg.parse_eq_toGraph.trans (toGraph_ofGraph_of_lt hnext)

/-- **Saving and loading.** The text of a reachable graph is read back as a graph with the same
nodes in the same order, the same connections and the same allocator, and as text again it is the
same text, if the allocator has handed out no id past those that callers may choose; otherwise it
is refused, for the allocator. -/
theorem parse_serialize (hg : g.Reachable) :
    (g.nextId ≤ maxNodeId + 1 → ∃ h, Graph.parse g.serialize = .ok h ∧ h.same g = true ∧
      g.same h = true ∧ h.nodes = g.nodes ∧ h.connections = g.connections ∧
      h.nextId = g.nextId ∧ h.serialize = g.serialize) ∧
    (maxNodeId + 1 < g.nextId →
      Graph.parse g.serialize = .error (.invalidNextId g.nextId)) := by
  refine ⟨fun hnext => ?_, hg.parse_refused⟩
  have hwf := hg.invariant
  have hloaded : ({ g with order := none } : Graph).WellFormed := hwf.perm (.refl _) rfl rfl
  refine ⟨{ g with order := none }, ?_, hloaded.same rfl rfl, hwf.same rfl rfl, rfl, rfl, rfl, rfl⟩
  exact hg.parse_eq_toGraph.trans (hwf.toGraph_ofGraph hnext)

/-- A graph that holds the largest id a caller may choose is read back. -/
theorem parse_serialize_maxNodeId :
    let g := ofCalls [.addWithId .value ⟨0, 0⟩ maxNodeId]
    ∃ h, Graph.parse g.serialize = .ok h ∧ h.same g = true ∧ h.nodeIds = [maxNodeId] := by
  intro g
  have hg : g.Reachable := reachable_ofCalls _ (by decide)
  obtain ⟨h, hparse, hsame, -, hnodes, -⟩ := (parse_serialize hg).1 (by decide +kernel)
  refine ⟨h, hparse, hsame, ?_⟩
  rw [nodeIds, hnodes]
  decide +kernel

/-- The id that is handed out next makes a graph that is written but not read back. -/
theorem parse_serialize_past_maxNodeId :
    let g := ofCalls [.addWithId .value ⟨0, 0⟩ maxNodeId, .add .value ⟨0, 0⟩]
    g.Reachable ∧ g.nodeIds = [maxNodeId, maxNodeId + 1] ∧
      Graph.parse g.serialize = .error (.invalidNextId (maxNodeId + 2)) := by
  intro g
  have hg : g.Reachable := reachable_ofCalls _ (by decide)
  have hnext : g.nextId = maxNodeId + 2 := by decide +kernel
  refine ⟨hg, by decide +kernel, ?_⟩
  rw [← hnext]
  exact hg.parse_refused (by rw [hnext]; decide)

end Graph

end ShaderGraph
