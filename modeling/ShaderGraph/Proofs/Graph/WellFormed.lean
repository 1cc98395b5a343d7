import Mathlib.Data.List.Forall2
import ShaderGraph.Proofs.Graph.Connections
import ShaderGraph.Proofs.Graph.Reach

/-!
# Well-formed graphs

A well-formed graph stores every node once under its own id and below the allocator, with one value
per declared slot that the slot may hold; its connections run between existing slots that may be
connected, at most one into each, and close no cycle. The changes that keep a graph well formed
fall into few shapes: a node is appended, nodes are changed in place except for their ids and
types, the nodes are reordered. Each shape has one lemma here, and edits are cases of these.
-/

set_option autoImplicit false

namespace ShaderGraph

/-! ## Values and nodes -/

/-- Whether a slot may hold a value: the declared type, nothing wrong with it, and an option that
is on the list of options. -/
structure SlotDecl.Holds (decl : SlotDecl) (value : SlotValue) : Prop where
  type_eq : decl.slotType = value.slotType
  faultless : value.fault? = none
  option_lt : ∀ index, value = .enum index → index < decl.options.length

/-- Whether a node has exactly one value per slot of its type, each of them held by its slot. -/
def Node.Valid (node : Node) : Prop := List.Forall₂ SlotDecl.Holds node.type.slots node.values

/-- What a slot accepts is what it may hold. -/
theorem SlotDecl.accepts_iff {decl : SlotDecl} {value : SlotValue} :
    decl.accepts value = true ↔ decl.Holds value := by
  constructor
  · intro h
    simp only [accepts, Bool.and_eq_true, decide_eq_true_eq, Option.isNone_iff_eq_none] at h
    obtain ⟨⟨htype, hfault⟩, hoption⟩ := h
    refine ⟨htype, hfault, ?_⟩
    rintro index rfl
    simpa using hoption
  · rintro ⟨htype, hfault, hoption⟩
    simp only [accepts, Bool.and_eq_true, decide_eq_true_eq, Option.isNone_iff_eq_none]
    refine ⟨⟨htype, hfault⟩, ?_⟩
    split
    · exact decide_eq_true (hoption _ rfl)
    · rfl

namespace Node

variable {node : Node} {id : NodeId} {type : NodeType} {position : Position}
  {values : List SlotValue}

/-- Values make up a node exactly if the node with these values is valid. -/
theorem ofValues?_eq_some_iff :
    ofValues? id type position values = some node ↔
      node = ⟨id, type, position, values⟩ ∧ node.Valid := by
  have hvalid : (type.slots.length = values.length ∧
      (type.slots.zip values).all (fun held => held.1.accepts held.2) = true) ↔
      List.Forall₂ SlotDecl.Holds type.slots values := by
    rw [List.forall₂_iff_zip]
    simp only [List.all_eq_true, Prod.forall, SlotDecl.accepts_iff]
  rw [ofValues?]
  split_ifs with h
  · rw [Option.some_inj]
    constructor
    · rintro rfl
      exact ⟨rfl, hvalid.mp h⟩
    · rintro ⟨rfl, -⟩
      rfl
  · simp only [false_iff, not_and]
    rintro rfl hnode
    exact h (hvalid.mpr hnode)

/-- Every slot of every type holds its own default. -/
theorem holds_default (type : NodeType) : ∀ decl ∈ type.slots, decl.Holds decl.default.value := by
  have h : ∀ decl ∈ type.slots, decl.accepts decl.default.value = true := by
    cases type <;> decide +kernel
  exact fun decl hdecl => SlotDecl.accepts_iff.mp (h decl hdecl)

/-- A new node is valid. -/
theorem ofType_valid : (ofType id type position).Valid := by
  unfold Valid ofType
  rw [List.forall₂_map_right_iff]
  exact List.forall₂_same.mpr (holds_default type)

/-- In a valid node, the value at an index is one that the slot at the index may hold. -/
theorem Valid.holds_at (hn : node.Valid) {index : Nat} {decl : SlotDecl} {value : SlotValue}
    (hdecl : node.decl? index = some decl) (hvalue : node.value? index = some value) :
    decl.Holds value := by
  rw [decl?, List.getElem?_eq_some_iff] at hdecl
  rw [value?, List.getElem?_eq_some_iff] at hvalue
  obtain ⟨hi, rfl⟩ := hdecl
  obtain ⟨hj, rfl⟩ := hvalue
  exact List.Forall₂.get hn hi hj

/-- In a valid node, every declared slot has a value that it may hold. -/
theorem Valid.exists_value (hn : node.Valid) {index : Nat} {decl : SlotDecl}
    (hdecl : node.decl? index = some decl) :
    ∃ value, node.value? index = some value ∧ decl.Holds value := by
  obtain ⟨hi, -⟩ := List.getElem?_eq_some_iff.mp hdecl
  have hvalue : node.value? index = some (node.values.get ⟨index, hn.length_eq ▸ hi⟩) :=
    List.getElem?_eq_getElem _
  exact ⟨_, hvalue, hn.holds_at hdecl hvalue⟩

/-- A node stays valid when a slot gets another value that it may hold. -/
theorem Valid.setValue (hn : node.Valid) {index : Nat} {decl : SlotDecl} {value : SlotValue}
    (hdecl : node.decl? index = some decl) (hvalue : decl.Holds value) :
    (node.setValue index value).Valid := by
  obtain ⟨id, type, position, values⟩ := node
  unfold Valid decl? Node.setValue at *
  simp only at *
  generalize type.slots = decls at *
  induction hn generalizing index with
  | nil => simp at hdecl
  | cons hhead htail ih =>
    cases index with
    | zero =>
      obtain rfl : _ = decl := by simpa using hdecl
      exact .cons hvalue htail
    | succ index => exact .cons hhead (ih (by simpa using hdecl))

end Node

namespace Graph

variable {g h : Graph} {node : Node} {c : Connection} {source dest : SlotId}

/-! ## Allowed connections -/

/-- Whether a connection may run between two slots: from an existing output to an existing input
that is open to connections and whose type the output's type can feed. -/
def Allows (g : Graph) (source dest : SlotId) : Prop :=
  ∃ s d, g.slotDecl? source = some s ∧ g.slotDecl? dest = some d ∧ s.isOutput = true ∧
    d.isInput = true ∧ d.connectable = true ∧ s.slotType.canFeed d.slotType = true

/-- The check of both ends passes exactly if the connection is allowed. -/
theorem checkEnds_eq_ok_iff : g.checkEnds source dest = .ok () ↔ g.Allows source dest := by
  unfold checkEnds Allows
  cases hs : g.slotDecl? source with
  | none => simp
  | some s =>
    cases hd : g.slotDecl? dest with
    | none => simp
    | some d =>
      cases hout : s.isOutput <;> cases hin : d.isInput <;> cases hcon : d.connectable <;>
        cases hfeed : s.slotType.canFeed d.slotType <;> simp_all

/-- A connection stays allowed where both its nodes stay, under the same ids and types. -/
theorem Allows.of_kept (ha : g.Allows source dest) (hd : h.nodeIds.Nodup)
    (keep : ∀ node ∈ g.nodes, node.id = source.node ∨ node.id = dest.node →
      ∃ kept ∈ h.nodes, kept.id = node.id ∧ kept.type = node.type) : h.Allows source dest := by
  obtain ⟨s, d, hs, hdecl, hrest⟩ := ha
  exact ⟨s, d, slotDecl?_of_kept hd (fun n hn hid => keep n hn (Or.inl hid)) hs,
    slotDecl?_of_kept hd (fun n hn hid => keep n hn (Or.inr hid)) hdecl, hrest⟩

/-! ## The invariant -/

/-- What holds of every graph that edits and documents can make. -/
structure WellFormed (g : Graph) : Prop where
  /-- No id is used twice. -/
  ids_distinct : g.nodeIds.Nodup
  /-- The allocator is past every id. -/
  ids_below : ∀ node ∈ g.nodes, node.id < g.nextId
  /-- The allocator never hands out zero. -/
  nextId_pos : 0 < g.nextId
  /-- Every node has one value per declared slot, which the slot may hold. -/
  nodes_valid : ∀ node ∈ g.nodes, node.Valid
  /-- One connection at most leads into a slot. -/
  ascending : Ascending g.connections
  /-- Every connection runs between slots that exist and may be connected. -/
  allowed : ∀ c ∈ g.connections, g.Allows c.source c.dest
  /-- No node depends on itself. -/
  acyclic : g.Acyclic

namespace WellFormed

/-- A graph stays well formed when it gets other nodes, as long as every node that a connection
needs is still there under its id and type. -/
theorem of_kept (hg : g.WellFormed) (hd : h.nodeIds.Nodup)
    (hbelow : ∀ node ∈ h.nodes, node.id < h.nextId) (hpos : g.nextId ≤ h.nextId)
    (hvalid : ∀ node ∈ h.nodes, node.Valid) (hconnections : h.connections = g.connections)
    (keep : ∀ node ∈ g.nodes, ∃ kept ∈ h.nodes, kept.id = node.id ∧ kept.type = node.type) :
    h.WellFormed where
  ids_distinct := hd
  ids_below := hbelow
  nextId_pos := Nat.lt_of_lt_of_le hg.nextId_pos hpos
  nodes_valid := hvalid
  ascending := hconnections ▸ hg.ascending
  allowed c hc :=
    (hg.allowed c (hconnections ▸ hc)).of_kept hd fun node hn _ => keep node hn
  acyclic := hg.acyclic.of_subset fun _ hc => hconnections ▸ hc

/-- A valid node with a new id below the allocator may be appended. -/
theorem append (hg : g.WellFormed) (hnodes : h.nodes = g.nodes ++ [node])
    (hconnections : h.connections = g.connections) (hfresh : node.id ∉ g.nodeIds)
    (hid : node.id < h.nextId) (hnext : g.nextId ≤ h.nextId) (hvalid : node.Valid) :
    h.WellFormed := by
  refine hg.of_kept ?_ ?_ hnext ?_ hconnections fun n hn => ⟨n, ?_, rfl, rfl⟩
  · rw [nodeIds, hnodes, List.map_append, List.nodup_append]
    refine ⟨hg.ids_distinct, List.nodup_singleton _, ?_⟩
    rintro a ha b hb rfl
    rw [List.map_singleton, List.mem_singleton] at hb
    exact hfresh (hb ▸ ha)
  · intro n hn
    rw [hnodes] at hn
    rcases List.mem_append.mp hn with hn | hn
    · exact Nat.lt_of_lt_of_le (hg.ids_below n hn) hnext
    · rwa [List.mem_singleton.mp hn]
  · intro n hn
    rw [hnodes] at hn
    rcases List.mem_append.mp hn with hn | hn
    · exact hg.nodes_valid n hn
    · rwa [List.mem_singleton.mp hn]
  · rw [hnodes]
    exact List.mem_append_left _ hn

/-- Nodes may be changed, except for their ids and types, if they stay valid. -/
theorem mapNodes (hg : g.WellFormed) {f : Node → Node} (hid : ∀ n, (f n).id = n.id)
    (htype : ∀ n, (f n).type = n.type) (hvalid : ∀ n ∈ g.nodes, (f n).Valid) :
    (g.mapNodes f).WellFormed := by
  refine hg.of_kept ?_ ?_ (Nat.le_refl _) ?_ rfl ?_
  · rw [nodeIds_mapNodes g hid]
    exact hg.ids_distinct
  · intro n hn
    obtain ⟨old, hold, rfl⟩ := List.mem_map.mp hn
    rw [hid]
    exact hg.ids_below old hold
  · intro n hn
    obtain ⟨old, hold, rfl⟩ := List.mem_map.mp hn
    exact hvalid old hold
  · exact fun old hold => ⟨f old, List.mem_map_of_mem hold, hid old, htype old⟩

/-- The display order does not matter. -/
theorem perm (hg : g.WellFormed) (hnodes : h.nodes.Perm g.nodes)
    (hconnections : h.connections = g.connections) (hnext : h.nextId = g.nextId) :
    h.WellFormed := by
  refine hg.of_kept ?_ ?_ (Nat.le_of_eq hnext.symm) ?_ hconnections
    fun n hn => ⟨n, hnodes.mem_iff.mpr hn, rfl, rfl⟩
  · exact (hnodes.map Node.id).nodup_iff.mpr hg.ids_distinct
  · exact fun n hn => hnext ▸ hg.ids_below n (hnodes.mem_iff.mp hn)
  · exact fun n hn => hg.nodes_valid n (hnodes.mem_iff.mp hn)

end WellFormed

end Graph

end ShaderGraph
