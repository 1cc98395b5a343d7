import ShaderGraph.Graph.Connect
import ShaderGraph.Graph.Edit

/-!
# Looking up nodes and slots

A graph whose ids are distinct is a finite map from ids to nodes: a look-up finds a node exactly if
the node is stored under that id, wherever it stands in the display order. What a slot declares
follows from the type of its node alone, so every edit that keeps ids and types keeps declarations.
-/

set_option autoImplicit false

namespace ShaderGraph

/-- In a list whose entries have distinct keys, the look-up of a key finds exactly the entry that
has it. -/
theorem find?_key_eq_some_iff {α κ : Type} [DecidableEq κ] {key : α → κ} {entries : List α}
    (hd : (entries.map key).Nodup) {k : κ} {entry : α} :
    entries.find? (fun e => key e == k) = some entry ↔ entry ∈ entries ∧ key entry = k := by
  induction entries with
  | nil => simp
  | cons head rest ih =>
    rw [List.map_cons, List.nodup_cons] at hd
    obtain ⟨hhead, hrest⟩ := hd
    by_cases hk : key head = k
    · rw [List.find?_cons_of_pos (by simpa using hk), Option.some_inj]
      constructor
      · rintro rfl
        exact ⟨List.mem_cons_self, hk⟩
      · rintro ⟨hmem, hentry⟩
        rcases List.mem_cons.mp hmem with rfl | hmem
        · rfl
        · exact absurd (List.mem_map.mpr ⟨entry, hmem, hentry.trans hk.symm⟩) hhead
    · rw [List.find?_cons_of_neg (by simpa using hk), ih hrest]
      constructor
      · rintro ⟨hmem, hentry⟩
        exact ⟨List.mem_cons_of_mem _ hmem, hentry⟩
      · rintro ⟨hmem, hentry⟩
        rcases List.mem_cons.mp hmem with rfl | hmem
        · exact absurd hentry hk
        · exact ⟨hmem, hentry⟩

namespace Graph

variable {g h : Graph} {id : NodeId} {node : Node} {slot : SlotId} {decl : SlotDecl}

/-- A node that is found is stored, under the id that was looked up. -/
theorem mem_of_node?_eq_some (hn : g.node? id = some node) : node ∈ g.nodes ∧ node.id = id :=
  ⟨List.mem_of_find?_eq_some hn, by simpa using List.find?_some hn⟩

/-- With distinct ids, exactly the stored nodes are found. -/
theorem node?_eq_some_iff (hd : g.nodeIds.Nodup) :
    g.node? id = some node ↔ node ∈ g.nodes ∧ node.id = id :=
  find?_key_eq_some_iff hd

/-- With distinct ids, every stored node is found under its own id. -/
theorem node?_id_of_mem (hd : g.nodeIds.Nodup) (hn : node ∈ g.nodes) :
    g.node? node.id = some node :=
  (node?_eq_some_iff hd).mpr ⟨hn, rfl⟩

/-- An id is in the graph exactly if it is the id of a stored node. -/
theorem contains_iff : g.contains id = true ↔ id ∈ g.nodeIds := by
  simp [contains, node?, nodeIds]

/-- No node is found exactly if no stored node has the id. -/
theorem node?_eq_none_iff : g.node? id = none ↔ id ∉ g.nodeIds := by
  rw [← contains_iff, contains]
  cases g.node? id <;> simp

/-- The declaration of a slot is the one at its index in the type of a stored node. -/
theorem slotDecl?_eq_some (hs : g.slotDecl? slot = some decl) :
    ∃ node ∈ g.nodes, node.id = slot.node ∧ node.decl? slot.index = some decl := by
  obtain ⟨node, hn, hdecl⟩ := Option.bind_eq_some_iff.mp hs
  obtain ⟨hmem, hid⟩ := mem_of_node?_eq_some hn
  exact ⟨node, hmem, hid, hdecl⟩

/-- With distinct ids, a slot is declared exactly as the type of its stored node says. -/
theorem slotDecl?_eq_some_iff (hd : g.nodeIds.Nodup) :
    g.slotDecl? slot = some decl ↔
      ∃ node ∈ g.nodes, node.id = slot.node ∧ node.decl? slot.index = some decl := by
  refine ⟨slotDecl?_eq_some, ?_⟩
  rintro ⟨node, hmem, hid, hdecl⟩
  rw [slotDecl?, (node?_eq_some_iff hd).mpr ⟨hmem, hid⟩]
  exact hdecl

/-- A slot keeps its declaration in every graph that keeps its node under the same id and type. -/
theorem slotDecl?_of_kept (hd : h.nodeIds.Nodup)
    (keep : ∀ node ∈ g.nodes, node.id = slot.node →
      ∃ kept ∈ h.nodes, kept.id = node.id ∧ kept.type = node.type)
    (hs : g.slotDecl? slot = some decl) : h.slotDecl? slot = some decl := by
  obtain ⟨node, hmem, hid, hdecl⟩ := slotDecl?_eq_some hs
  obtain ⟨kept, hkept, hkid, htype⟩ := keep node hmem hid
  refine (slotDecl?_eq_some_iff hd).mpr ⟨kept, hkept, hkid.trans hid, ?_⟩
  rw [Node.decl?, htype]
  exact hdecl

/-- A slot with a declaration belongs to a node of the graph. -/
theorem node_mem_of_slotDecl? (hs : g.slotDecl? slot = some decl) : slot.node ∈ g.nodeIds := by
  obtain ⟨node, hmem, hid, -⟩ := slotDecl?_eq_some hs
  exact List.mem_map.mpr ⟨node, hmem, hid⟩

/-- The graph with every node changed by `f`. -/
def mapNodes (g : Graph) (f : Node → Node) : Graph := { g with nodes := g.nodes.map f }

/-- Changing the node of an id changes every node, most of them not at all. -/
theorem mapNode_eq (g : Graph) (id : NodeId) (f : Node → Node) :
    g.mapNode id f = g.mapNodes fun n => if n.id = id then f n else n := rfl

/-- Moving nodes changes every node, and nothing of it but its place. -/
theorem move_eq (g : Graph) (ids : List NodeId) (delta : Position) :
    ∃ place : Node → Position,
      (g.move ids delta).2 = g.mapNodes fun n => { n with position := place n } := by
  unfold move
  split
  · exact ⟨Node.position, by simp [mapNodes]⟩
  have hfold : ∀ place : Node → Position, ∃ last : Node → Position,
      ids.foldl (fun h id => h.mapNode id fun n => { n with position := n.position.move delta })
          (g.mapNodes fun n => { n with position := place n }) =
        g.mapNodes fun n => { n with position := last n } := by
    induction ids with
    | nil => exact fun place => ⟨place, rfl⟩
    | cons id rest ih =>
      intro place
      obtain ⟨last, hlast⟩ := ih fun n => if n.id = id then (place n).move delta else place n
      refine ⟨last, ?_⟩
      rw [List.foldl_cons, ← hlast, mapNode_eq]
      congr 1
      simp only [mapNodes, List.map_map, Graph.mk.injEq, and_true]
      refine List.map_congr_left fun n _ => ?_
      by_cases hid : n.id = id <;> simp [hid]
  simpa [mapNodes] using hfold Node.position

/-- Changing nodes without their ids keeps the list of ids. -/
theorem nodeIds_mapNodes (g : Graph) {f : Node → Node} (hf : ∀ n, (f n).id = n.id) :
    (g.mapNodes f).nodeIds = g.nodeIds := by
  rw [nodeIds, mapNodes, List.map_map]
  exact List.map_congr_left fun n _ => hf n

/-- Changing nodes without their ids changes what is found under an id in the same way. -/
theorem node?_mapNodes {f : Node → Node} (hf : ∀ n, (f n).id = n.id) (id : NodeId) :
    (g.mapNodes f).node? id = (g.node? id).map f := by
  simp only [node?, mapNodes, List.find?_map, Function.comp_def, hf]

end Graph

end ShaderGraph
