import Mathlib.Data.List.Sort
import ShaderGraph.Proofs.Graph.Reachable

/-!
# Documents that hold a graph

Loading inserts records and connections one by one and looks each time only at what was inserted
before. What it accepts can still be said of the document as a whole: the connections so far are
always among all connections, so a cycle that is not there in the end was never there, and one that
is there in the end is found when its last connection comes. The graph that results is written down
here without loading, and the order in which the connections are listed has no part in it.
-/

set_option autoImplicit false

namespace ShaderGraph

open Relation (ReflTransGen TransGen)

namespace GraphDocument

/-- Whether a record of the document declares a slot. -/
def Declares (d : GraphDocument) (slot : SlotId) (decl : SlotDecl) : Prop :=
  ∃ record ∈ d.nodes, record.id = slot.node ∧ record.type.slots[slot.index]? = some decl

/-- Whether a listed connection leads from one node to another. -/
def Feeds (d : GraphDocument) (a b : NodeId) : Prop :=
  ∃ c ∈ d.connections, c.source.node = a ∧ c.dest.node = b

/-- What a document must be to hold a graph, said of the whole document at once. -/
structure Valid (d : GraphDocument) : Prop where
  version_le : d.version ≤ documentVersion
  nextId_le : d.nextId ≤ 2 ^ 63
  ids_le : ∀ record ∈ d.nodes, record.id ≤ maxNodeId
  ids_distinct : (d.nodes.map NodeRecord.id).Nodup
  values_fit : ∀ record ∈ d.nodes, List.Forall₂ SlotDecl.Holds record.type.slots record.values
  dests_distinct : (d.connections.map Connection.dest).Nodup
  ends_fit : ∀ c ∈ d.connections, ∃ source dest, d.Declares c.source source ∧
    d.Declares c.dest dest ∧ source.isOutput = true ∧ dest.isInput = true ∧
    dest.connectable = true ∧ source.slotType.canFeed dest.slotType = true
  acyclic : ∀ id, ¬TransGen d.Feeds id id

/-- The graph of a document, written down without loading it. -/
def graph (d : GraphDocument) : Graph where
  nodes := d.nodes.map NodeRecord.toNode
  connections := d.connections.foldl (flip ShaderGraph.insertConnection) []
  nextId := (d.nodes.map fun record => record.id + 1).foldl max (max 1 d.nextId)
  order := none

end GraphDocument

/-! ## Records -/

namespace GraphDocument

variable {g h : Graph}

/-- While there are no connections yet, a record is inserted if its values fit, its id is new and
one that callers may choose. -/
theorem insertRecord_eq_ok_iff_fresh {record : NodeRecord} {nodes : List Node} {next : Nat} :
    insertRecord ⟨nodes, [], next, none⟩ record = .ok h ↔
      record.toNode.Valid ∧ record.id ≤ maxNodeId ∧ record.id ∉ nodes.map Node.id ∧
        h = ⟨nodes ++ [record.toNode], [], max next (record.id + 1), none⟩ := by
  rw [insertRecord_eq_ok_iff, Graph.insertNode_eq_ok_iff]
  refine and_congr_right fun _ => and_congr_right fun hmax => and_congr_right fun _ => ?_
  -- no id that callers may choose is the last one of all
  have hroom : min (record.id + 1) maxNextId = record.id + 1 := by
    apply Nat.min_eq_left
    simp only [NodeRecord.toNode, maxNodeId, maxNextId, NodeId] at *
    omega
  show h = ⟨nodes ++ [record.toNode], [], max next (min (record.id + 1) maxNextId), none⟩ ↔ _
  rw [hroom]

/-- All records are inserted exactly if each is in range and fits its type, and no id comes
twice. -/
theorem insertRecords_eq_ok_iff (records : List NodeRecord) (nodes : List Node) (next : Nat)
    (hd : (nodes.map Node.id).Nodup) :
    records.foldlM insertRecord ⟨nodes, [], next, none⟩ = .ok h ↔
      (∀ record ∈ records, record.toNode.Valid ∧ record.id ≤ maxNodeId) ∧
      (nodes.map Node.id ++ records.map NodeRecord.id).Nodup ∧
      h = ⟨nodes ++ records.map NodeRecord.toNode, [],
        (records.map fun record => record.id + 1).foldl max next, none⟩ := by
  induction records generalizing nodes next with
  | nil =>
    have hpure : ([] : List NodeRecord).foldlM insertRecord ⟨nodes, [], next, none⟩ = .ok h ↔
        h = ⟨nodes, [], next, none⟩ := by
      constructor
      · intro heq
        exact (Except.ok.inj heq).symm
      · rintro rfl
        rfl
    rw [hpure]
    simp [hd]
  | cons record rest ih =>
    have hids : (nodes ++ [record.toNode]).map Node.id = nodes.map Node.id ++ [record.id] := by
      rw [List.map_append]
      rfl
    have hsplit : nodes.map Node.id ++ (record :: rest).map NodeRecord.id =
        (nodes ++ [record.toNode]).map Node.id ++ rest.map NodeRecord.id := by
      rw [hids, List.append_assoc]
      rfl
    have hnodes : nodes ++ (record :: rest).map NodeRecord.toNode =
        (nodes ++ [record.toNode]) ++ rest.map NodeRecord.toNode := by
      rw [List.append_assoc]
      rfl
    rw [List.foldlM_cons, bind_eq_ok_iff, hsplit, hnodes]
    constructor
    · rintro ⟨k, hk, hrest⟩
      obtain ⟨hvalid, hmax, hfresh, rfl⟩ := insertRecord_eq_ok_iff_fresh.mp hk
      have hd' : ((nodes ++ [record.toNode]).map Node.id).Nodup := by
        rw [hids, List.nodup_append]
        refine ⟨hd, List.nodup_singleton _, ?_⟩
        rintro a ha b hb rfl
        rw [List.mem_singleton.mp hb] at ha
        exact hfresh ha
      rw [ih _ _ hd'] at hrest
      obtain ⟨hall, hnodup, hresult⟩ := hrest
      exact ⟨List.forall_mem_cons.mpr ⟨⟨hvalid, hmax⟩, hall⟩, hnodup, hresult⟩
    · rintro ⟨hall, hnodup, hresult⟩
      obtain ⟨⟨hvalid, hmax⟩, hall⟩ := List.forall_mem_cons.mp hall
      have hd' := (List.nodup_append.mp hnodup).1
      have hfresh : record.id ∉ nodes.map Node.id := by
        intro hmem
        rw [hids, List.nodup_append] at hd'
        exact hd'.2.2 record.id hmem record.id (List.mem_singleton_self _) rfl
      refine ⟨_, insertRecord_eq_ok_iff_fresh.mpr ⟨hvalid, hmax, hfresh, rfl⟩, ?_⟩
      rw [ih _ _ hd']
      exact ⟨hall, hnodup, hresult⟩

end GraphDocument

/-! ## Connections -/

/-- Inserting into a slot that nothing leads into adds the connection and takes none away. -/
theorem insertConnection_perm {c : Connection} {connections : List Connection}
    (hfree : ∀ d ∈ connections, d.dest ≠ c.dest) :
    (insertConnection c connections).Perm (c :: connections) := by
  induction connections with
  | nil => exact .refl _
  | cons d rest ih =>
    obtain ⟨hd, hrest⟩ := List.forall_mem_cons.mp hfree
    rw [insertConnection, if_neg hd]
    by_cases hbefore : c.dest.before d.dest = true
    · rw [if_pos hbefore]
    · rw [if_neg hbefore]
      exact ((ih hrest).cons d).trans (.swap c d rest)

/-- A connection that moves from a list of new ones to those inserted is not lost. -/
theorem insertConnection_append_perm {c : Connection} {connections : List Connection}
    (hfree : ∀ d ∈ connections, d.dest ≠ c.dest) (rest : List Connection) :
    (insertConnection c connections ++ rest).Perm (connections ++ c :: rest) :=
  ((insertConnection_perm hfree).append_right rest).trans List.perm_middle.symm

/-- If no two connections lead into one slot, the slot of a later one is free of the others. -/
theorem dest_free_of_nodup {c : Connection} {connections rest : List Connection}
    (hdests : ((connections ++ c :: rest).map Connection.dest).Nodup) :
    ∀ d ∈ connections, d.dest ≠ c.dest := by
  intro d hd
  rw [List.map_append, List.nodup_append] at hdests
  exact hdests.2.2 _ (List.mem_map_of_mem hd) _ (by simp)

namespace Graph

variable {g h : Graph}

/-- Cycles are a matter of the connections alone, in whatever order. -/
theorem Acyclic.of_perm (hg : g.Acyclic) (hperm : h.connections.Perm g.connections) : h.Acyclic :=
  hg.of_subset fun _ hc => hperm.mem_iff.mp hc

end Graph

namespace GraphDocument

variable {d : GraphDocument} {g h : Graph} {c : Connection}

/-- Into a graph that keeps no order, an allowed connection is inserted that leads into a free slot
and closes no cycle. -/
theorem insertConnection_eq_ok_iff_allows (ho : g.order = none) : insertConnection g c = .ok h ↔
    (∀ other ∈ g.connections, other.dest ≠ c.dest) ∧ g.Allows c.source c.dest ∧
      ¬ReflTransGen g.Feeds c.dest.node c.source.node ∧
      h = { g with connections := ShaderGraph.insertConnection c g.connections } := by
  rw [insertConnection_eq_ok_iff, Graph.connection?_eq_none_iff]
  refine and_congr_right fun hfree => ?_
  have hnone := Graph.connection?_eq_none_iff.mpr hfree
  simp only [Graph.connect_eq_ok_iff, Graph.mem_reachableFrom_iff, hnone, ho, true_and]
  constructor
  · rintro ⟨hallows, -, hpath, hresult⟩
    exact ⟨hallows, hpath, by simpa using hresult⟩
  · rintro ⟨hallows, hpath, hresult⟩
    refine ⟨hallows, ?_, hpath, by simpa using hresult⟩
    intro hloop
    exact hpath (hloop ▸ .refl)

/-- **Connections are accepted one by one exactly if they are acceptable all together**: each of
them is allowed, no two lead into one slot, and with those that were there before they close no
cycle. -/
theorem insertConnections_eq_ok_iff (rest : List Connection) (ho : g.order = none)
    (hs : Ascending g.connections) (hg : g.Acyclic) :
    rest.foldlM insertConnection g = .ok h ↔
      (∀ c ∈ rest, g.Allows c.source c.dest) ∧
      ((g.connections ++ rest).map Connection.dest).Nodup ∧
      ({ g with connections := g.connections ++ rest } : Graph).Acyclic ∧
      h = { g with
        connections := rest.foldl (flip ShaderGraph.insertConnection) g.connections } := by
  induction rest generalizing g with
  | nil =>
    have hpure : ([] : List Connection).foldlM insertConnection g = .ok h ↔ h = g := by
      constructor
      · intro heq
        exact (Except.ok.inj heq).symm
      · rintro rfl
        rfl
    have hgraph : ({ g with connections := g.connections ++ [] } : Graph) = g := by
      rw [List.append_nil]
    rw [hpure, hgraph, List.append_nil]
    constructor
    · intro heq
      exact ⟨by simp, hs.nodup_dests, hg, heq⟩
    · intro hall
      exact hall.2.2.2
  | cons c rest ih =>
    let inserted : Graph :=
      { g with connections := ShaderGraph.insertConnection c g.connections }
    rw [List.foldlM_cons, bind_eq_ok_iff]
    constructor
    · rintro ⟨k, hk, hrest⟩
      obtain ⟨hfree, hallows, hpath, rfl⟩ := (insertConnection_eq_ok_iff_allows ho).mp hk
      have hsub : ∀ other ∈ inserted.connections, other = c ∨ other ∈ g.connections := by
        intro other hother
        exact List.mem_cons.mp ((insertConnection_perm hfree).mem_iff.mp hother)
      have hacyclic : inserted.Acyclic := hg.insert hsub hpath
      obtain ⟨hall, hnodup, hcycle, hresult⟩ := (ih (g := inserted) ho hs.insert hacyclic).mp hrest
      have hperm := insertConnection_append_perm hfree rest
      refine ⟨List.forall_mem_cons.mpr ⟨hallows, hall⟩, ?_, hcycle.of_perm hperm.symm, hresult⟩
      exact (hperm.map Connection.dest).nodup_iff.mp hnodup
    · rintro ⟨hall, hnodup, hcycle, hresult⟩
      obtain ⟨hallows, hall⟩ := List.forall_mem_cons.mp hall
      have hfree := dest_free_of_nodup hnodup
      have hpath : ¬ReflTransGen g.Feeds c.dest.node c.source.node := by
        intro hback
        let all : Graph := { g with connections := g.connections ++ c :: rest }
        have hedge : all.Feeds c.source.node c.dest.node := ⟨c, by simp [all], rfl, rfl⟩
        have hmono : ∀ a b, g.Feeds a b → all.Feeds a b := by
          rintro a b ⟨other, hother, hends⟩
          exact ⟨other, List.mem_append_left _ hother, hends⟩
        have hcircle := Relation.ReflTransGen.mono hmono _ _ hback
        exact hcycle c.source.node (TransGen.head' hedge hcircle)
      have hperm := insertConnection_append_perm hfree rest
      have hwhole : ({ g with connections := inserted.connections ++ rest } : Graph).Acyclic :=
        hcycle.of_perm hperm
      have hacyclic : inserted.Acyclic :=
        hwhole.of_subset fun _ hmem => List.mem_append_left _ hmem
      refine ⟨_, (insertConnection_eq_ok_iff_allows ho).mpr ⟨hfree, hallows, hpath, rfl⟩, ?_⟩
      refine (ih (g := inserted) ho hs.insert hacyclic).mpr ⟨hall, ?_, hwhole, hresult⟩
      exact (hperm.map Connection.dest).nodup_iff.mpr hnodup

/-! ## Whole documents -/

/-- A slot of the loaded nodes is declared as the records say. -/
theorem slotDecl?_eq_some_iff (hd : (d.nodes.map NodeRecord.id).Nodup)
    (hnodes : g.nodes = d.nodes.map NodeRecord.toNode) {slot : SlotId} {decl : SlotDecl} :
    g.slotDecl? slot = some decl ↔ d.Declares slot decl := by
  have hids : g.nodeIds = d.nodes.map NodeRecord.id := by
    rw [Graph.nodeIds, hnodes, List.map_map]
    rfl
  rw [Graph.slotDecl?_eq_some_iff (hids ▸ hd), hnodes]
  constructor
  · rintro ⟨node, hnode, hid, hdecl⟩
    obtain ⟨record, hrecord, rfl⟩ := List.mem_map.mp hnode
    exact ⟨record, hrecord, hid, hdecl⟩
  · rintro ⟨record, hrecord, hid, hdecl⟩
    exact ⟨record.toNode, List.mem_map_of_mem hrecord, hid, hdecl⟩

/-- **A document is accepted exactly if it is valid**, and then holds its explicit graph. -/
theorem toGraph_eq_ok_iff : d.toGraph = .ok g ↔ d.Valid ∧ g = d.graph := by
  -- the graph of the document with all its nodes and none of its connections
  let bare : Graph := { d.graph with connections := [] }
  have hallows (hd : (d.nodes.map NodeRecord.id).Nodup) (c : Connection) :
      bare.Allows c.source c.dest ↔ ∃ source dest, d.Declares c.source source ∧
        d.Declares c.dest dest ∧ source.isOutput = true ∧ dest.isInput = true ∧
        dest.connectable = true ∧ source.slotType.canFeed dest.slotType = true := by
    simp only [Graph.Allows, slotDecl?_eq_some_iff hd (show bare.nodes = _ from rfl)]
  have hconnections := insertConnections_eq_ok_iff (g := bare) (h := g) d.connections rfl
    List.Pairwise.nil (Graph.acyclic_of_no_connections rfl)
  have hrecords := fun k => insertRecords_eq_ok_iff (h := k) d.nodes [] (max 1 d.nextId)
    List.nodup_nil
  have hstart (hnext : d.nextId ≤ 2 ^ 63) :
      Graph.empty.reserve (d.nextId - 1) = ⟨[], [], max 1 d.nextId, none⟩ := by
    have hreserve : max 1 (min (d.nextId - 1 + 1) maxNextId) = max 1 d.nextId := by
      simp only [maxNextId]
      omega
    simp only [Graph.reserve, Graph.empty, hreserve]
  rw [toGraph_eq_ok_iff_folds]
  constructor
  · rintro ⟨hversion, hnext, k, hk, hload⟩
    rw [hstart hnext] at hk
    obtain ⟨hall, hids, rfl⟩ := (hrecords k).mp hk
    obtain ⟨hends, hdests, hcycle, hresult⟩ := hconnections.mp hload
    refine ⟨⟨hversion, hnext, fun record hrecord => (hall record hrecord).2, hids,
      fun record hrecord => (hall record hrecord).1, hdests, ?_, hcycle⟩, hresult⟩
    intro c hc
    exact (hallows hids c).mp (hends c hc)
  · rintro ⟨hvalid, hresult⟩
    rw [hstart hvalid.nextId_le]
    refine ⟨hvalid.version_le, hvalid.nextId_le, bare, (hrecords bare).mpr ⟨?_, ?_, rfl⟩,
      hconnections.mpr ⟨?_, hvalid.dests_distinct, hvalid.acyclic, hresult⟩⟩
    · intro record hrecord
      exact ⟨hvalid.values_fit record hrecord, hvalid.ids_le record hrecord⟩
    · exact hvalid.ids_distinct
    · intro c hc
      exact (hallows hvalid.ids_distinct c).mpr (hvalid.ends_fit c hc)

/-- A valid document lists exactly the connections of its graph. -/
theorem Valid.connections_perm (hd : d.Valid) : d.graph.connections.Perm d.connections := by
  have hfold : ∀ (rest connections : List Connection),
      ((connections ++ rest).map Connection.dest).Nodup →
      (rest.foldl (flip ShaderGraph.insertConnection) connections).Perm (connections ++ rest) := by
    intro rest
    induction rest with
    | nil =>
      intro connections _
      exact .of_eq (List.append_nil _).symm
    | cons c rest ih =>
      intro connections hnodup
      have hmoved := insertConnection_append_perm (dest_free_of_nodup hnodup) rest
      have hnext := ih _ ((hmoved.map Connection.dest).nodup_iff.mpr hnodup)
      exact hnext.trans hmoved
  exact hfold d.connections [] hd.dests_distinct

/-- The order in which connections are listed has no part in what is accepted. -/
theorem Valid.of_perm (hd : d.Valid) {connections : List Connection}
    (hperm : connections.Perm d.connections) : ({ d with connections } : GraphDocument).Valid where
  version_le := hd.version_le
  nextId_le := hd.nextId_le
  ids_le := hd.ids_le
  ids_distinct := hd.ids_distinct
  values_fit := hd.values_fit
  dests_distinct := (hperm.map Connection.dest).nodup_iff.mpr hd.dests_distinct
  ends_fit c hc := hd.ends_fit c (hperm.mem_iff.mp hc)
  acyclic := by
    intro id hcycle
    have hsub : ∀ a b, ({ d with connections } : GraphDocument).Feeds a b → d.Feeds a b := by
      rintro a b ⟨c, hc, hends⟩
      exact ⟨c, hperm.mem_iff.mp hc, hends⟩
    exact hd.acyclic id (TransGen.mono hsub _ _ hcycle)

/-- The graph of a valid document keeps its connections ascending. -/
theorem Valid.ascending (hd : d.Valid) : Ascending d.graph.connections :=
  (Graph.wellFormed_of_toGraph (toGraph_eq_ok_iff.mpr ⟨hd, rfl⟩)).1.ascending

/-- The order in which connections are listed has no part in the graph either. -/
theorem toGraph_of_perm {connections : List Connection}
    (hperm : connections.Perm d.connections) (hd : d.toGraph = .ok g) :
    ({ d with connections } : GraphDocument).toGraph = .ok g := by
  obtain ⟨hvalid, rfl⟩ := toGraph_eq_ok_iff.mp hd
  have hother := hvalid.of_perm hperm
  refine toGraph_eq_ok_iff.mpr ⟨hother, ?_⟩
  have hconnections : d.graph.connections =
      ({ d with connections } : GraphDocument).graph.connections :=
    hvalid.ascending.eq_of_perm hother.ascending
      (hvalid.connections_perm.trans (hperm.symm.trans hother.connections_perm.symm))
  show (⟨_, d.graph.connections, _, _⟩ : Graph) = _
  rw [hconnections]
  rfl

end GraphDocument

/-! ## Documents of graphs -/

namespace Graph

variable {g : Graph}

/-- The records of nodes stand for these nodes. -/
theorem map_toNode_toRecord (nodes : List Node) :
    (nodes.map Node.toRecord).map NodeRecord.toNode = nodes := by
  rw [List.map_map]
  exact List.map_id nodes

/-- The document of a well-formed graph is valid, if it may hold the allocator. -/
theorem WellFormed.valid_ofGraph (hg : g.WellFormed) (hnext : g.nextId ≤ 2 ^ 63) :
    (GraphDocument.ofGraph g).Valid := by
  have hnodes : g.nodes = (g.nodes.map Node.toRecord).map NodeRecord.toNode :=
    (map_toNode_toRecord g.nodes).symm
  have hids : ((g.nodes.map Node.toRecord).map NodeRecord.id).Nodup := by
    rw [List.map_map]
    exact hg.ids_distinct
  constructor
  · exact Nat.le_refl _
  · exact hnext
  · intro record hrecord
    obtain ⟨node, hnode, rfl⟩ := List.mem_map.mp hrecord
    have hbelow := hg.ids_below node hnode
    simp only [Node.toRecord, maxNodeId, NodeId] at *
    omega
  · exact hids
  · intro record hrecord
    obtain ⟨node, hnode, rfl⟩ := List.mem_map.mp hrecord
    exact hg.nodes_valid node hnode
  · exact hg.ascending.nodup_dests
  · intro c hc
    obtain ⟨source, dest, hsource, hdest, hrest⟩ := hg.allowed c hc
    have hdeclared : ∀ slot decl, g.slotDecl? slot = some decl →
        (GraphDocument.ofGraph g).Declares slot decl :=
      fun _ _ => (GraphDocument.slotDecl?_eq_some_iff hids hnodes).mp
    exact ⟨source, dest, hdeclared _ _ hsource, hdeclared _ _ hdest, hrest⟩
  · exact hg.acyclic

/-- The document of a well-formed graph holds the graph, if it may hold the allocator. -/
theorem WellFormed.toGraph_ofGraph (hg : g.WellFormed) (hnext : g.nextId ≤ 2 ^ 63) :
    (GraphDocument.ofGraph g).toGraph = .ok { g with order := none } := by
  have hvalid := hg.valid_ofGraph hnext
  have hconnections : (GraphDocument.ofGraph g).graph.connections = g.connections :=
    hvalid.ascending.eq_of_perm hg.ascending hvalid.connections_perm
  -- the allocator is past all nodes already
  have hallocator : (GraphDocument.ofGraph g).graph.nextId = g.nextId := by
    show ((g.nodes.map Node.toRecord).map fun record => record.id + 1).foldl max
      (max 1 g.nextId) = _
    rw [Nat.max_eq_right hg.nextId_pos, List.map_map]
    refine List.foldlRecOn (motive := fun next : Nat => next = g.nextId) _ _ rfl ?_
    intro next hkept id hid
    obtain ⟨node, hnode, rfl⟩ := List.mem_map.mp hid
    rw [hkept]
    exact Nat.max_eq_left (hg.ids_below node hnode)
  refine GraphDocument.toGraph_eq_ok_iff.mpr ⟨hvalid, ?_⟩
  rw [← hconnections, ← hallocator, ← map_toNode_toRecord g.nodes]
  rfl

end Graph

namespace GraphDocument

/-- **What documents hold.** A document is accepted exactly if it is valid as a whole. Its graph
then has the listed nodes in the listed order, the listed connections and an allocator past
everything that the document mentions. The order of the connections has no part in any of this, and
the document of a reachable graph gives the graph back, if its allocator may be stored. -/
theorem toGraph_accepts (d : GraphDocument) :
    ((∃ g, d.toGraph = .ok g) ↔ d.Valid) ∧
    (∀ g, d.toGraph = .ok g → g.nodes = d.nodes.map NodeRecord.toNode ∧
      g.connections.Perm d.connections ∧
      g.nextId = (d.nodes.map fun record => record.id + 1).foldl max (max 1 d.nextId)) ∧
    (∀ connections : List Connection, connections.Perm d.connections → ∀ g,
      ({ d with connections } : GraphDocument).toGraph = .ok g ↔ d.toGraph = .ok g) ∧
    ∀ g : Graph, g.Reachable → g.nextId ≤ 2 ^ 63 → ∃ h, (ofGraph g).toGraph = .ok h ∧
      h.nodes = g.nodes ∧ h.connections = g.connections ∧ h.nextId = g.nextId := by
  refine ⟨⟨?_, ?_⟩, ?_, ?_, ?_⟩
  · rintro ⟨g, hg⟩
    exact (toGraph_eq_ok_iff.mp hg).1
  · intro hvalid
    exact ⟨d.graph, toGraph_eq_ok_iff.mpr ⟨hvalid, rfl⟩⟩
  · intro g hg
    obtain ⟨hvalid, rfl⟩ := toGraph_eq_ok_iff.mp hg
    exact ⟨rfl, hvalid.connections_perm, rfl⟩
  · intro connections hperm g
    constructor
    · intro hg
      exact toGraph_of_perm (d := { d with connections }) hperm.symm hg
    · intro hg
      exact toGraph_of_perm hperm hg
  · intro g hg hnext
    exact ⟨{ g with order := none }, hg.invariant.toGraph_ofGraph hnext, rfl, rfl, rfl⟩

/-- A document whose nodes and connections are not listed in the order of ids. -/
theorem toGraph_accepts_unsorted :
    let record (id : NodeId) (type : NodeType) : NodeRecord := (Node.ofType id type ⟨0, 0⟩).toRecord
    let d : GraphDocument := ⟨1, 0, [record 9 .output, record 4 .math],
      [⟨⟨4, 4⟩, ⟨9, 1⟩⟩, ⟨⟨4, 4⟩, ⟨9, 0⟩⟩]⟩
    d.Valid ∧ ∃ g, d.toGraph = .ok g ∧ g.nodeIds = [9, 4] ∧ g.nextId = 10 ∧
      ({ d with connections := d.connections.reverse } : GraphDocument).toGraph = .ok g ∧
      ∃ h, (ofGraph g).toGraph = .ok h ∧ h.nodeIds = [9, 4] := by
  intro record d
  obtain ⟨hvalid, hgraph, hreorder, hback⟩ := toGraph_accepts d
  have hok : d.toGraph.isOk = true := by decide +kernel
  cases hd : d.toGraph with
  | error e =>
    rw [hd] at hok
    cases hok
  | ok g =>
    obtain ⟨hnodes, -, hnext⟩ := hgraph g hd
    have hids : g.nodeIds = [9, 4] := by
      rw [Graph.nodeIds, hnodes]
      rfl
    have hten : g.nextId = 10 := by
      rw [hnext]
      rfl
    obtain ⟨h, hh, hsame, -⟩ := hback g ⟨0, by decide, .ofDocument hd⟩ (by rw [hten]; decide)
    refine ⟨hvalid.mp ⟨g, hd⟩, g, rfl, hids, hten, ?_, h, hh, ?_⟩
    · exact (hreorder _ (List.reverse_perm _) g).mpr hd
    · rw [Graph.nodeIds, hsame]
      exact hids

end GraphDocument

end ShaderGraph
