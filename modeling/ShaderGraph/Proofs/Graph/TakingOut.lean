import ShaderGraph.Proofs.Graph.WellFormed

/-!
# Taking nodes out one by one

Removing takes the listed nodes out one after the other and notes the id of each that was there. A
repeated id finds nothing the second time, and an id that is not there is never noted, so what is
noted are the listed ids of the graph, each once, and with the nodes that are left they make up the
nodes from before. On a well-formed graph that is one filter on the nodes and one on the
connections, for no connection ends at a node that is not there.
-/

set_option autoImplicit false

namespace ShaderGraph.Graph

variable {g : Graph} {nodes : List Node} {ids done : List NodeId} {id : NodeId}
  {state : List NodeId × List Node}

/-- What has become of nodes when the nodes of some ids were taken out of them. -/
structure TakenOut (nodes : List Node) (done : List NodeId) (state : List NodeId × List Node) :
    Prop where
  /-- The nodes with other ids are left, in their order. -/
  left_eq : state.2 = nodes.filter fun n => !done.contains n.id
  /-- The ids of the others are noted. -/
  mem_removed_iff : ∀ id, id ∈ state.1 ↔ id ∈ done ∧ id ∈ nodes.map Node.id
  /-- Nothing is noted twice. -/
  balance : state.1.length + state.2.length = nodes.length

/-- With distinct ids, taking out the first node of an id leaves the nodes of the others. -/
theorem eraseP_eq_filter (hd : (nodes.map Node.id).Nodup) (id : NodeId) :
    nodes.eraseP (fun n => n.id == id) = nodes.filter fun n => !(n.id == id) := by
  induction nodes with
  | nil => rfl
  | cons n rest ih =>
    rw [List.map_cons, List.nodup_cons] at hd
    obtain ⟨hn, hrest⟩ := hd
    by_cases hid : n.id = id
    · have hothers : ∀ m ∈ rest, (!(m.id == id)) = true := by
        intro m hm
        have hne : m.id ≠ id := fun h => hn (hid ▸ h ▸ List.mem_map_of_mem hm)
        simp [hne]
      rw [List.eraseP_cons_of_pos (by simp [hid]), List.filter_cons_of_neg (by simp [hid]),
        List.filter_eq_self.mpr hothers]
    · rw [List.eraseP_cons_of_neg (by simp [hid]), List.filter_cons_of_pos (by simp [hid]),
        ih hrest]

namespace TakenOut

/-- At first nothing is taken out. -/
theorem start (nodes : List Node) : TakenOut nodes [] ([], nodes) where
  left_eq := by simp
  mem_removed_iff := by simp
  balance := by simp

/-- The nodes that are left when another id is done, too. -/
theorem filter_done (nodes : List Node) (done : List NodeId) (id : NodeId) :
    nodes.filter (fun n => !(done ++ [id]).contains n.id) =
      (nodes.filter fun n => !done.contains n.id).filter fun n => !(n.id == id) := by
  rw [List.filter_filter]
  refine List.filter_congr fun n _ => ?_
  rw [List.contains_append, Bool.not_or, Bool.and_comm, List.contains_cons, List.contains_nil,
    Bool.or_false]

/-- **One step**: an id whose node is still there is noted, and any other changes nothing. -/
theorem step (hd : (nodes.map Node.id).Nodup) (h : TakenOut nodes done state) (id : NodeId) :
    TakenOut nodes (done ++ [id]) (takeOut state id) := by
  obtain ⟨removed, left⟩ := state
  obtain ⟨hleft, hremoved, hbalance⟩ := h
  dsimp only at hleft hremoved hbalance
  have hdleft : (left.map Node.id).Nodup := by
    rw [hleft]
    exact hd.sublist (List.filter_sublist.map Node.id)
  have hrest : nodes.filter (fun n => !(done ++ [id]).contains n.id) =
      left.filter fun n => !(n.id == id) := by
    rw [filter_done, hleft]
  by_cases hthere : left.any (fun n => n.id == id) = true
  · obtain ⟨n, hn, hid⟩ := List.any_eq_true.mp hthere
    obtain rfl : n.id = id := by simpa using hid
    -- a node that is left was not noted before
    have hkept : n ∈ nodes ∧ n.id ∉ done := by
      rw [hleft] at hn
      simpa using List.mem_filter.mp hn
    have hnew : n.id ∉ removed := fun hmem => hkept.2 ((hremoved _).mp hmem).1
    have hpos : 0 < left.length := List.length_pos_of_mem hn
    rw [takeOut, if_pos hthere]
    refine ⟨?_, fun other => ?_, ?_⟩
    · rw [hrest, eraseP_eq_filter hdleft]
    · rw [List.mem_insert_iff, hremoved, List.mem_append, List.mem_singleton]
      constructor
      · rintro (rfl | ⟨hdone, hmem⟩)
        · exact ⟨.inr rfl, List.mem_map_of_mem hkept.1⟩
        · exact ⟨.inl hdone, hmem⟩
      · rintro ⟨hdone | rfl, hmem⟩
        · exact .inr ⟨hdone, hmem⟩
        · exact .inl rfl
    · have hshorter : (left.eraseP fun m => m.id == n.id).length = left.length - 1 :=
        List.length_eraseP_of_mem hn hid
      dsimp only
      rw [List.insert_of_not_mem hnew, List.length_cons, hshorter]
      omega
  · have hother : ∀ n ∈ left, (!(n.id == id)) = true := by
      simpa using hthere
    rw [takeOut, if_neg hthere]
    refine ⟨?_, fun other => ?_, hbalance⟩
    · rw [hrest, List.filter_eq_self.mpr hother]
    · rw [hremoved, List.mem_append, List.mem_singleton]
      constructor
      · rintro ⟨hdone, hmem⟩
        exact ⟨.inl hdone, hmem⟩
      · rintro ⟨hdone | rfl, hmem⟩
        · exact ⟨hdone, hmem⟩
        · -- the id is in the graph but not left, so it was done already
          obtain ⟨n, hn, rfl⟩ := List.mem_map.mp hmem
          refine ⟨by_contra fun hdone => ?_, hmem⟩
          have hleft : n ∈ left := by
            rw [hleft]
            exact List.mem_filter.mpr ⟨hn, by simpa using hdone⟩
          simpa using hother n hleft

/-- **A run**: what holds after each step holds after all ids. -/
theorem run (hd : (nodes.map Node.id).Nodup) (h : TakenOut nodes done state)
    (ids : List NodeId) : TakenOut nodes (done ++ ids) (ids.foldl takeOut state) := by
  induction ids generalizing done state with
  | nil =>
    rw [List.append_nil]
    exact h
  | cons id rest ih =>
    have hrest := ih (h.step hd id)
    rwa [List.append_assoc] at hrest

end TakenOut

/-- What taking listed nodes out of a graph with distinct ids gives. -/
theorem takenOut_foldl (hd : g.nodeIds.Nodup) (ids : List NodeId) :
    TakenOut g.nodes ids (ids.foldl takeOut ([], g.nodes)) :=
  (TakenOut.start g.nodes).run hd ids

/-- Whether some of the ids are in a graph. -/
def mentions (g : Graph) (ids : List NodeId) : Bool := g.nodes.any fun n => ids.contains n.id

/-- Some of the ids are in a graph if one of its nodes has one of them. -/
theorem mentions_iff : g.mentions ids = true ↔ ∃ id, id ∈ ids ∧ id ∈ g.nodeIds := by
  simp only [mentions, List.any_eq_true, List.contains_iff_mem, nodeIds, List.mem_map]
  constructor
  · rintro ⟨n, hn, hid⟩
    exact ⟨n.id, hid, n, hn, rfl⟩
  · rintro ⟨_, hid, n, hn, rfl⟩
    exact ⟨n, hn, hid⟩

/-- Removing nodes does not move the allocator. -/
@[simp]
theorem remove_nextId (g : Graph) (ids : List NodeId) : (g.remove ids).2.nextId = g.nextId := by
  unfold remove
  dsimp only
  split_ifs <;> rfl

/-- Exactly the nodes with other ids stay when nodes are removed. -/
theorem nodes_remove (hd : g.nodeIds.Nodup) (ids : List NodeId) :
    (g.remove ids).2.nodes = g.nodes.filter fun n => !ids.contains n.id := by
  rw [← (takenOut_foldl hd ids).left_eq, remove]
  dsimp only
  split_ifs <;> rfl

/-- The nodes removed and the nodes left are as many as there were. -/
theorem fst_remove_add (hd : g.nodeIds.Nodup) (ids : List NodeId) :
    (g.remove ids).1 + (g.remove ids).2.nodes.length = g.nodes.length := by
  rw [← (takenOut_foldl hd ids).balance, remove]
  dsimp only
  split_ifs with hnone
  · rw [List.isEmpty_iff.mp hnone]
    rfl
  · rfl

/-- Where none of the ids is in the graph, nothing is removed. -/
theorem remove_of_not_mentions (hd : g.nodeIds.Nodup) (h : g.mentions ids = false) :
    g.remove ids = (0, g) := by
  have htaken := takenOut_foldl hd ids
  have hnone : (ids.foldl takeOut ([], g.nodes)).1 = [] := by
    refine List.eq_nil_iff_forall_not_mem.mpr fun id hid => ?_
    have hmentions := mentions_iff.mpr ⟨id, (htaken.mem_removed_iff id).mp hid⟩
    rw [h] at hmentions
    cases hmentions
  have hall : (ids.foldl takeOut ([], g.nodes)).2 = g.nodes := by
    refine htaken.left_eq.trans (List.filter_eq_self.mpr fun n hn => ?_)
    simpa using List.any_eq_false.mp h n hn
  rw [remove]
  dsimp only
  rw [hnone, hall, List.isEmpty_nil, if_pos rfl]

/-- A connection of a well-formed graph has both its ends on nodes of the graph. -/
theorem WellFormed.ends_mem (hg : g.WellFormed) {c : Connection} (hc : c ∈ g.connections) :
    c.source.node ∈ g.nodeIds ∧ c.dest.node ∈ g.nodeIds := by
  obtain ⟨s, d, hs, hd, -⟩ := hg.allowed c hc
  exact ⟨node_mem_of_slotDecl? hs, node_mem_of_slotDecl? hd⟩

/-- What removing nodes gives where some of them are there: a connection goes with a listed node at
either end, for its ends are in the graph, where to be noted and to be listed are the same. -/
theorem WellFormed.remove_of_mentions (hg : g.WellFormed) (h : g.mentions ids = true) :
    g.remove ids = (g.nodes.countP fun n => ids.contains n.id,
      { g with
        nodes := g.nodes.filter fun n => !ids.contains n.id
        connections := g.connections.filter fun c =>
          !ids.contains c.source.node && !ids.contains c.dest.node
        order := none }) := by
  have htaken := takenOut_foldl hg.ids_distinct ids
  obtain ⟨id, hlisted, hthere⟩ := mentions_iff.mp h
  have hsome : (ids.foldl takeOut ([], g.nodes)).1.isEmpty = false :=
    List.isEmpty_eq_false_iff_exists_mem.mpr
      ⟨id, (htaken.mem_removed_iff id).mpr ⟨hlisted, hthere⟩⟩
  have hnoted : ∀ id ∈ g.nodeIds,
      (ids.foldl takeOut ([], g.nodes)).1.contains id = ids.contains id := by
    intro id hid
    rw [Bool.eq_iff_iff, List.contains_iff_mem, List.contains_iff_mem, htaken.mem_removed_iff]
    exact and_iff_left hid
  have hconnections : g.connections.filter (fun c =>
      !(ids.foldl takeOut ([], g.nodes)).1.contains c.dest.node &&
        !(ids.foldl takeOut ([], g.nodes)).1.contains c.source.node) =
      g.connections.filter fun c =>
        !ids.contains c.source.node && !ids.contains c.dest.node := by
    refine List.filter_congr fun c hc => ?_
    obtain ⟨hsource, hdest⟩ := hg.ends_mem hc
    rw [hnoted _ hsource, hnoted _ hdest, Bool.and_comm]
  have hcount : (ids.foldl takeOut ([], g.nodes)).1.length =
      g.nodes.countP fun n => ids.contains n.id := by
    have hbalance := htaken.balance
    have hsplit := List.length_eq_countP_add_countP (fun n : Node => ids.contains n.id)
      (l := g.nodes)
    rw [htaken.left_eq, ← List.countP_eq_length_filter] at hbalance
    simp only [Bool.not_eq_true, Bool.decide_eq_false] at hsplit
    omega
  rw [remove]
  dsimp only
  rw [hsome, hconnections, hcount, htaken.left_eq]
  rfl

/-- **Removing is one filter on the nodes and one on the connections**, whether or not there is any
node to remove; the answer counts the nodes that are listed. -/
theorem WellFormed.remove_eq (hg : g.WellFormed) (ids : List NodeId) : g.remove ids =
    (g.nodes.countP fun n => ids.contains n.id,
      { g with
        nodes := g.nodes.filter fun n => !ids.contains n.id
        connections := g.connections.filter fun c =>
          !ids.contains c.source.node && !ids.contains c.dest.node
        order := if g.mentions ids then none else g.order }) := by
  cases h : g.mentions ids with
  | true => exact hg.remove_of_mentions h
  | false =>
    have hother : ∀ id ∈ g.nodeIds, ids.contains id = false := by
      intro id hid
      obtain ⟨n, hn, rfl⟩ := List.mem_map.mp hid
      simpa using List.any_eq_false.mp h n hn
    have hnone : g.nodes.countP (fun n => ids.contains n.id) = 0 :=
      List.countP_eq_zero.mpr (List.any_eq_false.mp h)
    have hnodes : g.nodes.filter (fun n => !ids.contains n.id) = g.nodes := by
      refine List.filter_eq_self.mpr fun n hn => ?_
      rw [hother n.id (List.mem_map_of_mem hn), Bool.not_false]
    -- nothing is removed, so every connection has both ends on nodes that stay
    have hconnections : g.connections.filter (fun c =>
        !ids.contains c.source.node && !ids.contains c.dest.node) = g.connections := by
      refine List.filter_eq_self.mpr fun c hc => ?_
      obtain ⟨hsource, hdest⟩ := hg.ends_mem hc
      rw [hother _ hsource, hother _ hdest, Bool.not_false, Bool.true_and]
    rw [remove_of_not_mentions hg.ids_distinct h, hnone, hnodes, hconnections]
    rfl

end ShaderGraph.Graph
