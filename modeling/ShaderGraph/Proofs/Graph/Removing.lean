import ShaderGraph.Proofs.Graph.Reachable

/-!
# Removing nodes leaves the induced subgraph

Taking nodes out one by one and then the connections at either end is, on a well-formed graph, one
filter on the nodes and one on the connections. A filter forgets the order and the repetitions of
the ids, composes with another one and finds nothing left the second time.
-/

set_option autoImplicit false

namespace ShaderGraph.Graph

variable {g : Graph} {ids : List NodeId}

/-- Only the set of ids counts. -/
theorem WellFormed.remove_congr (hg : g.WellFormed) {ids others : List NodeId}
    (h : ∀ id, id ∈ others ↔ id ∈ ids) : g.remove others = g.remove ids := by
  have hcontains : ∀ id, others.contains id = ids.contains id := by
    intro id
    rw [Bool.eq_iff_iff, List.contains_iff_mem, List.contains_iff_mem, h]
  have hmentions : g.mentions others = g.mentions ids := by
    simp only [mentions, hcontains]
  rw [hg.remove_eq others, hg.remove_eq ids, hmentions]
  simp only [hcontains]

/-- A graph mentions some of two lists of ids if it mentions some of the first, or some of the
second once the nodes of the first are gone. -/
theorem mentions_append (g : Graph) (ids more : List NodeId) :
    g.mentions (ids ++ more) =
      (g.mentions ids || (g.nodes.filter fun n => !ids.contains n.id).any
        fun n => more.contains n.id) := by
  rw [Bool.eq_iff_iff]
  simp only [mentions, Bool.or_eq_true, List.any_eq_true, List.mem_filter, List.contains_iff_mem,
    List.mem_append, Bool.not_eq_true', ← Bool.not_eq_true]
  constructor
  · rintro ⟨n, hn, hid⟩
    by_cases hids : n.id ∈ ids
    · exact .inl ⟨n, hn, hids⟩
    · exact .inr ⟨n, ⟨hn, hids⟩, hid.resolve_left hids⟩
  · rintro (⟨n, hn, hid⟩ | ⟨n, ⟨hn, -⟩, hid⟩)
    · exact ⟨n, hn, .inl hid⟩
    · exact ⟨n, hn, .inr hid⟩

/-- Removing nodes and then others removes them all. -/
theorem WellFormed.remove_remove (hg : g.WellFormed) (ids more : List NodeId) :
    ((g.remove ids).2.remove more).2 = (g.remove (ids ++ more)).2 := by
  have hkept : ∀ id, (!(ids ++ more).contains id) = (!more.contains id && !ids.contains id) := by
    intro id
    rw [List.contains_append, Bool.not_or, Bool.and_comm]
  rw [(hg.remove ids).remove_eq more, hg.remove_eq ids, hg.remove_eq (ids ++ more), mentions_append]
  refine (Graph.mk.injEq ..).mpr ⟨?_, ?_, rfl, ?_⟩
  · simp only [List.filter_filter, hkept]
  · simp only [List.filter_filter, hkept]
    refine List.filter_congr fun c _ => ?_
    ac_rfl
  · have hdropped : ∀ first second : Bool,
        (if second = true then none else if first = true then none else g.order) =
          if (first || second) = true then none else g.order := by
      intro first second
      cases first <;> cases second <;> rfl
    exact hdropped _ _

/-- After nodes are removed, none of them is there to be removed again. -/
theorem WellFormed.remove_again (hg : g.WellFormed) (ids : List NodeId) :
    (g.remove ids).2.remove ids = (0, (g.remove ids).2) := by
  refine remove_of_not_mentions (hg.remove ids).ids_distinct (List.any_eq_false.mpr fun n hn => ?_)
  rw [nodes_remove hg.ids_distinct] at hn
  simpa using (List.mem_filter.mp hn).2

/-- **Removing nodes leaves the induced subgraph.** From a reachable graph exactly the listed nodes
go, the others stay as they are and in their order, with exactly the connections between them, and
the allocator does not move; the answer is by how many nodes there are fewer. So only the set of ids
counts, removing some ids and then others is removing all of them at once, and removing the same ids
again changes nothing at all, not even the kept order. -/
theorem remove_induced (hg : g.Reachable) (ids : List NodeId) :
    let h := (g.remove ids).2
    h.nodes = g.nodes.filter (fun n => n.id ∉ ids) ∧
    h.connections =
      g.connections.filter (fun c => h.contains c.source.node && h.contains c.dest.node) ∧
    h.nextId = g.nextId ∧
    (g.remove ids).1 + h.nodes.length = g.nodes.length ∧
    (∀ others, (∀ id, id ∈ others ↔ id ∈ ids) → g.remove others = g.remove ids) ∧
    (∀ more, (h.remove more).2 = (g.remove (ids ++ more)).2 ∧
      (g.remove ids).1 + (h.remove more).1 = (g.remove (ids ++ more)).1) ∧
    h.remove ids = (0, h) := by
  intro h
  have hwf := hg.invariant
  have hnodes : h.nodes = g.nodes.filter fun n => !ids.contains n.id :=
    nodes_remove hwf.ids_distinct ids
  have hsum : (g.remove ids).1 + h.nodes.length = g.nodes.length :=
    fst_remove_add hwf.ids_distinct ids
  refine ⟨?_, ?_, ?_, hsum, fun others => hwf.remove_congr, fun more => ?_, hwf.remove_again ids⟩
  · rw [hnodes]
    simp
  · have hcontains : ∀ id ∈ g.nodeIds, h.contains id = !ids.contains id := by
      intro id hid
      obtain ⟨n, hn, rfl⟩ := List.mem_map.mp hid
      rw [Bool.eq_iff_iff, contains_iff, nodeIds, hnodes, List.mem_map]
      constructor
      · rintro ⟨m, hm, hmid⟩
        exact hmid ▸ (List.mem_filter.mp hm).2
      · exact fun hkept => ⟨n, List.mem_filter.mpr ⟨hn, hkept⟩, rfl⟩
    have hconnections : h.connections = g.connections.filter fun c =>
        !ids.contains c.source.node && !ids.contains c.dest.node :=
      congrArg (fun result : Nat × Graph => result.2.connections) (hwf.remove_eq ids)
    rw [hconnections]
    refine List.filter_congr fun c hc => ?_
    obtain ⟨hsource, hdest⟩ := hwf.ends_mem hc
    rw [hcontains _ hsource, hcontains _ hdest]
  · exact g.remove_nextId ids
  · have hboth : (h.remove more).2 = (g.remove (ids ++ more)).2 := hwf.remove_remove ids more
    have hmore : (h.remove more).1 + (h.remove more).2.nodes.length = h.nodes.length :=
      fst_remove_add (hwf.remove ids).ids_distinct more
    have hall := fst_remove_add hwf.ids_distinct (ids ++ more)
    rw [hboth] at hmore
    exact ⟨hboth, by omega⟩

/-- A node in the middle is listed twice, beside an id that is not there; the order was kept. -/
theorem remove_induced_middle :
    let g := ofCalls [.add .value ⟨0, 0⟩, .add .math ⟨0, 0⟩, .add .output ⟨0, 0⟩,
      .connect ⟨1, 1⟩ ⟨2, 2⟩, .connect ⟨2, 4⟩ ⟨3, 1⟩, .connect ⟨1, 1⟩ ⟨3, 0⟩, .nodesByOrder]
    let h := (g.remove [2, 9, 2]).2
    g.Reachable ∧ g.connections.length = 3 ∧ (g.remove [2, 9, 2]).1 = 1 ∧ h.nodeIds = [1, 3] ∧
      h.connections = [⟨⟨1, 1⟩, ⟨3, 0⟩⟩] ∧ g.remove [9, 2] = g.remove [2, 9, 2] ∧
      (h.remove [1, 3]).2 = (g.remove [2, 9, 2, 1, 3]).2 ∧ h.remove [2, 9, 2] = (0, h) := by
  intro g h
  have hg : g.Reachable := reachable_ofCalls _ (by decide)
  obtain ⟨-, -, -, -, hset, hmore, hagain⟩ := remove_induced hg [2, 9, 2]
  refine ⟨hg, by decide +kernel, by decide +kernel, by decide +kernel, by decide +kernel,
    hset [9, 2] (by simp), (hmore [1, 3]).1, hagain⟩

end ShaderGraph.Graph
