import ShaderGraph.Proofs.Graph.Reachable

/-!
# Which connections are made

A connection is refused for a cycle exactly if there would be one after it has replaced whatever
leads into its slot. The search for a cycle does not know about the replacement: it runs on the
graph as it is, along the connection that is about to go as well. That does no harm. In a graph
without cycles a path from a node never comes back to it, so it takes no connection into that node,
the one to be replaced among them, and the whole path is still there afterwards.
-/

set_option autoImplicit false

namespace ShaderGraph.Graph

open Relation (ReflTransGen TransGen)

variable {g h : Graph} {c : Connection} {source dest : SlotId}

/-! ## Cycles after a replacement -/

/-- Whether a node would feed another once `c` has replaced the connection into its slot. -/
def FeedsWith (g : Graph) (c : Connection) (a b : NodeId) : Prop :=
  ∃ d, (d = c ∨ (d ∈ g.connections ∧ d.dest ≠ c.dest)) ∧ d.source.node = a ∧ d.dest.node = b

/-- In an acyclic graph, what the node at the end of `c` leads to, it still leads to after `c` has
replaced the connection into its slot. -/
theorem Acyclic.path_kept (hg : g.Acyclic) {id : NodeId}
    (hpath : ReflTransGen g.Feeds c.dest.node id) :
    ReflTransGen (g.FeedsWith c) c.dest.node id := by
  induction hpath with
  | refl => exact .refl
  | tail hbefore hstep ih =>
    obtain ⟨d, hd, rfl, rfl⟩ := hstep
    refine ih.tail ⟨d, Or.inr ⟨hd, ?_⟩, rfl, rfl⟩
    -- a connection into the slot of `c` would close a cycle with the path so far
    intro hdest
    apply hg c.dest.node
    exact TransGen.tail' hbefore ⟨d, hd, rfl, congrArg SlotId.node hdest⟩

/-- A replacement leaves an acyclic graph acyclic exactly if the node at the end of the new
connection does not lead to the one at its start, be it itself. -/
theorem Acyclic.feedsWith_iff (hg : g.Acyclic) :
    (∀ id, ¬TransGen (g.FeedsWith c) id id) ↔ ¬ReflTransGen g.Feeds c.dest.node c.source.node := by
  constructor
  · intro hfree hpath
    apply hfree c.dest.node
    exact TransGen.tail' (hg.path_kept hpath) ⟨c, Or.inl rfl, rfl, rfl⟩
  · intro hfree id hcycle
    have hstep : ∀ u v, g.FeedsWith c u v →
        g.Feeds u v ∨ (u = c.source.node ∧ v = c.dest.node) := by
      rintro u v ⟨d, rfl | ⟨hd, -⟩, rfl, rfl⟩
      · exact Or.inr ⟨rfl, rfl⟩
      · exact Or.inl ⟨d, hd, rfl, rfl⟩
    rcases transGen_insert hstep hcycle with hold | ⟨hto, hfrom⟩
    · exact hg id hold
    · exact hfree (hfrom.trans hto)

/-- What the check of a connection searches for is a path between its nodes. -/
theorem searched_iff : (source.node = dest.node ∨ source.node ∈ g.reachableFrom dest.node) ↔
    ReflTransGen g.Feeds dest.node source.node := by
  rw [mem_reachableFrom_iff]
  constructor
  · rintro (hsame | hpath)
    · rw [hsame]
    · exact hpath
  · exact Or.inr

/-! ## Refusals and results -/

/-- The check of both ends never blames a cycle. -/
theorem checkEnds_ne_wouldCycle : g.checkEnds source dest ≠ .error (.wouldCycle source dest) := by
  unfold checkEnds
  split
  · simp
  · simp
  · split_ifs <;> simp

/-- A connection is refused for a cycle if its ends are right and a path was found. -/
theorem connect_eq_wouldCycle_iff : g.connect source dest = .error (.wouldCycle source dest) ↔
    g.Allows source dest ∧ ReflTransGen g.Feeds dest.node source.node := by
  rw [← checkEnds_eq_ok_iff, ← searched_iff]
  unfold connect connectInPlace
  cases hends : g.checkEnds source dest with
  | error e =>
    have hne : e ≠ .wouldCycle source dest := by
      rintro rfl
      exact checkEnds_ne_wouldCycle hends
    simp [hne]
  | ok =>
    by_cases hpath : source.node = dest.node ∨ source.node ∈ g.reachableFrom dest.node
    · simp only [hpath, if_true, granted_error, true_and]
    · simp only [hpath, if_false, granted_ok, reduceCtorEq, and_false]

/-- After an insertion, the slot at the end of the new connection is fed by it, and every other
slot by what fed it before. -/
theorem connection?_of_insert (hs : Ascending g.connections)
    (hh : h.connections = insertConnection c g.connections) (slot : SlotId) :
    h.connection? slot = if slot = c.dest then some c else g.connection? slot := by
  have hinserted : Ascending h.connections := hh ▸ hs.insert
  apply Option.ext
  intro d
  rw [connection?_eq_some_iff hinserted, hh, hs.mem_insertConnection]
  split_ifs with hslot
  · constructor
    · rintro ⟨rfl | ⟨-, hne⟩, hdest⟩
      · rfl
      · exact absurd (hdest.trans hslot) hne
    · intro hd
      obtain rfl := Option.some.inj hd
      exact ⟨Or.inl rfl, hslot.symm⟩
  · rw [connection?_eq_some_iff hs]
    constructor
    · rintro ⟨rfl | ⟨hmem, -⟩, hdest⟩
      · exact absurd hdest.symm hslot
      · exact ⟨hmem, hdest⟩
    · rintro ⟨hmem, hdest⟩
      exact ⟨Or.inr ⟨hmem, hdest ▸ hslot⟩, hdest⟩

/-- **What connecting does.** In a reachable graph a connection is made exactly if its ends are
right and no cycle comes of it once it has replaced the connection into its slot, and it is refused
for a cycle exactly if one would come of it. What was replaced is returned, the slot is fed by the
new connection, and nothing else changes; a connection that is refused changes nothing at all. -/
theorem connect_exact (hg : g.Reachable) (source dest : SlotId) :
    ((∃ previous h, g.connect source dest = .ok (previous, h)) ↔
      g.Allows source dest ∧ ∀ id, ¬TransGen (g.FeedsWith ⟨source, dest⟩) id id) ∧
    (g.connect source dest = .error (.wouldCycle source dest) ↔
      g.Allows source dest ∧ ∃ id, TransGen (g.FeedsWith ⟨source, dest⟩) id id) ∧
    (∀ previous h, g.connect source dest = .ok (previous, h) →
      previous = g.connection? dest ∧
      (∀ slot, h.connection? slot =
        if slot = dest then some ⟨source, dest⟩ else g.connection? slot) ∧
      h.nodes = g.nodes ∧ h.nextId = g.nextId) ∧
    ∀ e, g.connect source dest = .error e → (GraphCall.connect source dest).apply g = g := by
  have hwf := hg.invariant
  have hcycle : (∀ id, ¬TransGen (g.FeedsWith ⟨source, dest⟩) id id) ↔
      ¬ReflTransGen g.Feeds dest.node source.node := hwf.acyclic.feedsWith_iff
  refine ⟨?_, ?_, ?_, ?_⟩
  · rw [hcycle, ← searched_iff, not_or]
    constructor
    · rintro ⟨previous, h, hcon⟩
      obtain ⟨hallows, hne, hreach, -⟩ := connect_eq_ok_iff.mp hcon
      exact ⟨hallows, hne, hreach⟩
    · rintro ⟨hallows, hne, hreach⟩
      exact ⟨_, _, connect_eq_ok_iff.mpr ⟨hallows, hne, hreach, rfl, rfl⟩⟩
  · rw [connect_eq_wouldCycle_iff, ← not_forall_not, hcycle, not_not]
  · intro previous h hcon
    obtain ⟨-, -, -, hprevious, rfl⟩ := connect_eq_ok_iff.mp hcon
    have hslots := connection?_of_insert (h := { g with
      connections := insertConnection ⟨source, dest⟩ g.connections
      order := if g.connection? dest = some ⟨source, dest⟩ then g.order else none })
      hwf.ascending rfl
    exact ⟨hprevious, hslots, rfl, rfl⟩
  · intro e hcon
    simp only [GraphCall.apply_connect, hcon]

/-- Two connections that would replace one: the first comes back to its node, the second does
not. -/
theorem connect_exact_replaced :
    let g := ofCalls [.add .value ⟨0, 0⟩, .add .math ⟨0, 0⟩, .add .math ⟨0, 0⟩,
      .connect ⟨1, 1⟩ ⟨2, 2⟩, .connect ⟨2, 4⟩ ⟨3, 2⟩]
    g.Reachable ∧ (∃ id, TransGen (g.FeedsWith ⟨⟨3, 4⟩, ⟨2, 2⟩⟩) id id) ∧
      (∀ id, ¬TransGen (g.FeedsWith ⟨⟨1, 1⟩, ⟨3, 2⟩⟩) id id) ∧
      ∃ h, g.connect ⟨1, 1⟩ ⟨3, 2⟩ = .ok (some ⟨⟨2, 4⟩, ⟨3, 2⟩⟩, h) ∧
        h.connection? ⟨3, 2⟩ = some ⟨⟨1, 1⟩, ⟨3, 2⟩⟩ := by
  intro g
  have hg : g.Reachable := reachable_ofCalls _ (by decide)
  have hrefused : g.connect ⟨3, 4⟩ ⟨2, 2⟩ = .error (.wouldCycle ⟨3, 4⟩ ⟨2, 2⟩) :=
    connect_eq_wouldCycle_iff.mpr
      ⟨checkEnds_eq_ok_iff.mp (by decide +kernel), mem_reachableFrom_iff.mp (by decide +kernel)⟩
  have hreplaced : g.connection? ⟨3, 2⟩ = some ⟨⟨2, 4⟩, ⟨3, 2⟩⟩ := by decide +kernel
  have hmade := connect_eq_ok_iff.mpr ⟨checkEnds_eq_ok_iff.mp
    (show g.checkEnds ⟨1, 1⟩ ⟨3, 2⟩ = .ok () by decide +kernel), by decide +kernel,
    by decide +kernel, hreplaced.symm, rfl⟩
  obtain ⟨-, hcycle, -⟩ := connect_exact hg ⟨3, 4⟩ ⟨2, 2⟩
  obtain ⟨hfree, -, hresult, -⟩ := connect_exact hg ⟨1, 1⟩ ⟨3, 2⟩
  obtain ⟨-, hslots, -⟩ := hresult _ _ hmade
  refine ⟨hg, (hcycle.mp hrefused).2, (hfree.mp ⟨_, _, hmade⟩).2, _, hmade, ?_⟩
  rw [hslots, if_pos rfl]

end ShaderGraph.Graph
