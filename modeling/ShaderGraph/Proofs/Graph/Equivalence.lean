import ShaderGraph.Proofs.Graph.Reachable
import ShaderGraph.Proofs.Graph.Same

/-!
# Equality of graphs is an equivalence

Graphs are compared one way only: as many nodes, and each node of the first found in the second.
Ids are distinct, so this is as good as comparing both ways. Among reachable graphs, which hold
finite numbers only, the comparison is an equivalence, and what it compares is what can be looked
up: the ids, what is stored under each of them, and the connection into each slot. The display
order, the allocator and the kept order have no part in it.
-/

set_option autoImplicit false

namespace ShaderGraph

/-! ## Values -/

/-- Pairs that chain up are related as the relation chains up, if no list runs out before. -/
theorem all_zip_trans {α : Type} {p : α → α → Bool}
    (h : ∀ a b c, p a b = true → p b c = true → p a c = true) {first second third : List α}
    (hlength : first.length = second.length)
    (hfirst : (first.zip second).all (fun (a, b) => p a b) = true)
    (hsecond : (second.zip third).all (fun (a, b) => p a b) = true) :
    (first.zip third).all (fun (a, b) => p a b) = true := by
  induction first generalizing second third with
  | nil => rfl
  | cons a first ih =>
    cases third with
    | nil => rfl
    | cons c third =>
      cases second with
      | nil => cases hlength
      | cons b second =>
        simp only [List.zip_cons_cons, List.all_cons, Bool.and_eq_true] at hfirst hsecond ⊢
        exact ⟨h a b c hfirst.1 hsecond.1, ih (Nat.succ.inj hlength) hfirst.2 hsecond.2⟩

/-- Numbers that are the same as one number are the same. -/
theorem Binary32.sameNumber_trans {x y z : Binary32} (hxy : x.sameNumber y = true)
    (hyz : y.sameNumber z = true) : x.sameNumber z = true := by
  simp only [sameNumber, Bool.and_eq_true, decide_eq_true_eq] at *
  exact ⟨⟨hxy.1.1, hyz.1.2⟩, hxy.2.trans hyz.2⟩

/-- Vectors of three are compared transitively, as their components are. -/
theorem Vec3.sameNumbers_trans {u v w : Vec3} (huv : u.sameNumbers v = true)
    (hvw : v.sameNumbers w = true) : u.sameNumbers w = true := by
  simp only [sameNumbers, Bool.and_eq_true] at *
  exact ⟨⟨Binary32.sameNumber_trans huv.1.1 hvw.1.1, Binary32.sameNumber_trans huv.1.2 hvw.1.2⟩,
    Binary32.sameNumber_trans huv.2 hvw.2⟩

/-- Vectors of four are compared transitively, as their components are. -/
theorem Vec4.sameNumbers_trans {u v w : Vec4} (huv : u.sameNumbers v = true)
    (hvw : v.sameNumbers w = true) : u.sameNumbers w = true := by
  simp only [sameNumbers, Bool.and_eq_true] at *
  exact ⟨⟨⟨Binary32.sameNumber_trans huv.1.1.1 hvw.1.1.1,
    Binary32.sameNumber_trans huv.1.1.2 hvw.1.1.2⟩,
    Binary32.sameNumber_trans huv.1.2 hvw.1.2⟩, Binary32.sameNumber_trans huv.2 hvw.2⟩

/-- Ramps are compared transitively, as their stops are. -/
theorem ColorRamp.sameNumbers_trans {a b c : ColorRamp} (hab : a.sameNumbers b = true)
    (hbc : b.sameNumbers c = true) : a.sameNumbers c = true := by
  have hstop : ∀ s t u : ColorStop, s.sameNumbers t = true → t.sameNumbers u = true →
      s.sameNumbers u = true := by
    intro s t u hst htu
    simp only [ColorStop.sameNumbers, Bool.and_eq_true] at *
    exact ⟨Binary32.sameNumber_trans hst.1 htu.1, Vec4.sameNumbers_trans hst.2 htu.2⟩
  simp only [sameNumbers, Bool.and_eq_true, decide_eq_true_eq] at hab hbc ⊢
  obtain ⟨⟨habInterpolation, habLength⟩, habStops⟩ := hab
  obtain ⟨⟨hbcInterpolation, hbcLength⟩, hbcStops⟩ := hbc
  exact ⟨⟨habInterpolation.trans hbcInterpolation, habLength.trans hbcLength⟩,
    all_zip_trans hstop habLength habStops hbcStops⟩

/-- Curves are compared transitively, as their points are. -/
theorem Curve.sameNumbers_trans {a b c : Curve} (hab : a.sameNumbers b = true)
    (hbc : b.sameNumbers c = true) : a.sameNumbers c = true := by
  have hpoint : ∀ p q r : CurvePoint, (p.x.sameNumber q.x && p.y.sameNumber q.y) = true →
      (q.x.sameNumber r.x && q.y.sameNumber r.y) = true →
      (p.x.sameNumber r.x && p.y.sameNumber r.y) = true := by
    intro p q r hpq hqr
    rw [Bool.and_eq_true] at *
    exact ⟨Binary32.sameNumber_trans hpq.1 hqr.1, Binary32.sameNumber_trans hpq.2 hqr.2⟩
  simp only [sameNumbers, Bool.and_eq_true, decide_eq_true_eq] at hab hbc ⊢
  exact ⟨hab.1.trans hbc.1, all_zip_trans hpoint hab.1 hab.2 hbc.2⟩

/-- Values of the same kind and the same numbers as a third one have the same numbers. -/
theorem SlotValue.same_trans {u v w : SlotValue} (huv : u.same v = true) (hvw : v.same w = true) :
    u.same w = true := by
  cases u <;> cases v <;> (try cases huv) <;> cases w <;> (try cases hvw)
  case float.float.float => exact Binary32.sameNumber_trans huv hvw
  case vector.vector.vector | color.color.color => exact Vec3.sameNumbers_trans huv hvw
  case colorRamp.colorRamp.colorRamp => exact ColorRamp.sameNumbers_trans huv hvw
  case bool.bool.bool | int.int.int | enum.enum.enum | image.image.image =>
    simp_all [same]
  case rgbCurve.rgbCurve.rgbCurve =>
    simp only [same, ColorCurves.sameNumbers, Bool.and_eq_true] at *
    exact ⟨⟨⟨Curve.sameNumbers_trans huv.1.1.1 hvw.1.1.1,
      Curve.sameNumbers_trans huv.1.1.2 hvw.1.1.2⟩,
      Curve.sameNumbers_trans huv.1.2 hvw.1.2⟩, Curve.sameNumbers_trans huv.2 hvw.2⟩
  case vectorCurve.vectorCurve.vectorCurve =>
    simp only [same, VectorCurves.sameNumbers, Bool.and_eq_true] at *
    exact ⟨⟨Curve.sameNumbers_trans huv.1.1 hvw.1.1, Curve.sameNumbers_trans huv.1.2 hvw.1.2⟩,
      Curve.sameNumbers_trans huv.2 hvw.2⟩

/-! ## Nodes -/

namespace Node

/-- Nodes are the same if they have id, type and place in common and their values are the same, one
by one. -/
theorem same_iff {a b : Node} : a.same b = true ↔ a.id = b.id ∧ a.type = b.type ∧
    a.position = b.position ∧ List.Forall₂ (fun v w => v.same w = true) a.values b.values := by
  simp only [same, Bool.and_eq_true, decide_eq_true_eq, List.forall₂_iff_zip, List.all_eq_true,
    Prod.forall]
  tauto

/-- Nodes are compared transitively, as their values are. -/
theorem same_trans {a b c : Node} (hab : a.same b = true) (hbc : b.same c = true) :
    a.same c = true := by
  have hvalue : ∀ u v w : SlotValue, u.same v = true → v.same w = true → u.same w = true :=
    fun _ _ _ => SlotValue.same_trans
  simp only [same, Bool.and_eq_true, decide_eq_true_eq] at hab hbc ⊢
  obtain ⟨⟨⟨⟨habId, habPosition⟩, habType⟩, habLength⟩, habValues⟩ := hab
  obtain ⟨⟨⟨⟨hbcId, hbcPosition⟩, hbcType⟩, hbcLength⟩, hbcValues⟩ := hbc
  exact ⟨⟨⟨⟨habId.trans hbcId, habPosition.trans hbcPosition⟩, habType.trans hbcType⟩,
    habLength.trans hbcLength⟩, all_zip_trans hvalue habLength habValues hbcValues⟩

end Node

/-! ## Graphs -/

/-- The connection into each slot leaves only one list of connections. -/
theorem Ascending.eq_of_connection? {g h : Graph} (hg : Ascending g.connections)
    (hh : Ascending h.connections) (hsame : ∀ dest, g.connection? dest = h.connection? dest) :
    g.connections = h.connections := by
  have hmem : ∀ c, c ∈ g.connections ↔ c ∈ h.connections := by
    intro c
    have hgc : g.connection? c.dest = some c ↔ c ∈ g.connections ∧ c.dest = c.dest :=
      Graph.connection?_eq_some_iff hg
    have hhc : h.connection? c.dest = some c ↔ c ∈ h.connections ∧ c.dest = c.dest :=
      Graph.connection?_eq_some_iff hh
    rw [hsame, hhc] at hgc
    simpa using hgc.symm
  refine hg.eq_of_perm hh ((List.perm_ext_iff_of_nodup ?_ ?_).mpr hmem)
  · exact .of_map Connection.dest hg.nodup_dests
  · exact .of_map Connection.dest hh.nodup_dests

namespace Graph

variable {g h k : Graph}

/-- Whether two graphs answer every look-up alike: they have the same ids, under each id a node of
the same type and place with the same values, and into each slot the same connection. -/
structure SameContent (g h : Graph) : Prop where
  ids : ∀ id, id ∈ g.nodeIds ↔ id ∈ h.nodeIds
  nodes : ∀ id n m, g.node? id = some n → h.node? id = some m → n.type = m.type ∧
    n.position = m.position ∧ List.Forall₂ (fun v w => v.same w = true) n.values m.values
  connections : ∀ dest, g.connection? dest = h.connection? dest

/-- Graphs that are the same have nodes of the same ids. -/
theorem mem_nodeIds_of_same (hsame : g.same h = true) {id : NodeId} (hid : id ∈ g.nodeIds) :
    id ∈ h.nodeIds := by
  obtain ⟨-, hnodes, -⟩ := same_iff.mp hsame
  obtain ⟨n, hn, rfl⟩ := List.mem_map.mp hid
  obtain ⟨m, hm, -⟩ := hnodes n hn
  obtain ⟨hmem, hmid⟩ := mem_of_node?_eq_some hm
  exact List.mem_map.mpr ⟨m, hmem, hmid⟩

/-- Graphs are compared transitively, whatever the display order of the one in the middle. -/
theorem same_trans (hgh : g.same h = true) (hhk : h.same k = true) : g.same k = true := by
  obtain ⟨hghLength, hghNodes, hghConnections⟩ := same_iff.mp hgh
  obtain ⟨hhkLength, hhkNodes, hhkConnections⟩ := same_iff.mp hhk
  refine same_iff.mpr ⟨hghLength.trans hhkLength, ?_, hghConnections.trans hhkConnections⟩
  intro n hn
  obtain ⟨m, hm, hnm⟩ := hghNodes n hn
  obtain ⟨hmem, hid⟩ := mem_of_node?_eq_some hm
  obtain ⟨l, hl, hml⟩ := hhkNodes m hmem
  exact ⟨l, hid ▸ hl, Node.same_trans hnm hml⟩

/-- Well-formed graphs are the same exactly if they answer every look-up alike. -/
theorem WellFormed.same_iff_sameContent (hg : g.WellFormed) (hh : h.WellFormed) :
    g.same h = true ↔ g.SameContent h := by
  constructor
  · intro hsame
    have hback := same_symm hg.ids_distinct hh.ids_distinct hsame
    obtain ⟨-, hnodes, hconnections⟩ := same_iff.mp hsame
    refine ⟨fun id => ⟨mem_nodeIds_of_same hsame, mem_nodeIds_of_same hback⟩, ?_, ?_⟩
    · intro id n m hn hm
      obtain ⟨hmem, rfl⟩ := mem_of_node?_eq_some hn
      obtain ⟨m', hm', hnm⟩ := hnodes n hmem
      obtain rfl : m = m' := Option.some.inj (hm.symm.trans hm')
      exact (Node.same_iff.mp hnm).2
    · intro dest
      rw [connection?, connection?, hconnections]
  · rintro ⟨hids, hnodes, hconnections⟩
    have hperm : g.nodeIds.Perm h.nodeIds :=
      (List.perm_ext_iff_of_nodup hg.ids_distinct hh.ids_distinct).mpr hids
    refine same_iff.mpr ⟨?_, ?_, hg.ascending.eq_of_connection? hh.ascending hconnections⟩
    · simpa [nodeIds] using hperm.length_eq
    · intro n hn
      obtain ⟨m, hm, hid⟩ := List.mem_map.mp ((hids n.id).mp (List.mem_map_of_mem hn))
      have hfound : h.node? n.id = some m := hid ▸ node?_id_of_mem hh.ids_distinct hm
      have hnode := hnodes n.id n m (node?_id_of_mem hg.ids_distinct hn) hfound
      exact ⟨m, hfound, Node.same_iff.mpr ⟨hid.symm, hnode⟩⟩

/-- **Equality of reachable graphs.** It is reflexive, symmetric and transitive, and two graphs are
the same exactly if they have the same ids, under each id a node of the same type and place with
the same values, and into each slot the same connection. A graph with its nodes in another display
order, another allocator and another kept order compares like the graph itself, from either side. -/
theorem same_equivalence (hg : g.Reachable) (hh : h.Reachable) :
    g.same g = true ∧ (g.same h = true → h.same g = true) ∧
      (∀ k, g.same h = true → h.same k = true → g.same k = true) ∧
      (g.same h = true ↔ g.SameContent h) ∧
      ∀ nodes nextId order, nodes.Perm g.nodes →
        let other : Graph := ⟨nodes, g.connections, nextId, order⟩
        other.same h = g.same h ∧ h.same other = h.same g := by
  have hgwf := hg.invariant
  have hhwf := hh.invariant
  refine ⟨hgwf.same rfl rfl, same_symm hgwf.ids_distinct hhwf.ids_distinct,
    fun _ => same_trans, hgwf.same_iff_sameContent hhwf, ?_⟩
  intro nodes nextId order hnodes other
  have hother : other.same g = true := hgwf.same_of_perm hnodes rfl
  have hdistinct : other.nodeIds.Nodup :=
    (hnodes.map Node.id).nodup_iff.mpr hgwf.ids_distinct
  have hback : g.same other = true := same_symm hdistinct hgwf.ids_distinct hother
  exact ⟨Bool.eq_iff_iff.mpr ⟨same_trans hback, same_trans hother⟩,
    Bool.eq_iff_iff.mpr ⟨fun hsame => same_trans hsame hother, fun hsame => same_trans hsame hback⟩⟩

/-- A graph, the same graph built in another order with an id to spare, and a third one in which a
zero has the other sign. -/
theorem same_equivalence_raised :
    let g := ofCalls [.add .value ⟨0, 0⟩, .add .math ⟨0, 0⟩, .setValue ⟨1, 0⟩ (.float ⟨0⟩),
      .connect ⟨1, 1⟩ ⟨2, 2⟩]
    let h := ofCalls [.addWithId .math ⟨0, 0⟩ 2, .addWithId .value ⟨0, 0⟩ 1,
      .setValue ⟨1, 0⟩ (.float ⟨0⟩), .connect ⟨1, 1⟩ ⟨2, 2⟩, .add .output ⟨0, 0⟩, .remove [3]]
    let k := ofCalls [.add .value ⟨0, 0⟩, .add .math ⟨0, 0⟩, .setValue ⟨1, 0⟩ (.float ⟨0x80000000⟩),
      .connect ⟨1, 1⟩ ⟨2, 2⟩]
    g.Reachable ∧ h.Reachable ∧ g.nodeIds = [1, 2] ∧ h.nodeIds = [2, 1] ∧ g.nextId = 3 ∧
      h.nextId = 4 ∧ g.slotValue? ⟨1, 0⟩ ≠ k.slotValue? ⟨1, 0⟩ ∧ h.same g = true ∧
      g.same k = true ∧ g.SameContent h := by
  intro g h k
  have hg : g.Reachable := reachable_ofCalls _ (by decide)
  have hh : h.Reachable := reachable_ofCalls _ (by decide)
  obtain ⟨-, hsymm, htrans, hiff, -⟩ := same_equivalence hg hh
  have hgh : g.same h = true := by decide +kernel
  have hhk : h.same k = true := by decide +kernel
  exact ⟨hg, hh, by decide +kernel, by decide +kernel, by decide +kernel, by decide +kernel,
    by decide +kernel, hsymm hgh, htrans k hgh hhk, hiff.mp hgh⟩

end Graph

end ShaderGraph
