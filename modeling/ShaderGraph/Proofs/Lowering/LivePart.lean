import Mathlib.Data.List.Find
import ShaderGraph.Proofs.Graph.Removing
import ShaderGraph.Proofs.Graph.Upstream
import ShaderGraph.Proofs.Lowering.Agreement

/-!
# The live part

The nodes that lead to the output are a part that no connection enters from outside, so the order
of the whole graph orders them as if the others were not there. A program is put together from
their types, from the connections into them and from the values that their inputs read: an input
that something feeds reads no value, and an option is never fed. Whatever else is in a graph, and
however it came there, has no part in the program.
-/

set_option autoImplicit false

namespace ShaderGraph

open Relation (ReflTransGen)

/-- Two lists with the same keys look the same if entries of one key do. -/
theorem map_eq_map_of_keys {α β κ : Type} {key : α → κ} {f f' : α → β} {first second : List α}
    (hkeys : first.map key = second.map key)
    (hf : ∀ a ∈ first, ∀ b ∈ second, key a = key b → f a = f' b) :
    first.map f = second.map f' := by
  induction first generalizing second with
  | nil =>
    obtain rfl : second = [] := List.map_eq_nil_iff.mp hkeys.symm
    rfl
  | cons a first ih =>
    cases second with
    | nil => cases hkeys
    | cons b second =>
      obtain ⟨hhead, htail⟩ := List.cons.inj hkeys
      have hrest := ih htail fun c hc d hd =>
        hf c (List.mem_cons_of_mem _ hc) d (List.mem_cons_of_mem _ hd)
      rw [List.map_cons, List.map_cons, hrest, hf a List.mem_cons_self b List.mem_cons_self hhead]

/-- Options are inputs that no connection may feed. -/
theorem NodeType.option_decl (type : NodeType) : ∀ decl ∈ type.slots, decl.slotType = .enum →
    decl.isInput = true ∧ decl.connectable = false := by
  cases type <;> decide

namespace Graph

variable {g h : Graph} {output : NodeId}

/-- No connection leads into an option, which cannot be connected. -/
theorem WellFormed.option_unfed (hg : g.WellFormed) {slot : SlotId} {decl : SlotDecl}
    (hdecl : g.slotDecl? slot = some decl) (hoption : decl.connectable = false) :
    g.connection? slot = none := by
  refine connection?_eq_none_iff.mpr ?_
  rintro c hc rfl
  obtain ⟨-, dest, -, hdest, -, -, hconnectable, -⟩ := hg.allowed c hc
  obtain rfl : dest = decl := Option.some.inj (hdest.symm.trans hdecl)
  rw [hoption] at hconnectable
  cases hconnectable

/-- Whether two graphs agree on all that leads to a node: on the types of the nodes, on the
connections into them, and on the values of those inputs that nothing feeds. -/
structure AgreeUpstream (output : NodeId) (g h : Graph) : Prop where
  types : ∀ id, ReflTransGen g.Feeds id output →
    (h.node? id).map Node.type = (g.node? id).map Node.type
  connections : ∀ slot : SlotId, ReflTransGen g.Feeds slot.node output →
    h.connection? slot = g.connection? slot
  values : ∀ (slot : SlotId) (decl : SlotDecl), ReflTransGen g.Feeds slot.node output →
    g.slotDecl? slot = some decl → decl.isInput = true → g.connection? slot = none →
    h.slotValue? slot = g.slotValue? slot

namespace AgreeUpstream

/-! ## The same live nodes -/

/-- The same connections lead into live nodes. -/
theorem mem_connections_iff (hgh : AgreeUpstream output g h) (hg : g.WellFormed)
    (hh : h.WellFormed) {c : Connection} (hlead : ReflTransGen g.Feeds c.dest.node output) :
    c ∈ h.connections ↔ c ∈ g.connections := by
  have hfound : ∀ k : Graph, k.WellFormed →
      (c ∈ k.connections ↔ k.connection? c.dest = some c) := by
    intro k hk
    rw [connection?_eq_some_iff hk.ascending]
    exact ⟨fun hc => ⟨hc, rfl⟩, And.left⟩
  rw [hfound h hh, hfound g hg, hgh.connections c.dest hlead]

/-- The same nodes feed a live node. -/
theorem feeds_iff (hgh : AgreeUpstream output g h) (hg : g.WellFormed) (hh : h.WellFormed)
    {a b : NodeId} (hlead : ReflTransGen g.Feeds b output) : h.Feeds a b ↔ g.Feeds a b := by
  constructor
  · rintro ⟨c, hc, rfl, rfl⟩
    exact ⟨c, (hgh.mem_connections_iff hg hh hlead).mp hc, rfl, rfl⟩
  · rintro ⟨c, hc, rfl, rfl⟩
    exact ⟨c, (hgh.mem_connections_iff hg hh hlead).mpr hc, rfl, rfl⟩

/-- The same nodes lead to the output. -/
theorem leads_iff (hgh : AgreeUpstream output g h) (hg : g.WellFormed) (hh : h.WellFormed)
    (id : NodeId) : ReflTransGen h.Feeds id output ↔ ReflTransGen g.Feeds id output := by
  constructor
  -- walking back from the output, each step is one of both graphs
  · intro hpath
    induction hpath using ReflTransGen.head_induction_on with
    | refl => exact .refl
    | head hstep _ ih => exact .head ((hgh.feeds_iff hg hh ih).mp hstep) ih
  · intro hpath
    induction hpath using ReflTransGen.head_induction_on with
    | refl => exact .refl
    | head hstep hrest ih => exact .head ((hgh.feeds_iff hg hh hrest).mpr hstep) ih

/-- The same nodes are found to lead to the output. -/
theorem contains_leadingTo (hgh : AgreeUpstream output g h) (hg : g.WellFormed)
    (hh : h.WellFormed) : (h.leadingTo output).contains = (g.leadingTo output).contains := by
  funext id
  rw [Bool.eq_iff_iff, List.contains_iff_mem, List.contains_iff_mem, mem_leadingTo_iff,
    mem_leadingTo_iff, hgh.leads_iff hg hh]

/-- The live nodes have the same ids, in the same order. -/
theorem ids_liveNodes (hgh : AgreeUpstream output g h) (hg : g.WellFormed) (hh : h.WellFormed) :
    (h.liveNodes output).map Node.id = (g.liveNodes output).map Node.id := by
  have hkeep : ∀ id, (g.leadingTo output).contains id = true ↔ ReflTransGen g.Feeds id output := by
    intro id
    rw [List.contains_iff_mem, mem_leadingTo_iff]
  have hcontains : ∀ (k : Graph) (id : NodeId), (k.node? id).map Node.type = none ↔
      id ∉ k.nodeIds := by
    intro k id
    rw [Option.map_eq_none_iff, node?_eq_none_iff]
  have hascending : ∀ k : Graph, k.WellFormed → Ascending
      (k.connections.filter fun c => (g.leadingTo output).contains c.dest.node) := by
    intro k hk
    exact List.Pairwise.filter _ hk.ascending
  have hsame : (h.connections.filter fun c => (g.leadingTo output).contains c.dest.node) =
      g.connections.filter fun c => (g.leadingTo output).contains c.dest.node := by
    refine (hascending h hh).eq_of_perm (hascending g hg) ?_
    rw [List.perm_ext_iff_of_nodup (hh.ascending.nodup_dests.of_map.filter _)
      (hg.ascending.nodup_dests.of_map.filter _)]
    intro c
    rw [List.mem_filter, List.mem_filter]
    exact and_congr_left fun hlead => hgh.mem_connections_iff hg hh ((hkeep _).mp hlead)
  rw [hh.ids_liveNodes, hg.ids_liveNodes, hgh.contains_leadingTo hg hh]
  refine hg.dependencyList_filter_eq hh ?_ hsame ?_
  · intro id hlead
    rw [← not_iff_not, ← hcontains h, ← hcontains g, hgh.types id ((hkeep id).mp hlead)]
  · intro c hc hlead
    exact (hkeep _).mpr (.head ⟨c, hc, rfl, rfl⟩ ((hkeep _).mp hlead))

/-! ## What live nodes read -/

/-- The slots of a live node are declared alike. -/
theorem slotDecl?_eq (hgh : AgreeUpstream output g h) {slot : SlotId}
    (hlead : ReflTransGen g.Feeds slot.node output) : h.slotDecl? slot = g.slotDecl? slot := by
  have hdecl : ∀ k : Graph, k.slotDecl? slot =
      ((k.node? slot.node).map Node.type).bind fun type => type.slots[slot.index]? := by
    intro k
    rw [Option.bind_map]
    rfl
  rw [hdecl, hdecl, hgh.types _ hlead]

/-- An input of a live node is read alike. -/
theorem readExpr_eq (hgh : AgreeUpstream output g h) {id : NodeId}
    (hlead : ReflTransGen g.Feeds id output) : h.readExpr id = g.readExpr id := by
  funext type index
  unfold readExpr
  rw [hgh.connections ⟨id, index⟩ hlead]
  cases hc : g.connection? ⟨id, index⟩ with
  | none => rfl
  | some c =>
    obtain ⟨hmem, hdest⟩ := mem_of_connection?_eq_some hc
    have hfeeds : g.Feeds c.source.node id := ⟨c, hmem, rfl, congrArg SlotId.node hdest⟩
    simp only [hgh.slotDecl?_eq (.head hfeeds hlead)]

section LiveNode

variable {n m : Node}

/-- Live nodes of one id have the same type. -/
theorem type_eq (hgh : AgreeUpstream output g h) (hg : g.WellFormed) (hh : h.WellFormed)
    (hn : n ∈ h.liveNodes output) (hm : m ∈ g.liveNodes output) (hid : n.id = m.id) :
    n.type = m.type := by
  obtain ⟨hnmem, -⟩ := hh.mem_liveNodes.mp hn
  obtain ⟨hmmem, hlead⟩ := hg.mem_liveNodes.mp hm
  have htypes := hgh.types m.id hlead
  rw [node?_id_of_mem hg.ids_distinct hmmem, ← hid, node?_id_of_mem hh.ids_distinct hnmem] at htypes
  exact Option.some.inj htypes

/-- Where nothing feeds an input of a live node, both nodes have the same value there. -/
theorem value?_eq (hgh : AgreeUpstream output g h) (hg : g.WellFormed) (hh : h.WellFormed)
    (hn : n ∈ h.liveNodes output) (hm : m ∈ g.liveNodes output) (hid : n.id = m.id) {index : Nat}
    {decl : SlotDecl} (hdecl : m.decl? index = some decl) (hinput : decl.isInput = true)
    (hfree : g.connection? ⟨m.id, index⟩ = none) : n.value? index = m.value? index := by
  obtain ⟨hnmem, -⟩ := hh.mem_liveNodes.mp hn
  obtain ⟨hmmem, hlead⟩ := hg.mem_liveNodes.mp hm
  have hslot : g.slotDecl? ⟨m.id, index⟩ = some decl :=
    (slotDecl?_eq_some_iff hg.ids_distinct).mpr ⟨m, hmmem, rfl, hdecl⟩
  have hvalues := hgh.values ⟨m.id, index⟩ decl hlead hslot hinput hfree
  have hn? : h.node? m.id = some n := hid ▸ node?_id_of_mem hh.ids_distinct hnmem
  have hm? : g.node? m.id = some m := node?_id_of_mem hg.ids_distinct hmmem
  rwa [slotValue?, slotValue?, hn?, hm?] at hvalues

/-- Live nodes of one id have the same options. -/
theorem option_eq (hgh : AgreeUpstream output g h) (hg : g.WellFormed) (hh : h.WellFormed)
    (hn : n ∈ h.liveNodes output) (hm : m ∈ g.liveNodes output) (hid : n.id = m.id) :
    n.option = m.option := by
  have htype := hgh.type_eq hg hh hn hm hid
  have hnvalid := hh.liveNodes_valid n hn
  have hmvalid := hg.liveNodes_valid m hm
  obtain ⟨hmmem, -⟩ := hg.mem_liveNodes.mp hm
  funext index
  unfold Node.option
  cases hdecl : m.decl? index with
  | none =>
    have hbeyond : m.type.slots.length ≤ index := List.getElem?_eq_none_iff.mp hdecl
    have hnone : ∀ k : Node, k.Valid → k.type = m.type → k.value? index = none := by
      intro k hk hkm
      have hlength := List.Forall₂.length_eq hk
      rw [hkm] at hlength
      exact List.getElem?_eq_none_iff.mpr (by omega)
    rw [hnone n hnvalid htype, hnone m hmvalid rfl]
  | some decl =>
    by_cases henum : decl.slotType = .enum
    · obtain ⟨hinput, hclosed⟩ :=
        m.type.option_decl decl (List.mem_of_getElem? hdecl) henum
      have hslot : g.slotDecl? ⟨m.id, index⟩ = some decl :=
        (slotDecl?_eq_some_iff hg.ids_distinct).mpr ⟨m, hmmem, rfl, hdecl⟩
      rw [hgh.value?_eq hg hh hn hm hid hdecl hinput (hg.option_unfed hslot hclosed)]
    · -- a value that is no option selects nothing, whichever it is
      have hzero : ∀ k : Node, k.Valid → k.decl? index = some decl →
          (k.value? index).bind SlotValue.asEnum? = none := by
        intro k hk hkdecl
        obtain ⟨value, hvalue, hholds⟩ := hk.exists_value hkdecl
        rw [hvalue, Option.bind_some]
        have htype := hholds.type_eq
        cases value with
        | enum option => exact absurd htype henum
        | _ => rfl
      have hndecl : n.decl? index = some decl := by rw [Node.decl?, htype]; exact hdecl
      rw [hzero n hnvalid hndecl, hzero m hmvalid hdecl]

/-- Live nodes of one id have the same statements. -/
theorem statementsOf_eq (hgh : AgreeUpstream output g h) (hg : g.WellFormed) (hh : h.WellFormed)
    (hn : n ∈ h.liveNodes output) (hm : m ∈ g.liveNodes output) (hid : n.id = m.id) :
    h.statementsOf n = g.statementsOf m := by
  have hlead := (hg.mem_liveNodes.mp hm).2
  unfold statementsOf
  rw [hgh.option_eq hg hh hn hm hid, hgh.type_eq hg hh hn hm hid, hid, hgh.readExpr_eq hlead]

/-- Live nodes of one id give rise to the same parameters. -/
theorem parameters_eq (hgh : AgreeUpstream output g h) (hg : g.WellFormed) (hh : h.WellFormed)
    (hn : n ∈ h.liveNodes output) (hm : m ∈ g.liveNodes output) (hid : n.id = m.id) :
    n.inputs.filterMap (h.slotParameter? n.type) =
      m.inputs.filterMap (g.slotParameter? m.type) := by
  have htype := hgh.type_eq hg hh hn hm hid
  have hlead := (hg.mem_liveNodes.mp hm).2
  have hindices : n.inputs.map (fun slot => slot.id.index) =
      m.inputs.map fun slot => slot.id.index := by
    rw [(hh.liveNodes_valid n hn).inputs_indices, (hg.liveNodes_valid m hm).inputs_indices, htype]
  have hslots : n.inputs.map (h.slotParameter? n.type) =
      m.inputs.map (g.slotParameter? m.type) := by
    refine map_eq_map_of_keys hindices ?_
    intro s hs t ht hindex
    obtain ⟨i, hsid, -, hsvalue, -⟩ := Node.mem_inputs.mp hs
    obtain ⟨j, htid, htdecl, htvalue, htinput⟩ := Node.mem_inputs.mp ht
    obtain rfl : i = j := by rwa [hsid, htid] at hindex
    have haddress : s.id = t.id := by rw [hsid, htid, hid]
    have hconnection : h.connection? t.id = g.connection? t.id :=
      hgh.connections t.id (by rw [htid]; exact hlead)
    unfold slotParameter?
    rw [haddress, hconnection, htype]
    cases hc : g.connection? t.id with
    | some c => simp
    | none =>
      have hvalue := hgh.value?_eq hg hh hn hm hid htdecl htinput (htid ▸ hc)
      obtain hvalue : s.value = t.value := by rwa [hsvalue, htvalue, Option.some_inj] at hvalue
      rw [hvalue]
  have hlist : ∀ (k : Graph) (slots : List Node.Slot) (type : NodeType),
      slots.filterMap (k.slotParameter? type) =
        (slots.map (k.slotParameter? type)).filterMap id := by
    intro k slots type
    rw [List.filterMap_map]
    rfl
  rw [hlist, hlist, hslots]

end LiveNode

/-- Graphs that agree on all that leads to a node have the same program for it. -/
theorem programFor_eq (hgh : AgreeUpstream output g h) (hg : g.WellFormed) (hh : h.WellFormed) :
    h.programFor output = g.programFor output := by
  have hids := hgh.ids_liveNodes hg hh
  have hstatements : (h.liveNodes output).flatMap h.statementsOf =
      (g.liveNodes output).flatMap g.statementsOf := by
    rw [List.flatMap_def, List.flatMap_def]
    refine congrArg List.flatten (map_eq_map_of_keys hids ?_)
    intro n hn m hm hid
    exact hgh.statementsOf_eq hg hh hn hm hid
  have hparameters : h.parameterList (h.liveNodes output) =
      g.parameterList (g.liveNodes output) := by
    unfold parameterList
    rw [List.flatMap_def, List.flatMap_def]
    refine congrArg List.flatten (map_eq_map_of_keys hids ?_)
    intro n hn m hm hid
    exact hgh.parameters_eq hg hh hn hm hid
  unfold programFor
  rw [hstatements, hparameters, hgh.readExpr_eq .refl]

end AgreeUpstream

/-! ## Code -/

/-- Consistent graphs that agree on types and values have the same code. -/
theorem AgreeOn.generateCode_eq (hgh : AgreeOn Node.content g h) (hg : g.Consistent)
    (hh : h.Consistent) : h.generateCode.1 = g.generateCode.1 := by
  have houtput := hgh.skeleton.outputNode?_eq
  cases ho : g.outputNode? with
  | none =>
    rw [(hg.generate_eq_missing ho).1, (hh.generate_eq_missing (houtput.trans ho)).1]
  | some output =>
    rw [hg.generateCode_eq ho, hh.generateCode_eq (houtput.trans ho),
      hgh.programFor_eq_of_content hg.ids_distinct]

/-- Removing nodes that do not lead to a node leaves all that does. -/
theorem remove_agreeUpstream (hg : g.WellFormed) (ids : List NodeId)
    (hdead : ∀ id ∈ ids, ¬ReflTransGen g.Feeds id output) :
    AgreeUpstream output g (g.remove ids).2 := by
  have hkept : ∀ id, ReflTransGen g.Feeds id output → id ∉ ids := by
    intro id hlead hid
    exact hdead id hid hlead
  have hnode : ∀ id, ReflTransGen g.Feeds id output → (g.remove ids).2.node? id = g.node? id := by
    intro id hlead
    rw [node?, nodes_remove hg.ids_distinct, List.find?_filter]
    refine List.find?_congr ?_
    intro n _
    by_cases hid : n.id = id
    · simp [hid, hkept id hlead]
    · simp [hid]
  refine ⟨fun id hlead => by rw [hnode id hlead], ?_, ?_⟩
  · intro slot hlead
    rw [hg.remove_eq ids]
    simp only [connection?, List.find?_filter]
    refine List.find?_congr ?_
    intro c hc
    by_cases hdest : c.dest = slot
    · have hsource : ReflTransGen g.Feeds c.source.node output :=
        .head ⟨c, hc, rfl, congrArg SlotId.node hdest⟩ hlead
      simp [hdest, hkept _ hlead, hkept _ hsource]
    · simp [hdest]
  · intro slot _ hlead _ _ _
    rw [slotValue?, slotValue?, hnode _ hlead]

/-- Removing other nodes keeps the designated output node. -/
theorem outputNode?_remove (hg : g.WellFormed) (ho : g.outputNode? = some output)
    (ids : List NodeId) (hid : output ∉ ids) : (g.remove ids).2.outputNode? = some output := by
  unfold outputNode? at ho ⊢
  rw [List.min?_eq_some_iff] at ho ⊢
  obtain ⟨hmem, hle⟩ := ho
  obtain ⟨n, hn, rfl⟩ := List.mem_map.mp hmem
  obtain ⟨hn, htype⟩ := List.mem_filter.mp hn
  rw [nodes_remove hg.ids_distinct]
  refine ⟨List.mem_map.mpr ⟨n, ?_, rfl⟩, ?_⟩
  · simpa [hn, hid] using htype
  · intro id hother
    obtain ⟨m, hm, rfl⟩ := List.mem_map.mp hother
    obtain ⟨hm, hmtype⟩ := List.mem_filter.mp hm
    exact hle _ (List.mem_map_of_mem (List.mem_filter.mpr ⟨(List.mem_filter.mp hm).1, hmtype⟩))

/-- **Code depends on the live part alone.** A reachable graph with an output node has a program,
and every reachable graph with the same output node that agrees with it on the types of the nodes
leading there, on the connections into them and on the values of their inputs that nothing feeds
has the same live nodes and the same program. So the program is the same whatever the display
order, the allocator and the kept order are, without nodes that do not lead to the output, and
after nodes are raised or moved or the order is asked for. -/
theorem generateCode_upstream (hg : g.Reachable) (ho : g.outputNode? = some output) :
    g.generateCode.1 = .ok (g.programFor output) ∧
    (∀ h : Graph, h.Reachable → h.outputNode? = some output → AgreeUpstream output g h →
      (∀ id, ReflTransGen h.Feeds id output ↔ ReflTransGen g.Feeds id output) ∧
        h.generateCode.1 = g.generateCode.1) ∧
    (∀ h : Graph, h.Reachable → h.nodes.Perm g.nodes → h.connections.Perm g.connections →
      h.generateCode.1 = g.generateCode.1) ∧
    (∀ ids : List NodeId, (∀ id ∈ ids, ¬ReflTransGen g.Feeds id output) →
      (g.remove ids).2.generateCode.1 = g.generateCode.1) ∧
    (∀ id, (g.raise id).2.generateCode.1 = g.generateCode.1) ∧
    (∀ ids delta, (g.move ids delta).2.generateCode.1 = g.generateCode.1) ∧
    g.nodesByOrder.2.generateCode.1 = g.generateCode.1 := by
  have hc := hg.consistent
  have hcode := hc.generateCode_eq ho
  -- edits that allocate nothing need no room
  have hedit : ∀ c : GraphCall, c.allocations g = 0 → (c.apply g).Consistent := by
    intro c hnone
    exact hc.apply c fun halloc => by omega
  have hagree : ∀ h : Graph, h.Consistent → h.outputNode? = some output →
      AgreeUpstream output g h → h.generateCode.1 = g.generateCode.1 := by
    intro h hh hoh hgh
    rw [hh.generateCode_eq hoh, hcode, hgh.programFor_eq hc.toWellFormed hh.toWellFormed]
  refine ⟨hcode, ?_, ?_, ?_, ?_, ?_, ?_⟩
  · intro h hh hoh hgh
    exact ⟨hgh.leads_iff hg.invariant hh.invariant, hagree h hh.consistent hoh hgh⟩
  · intro h hh hnodes hconnections
    have hsame : h.connections = g.connections :=
      hh.invariant.ascending.eq_of_perm hg.invariant.ascending hconnections
    exact (AgreeOn.of_perm hsame hnodes).generateCode_eq hc hh.consistent
  · intro ids hdead
    have hkept : output ∉ ids := fun hid => hdead output hid .refl
    exact hagree _ (hedit (.remove ids) rfl) (outputNode?_remove hg.invariant ho ids hkept)
      (remove_agreeUpstream hg.invariant ids hdead)
  · intro id
    exact (hc.raise_agrees id).generateCode_eq hc (hedit (.raise id) rfl)
  · intro ids delta
    exact (g.move_agrees ids delta).generateCode_eq hc (hedit (.move ids delta) rfl)
  · obtain ⟨hnodes, hconnections, -⟩ := g.nodesByOrder_frame
    exact (AgreeOn.of_perm hconnections (.of_eq hnodes)).generateCode_eq hc hc.nodesByOrder

/-- A number that feeds the output, beside a texture that feeds nothing; the graph without it, built
the other way round; and the same nodes in another order. -/
theorem generateCode_upstream_value :
    let g := ofCalls [.add .value ⟨0, 0⟩, .add .noiseTexture ⟨0, 0⟩, .add .output ⟨0, 0⟩,
      .connect ⟨1, 1⟩ ⟨3, 1⟩]
    let h := ofCalls [.addWithId .output ⟨7, 7⟩ 3, .addWithId .value ⟨7, 7⟩ 1,
      .connect ⟨1, 1⟩ ⟨3, 1⟩, .setValue ⟨3, 1⟩ (.float 0.0), .nodesByOrder]
    let k := ofCalls [.addWithId .output ⟨0, 0⟩ 3, .addWithId .noiseTexture ⟨0, 0⟩ 2,
      .addWithId .value ⟨0, 0⟩ 1, .connect ⟨1, 1⟩ ⟨3, 1⟩]
    h.slotValue? ⟨3, 1⟩ ≠ g.slotValue? ⟨3, 1⟩ ∧ h.generateCode.1 = g.generateCode.1 ∧
      k.generateCode.1 = g.generateCode.1 ∧ (g.remove [2]).2.generateCode.1 = g.generateCode.1 := by
  intro g h k
  have hg : g.Reachable := reachable_ofCalls _ (by decide)
  have hh : h.Reachable := reachable_ofCalls _ (by decide)
  have hk : k.Reachable := reachable_ofCalls _ (by decide)
  have hlive : g.leadingTo 3 = [1, 3] := by decide +kernel
  have hconnections : h.connections = g.connections := by decide +kernel
  have hlead : ∀ id, ReflTransGen g.Feeds id 3 → id = 1 ∨ id = 3 := by
    intro id hid
    simpa [hlive] using mem_leadingTo_iff.mpr hid
  have htypes : (h.node? 1).map Node.type = (g.node? 1).map Node.type ∧
      (h.node? 3).map Node.type = (g.node? 3).map Node.type := by
    decide +kernel
  have hvalues : (h.node? 1).map Node.values = (g.node? 1).map Node.values := by decide +kernel
  have hcolor : h.slotValue? ⟨3, 0⟩ = g.slotValue? ⟨3, 0⟩ := by decide +kernel
  have hagree : AgreeUpstream 3 g h := by
    refine ⟨?_, ?_, ?_⟩
    · intro id hid
      rcases hlead id hid with rfl | rfl
      · exact htypes.1
      · exact htypes.2
    · intro slot _
      rw [connection?, connection?, hconnections]
    · rintro ⟨id, index⟩ decl hid hdecl _ hfree
      rcases hlead id hid with rfl | rfl
      · have hvalue : ∀ k : Graph, k.slotValue? ⟨1, index⟩ =
            ((k.node? 1).map Node.values).bind fun values => values[index]? := by
          intro k
          rw [Option.bind_map]
          rfl
        rw [hvalue, hvalue, hvalues]
      · obtain _ | _ | index := index
        · exact hcolor
        · exact absurd hfree (by decide +kernel)
        · have hnode : g.node? 3 =
              some ⟨3, .output, ⟨0, 0⟩, (Node.ofType 3 .output ⟨0, 0⟩).values⟩ := by
            decide +kernel
          rw [slotDecl?, hnode] at hdecl
          cases hdecl
  obtain ⟨-, hupstream, hperm, hremove, -⟩ :=
    generateCode_upstream hg (show g.outputNode? = some 3 by decide +kernel)
  refine ⟨by decide +kernel, (hupstream h hh (by decide +kernel) hagree).2,
    hperm k hk (by decide +kernel) (by decide +kernel), hremove [2] ?_⟩
  intro id hid hlead'
  obtain rfl := List.mem_singleton.mp hid
  simpa using hlead 2 hlead'

end Graph

end ShaderGraph
