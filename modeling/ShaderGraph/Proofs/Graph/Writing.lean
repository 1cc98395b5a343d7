import ShaderGraph.Proofs.Graph.Reachable
import ShaderGraph.Proofs.Value.Finite

/-!
# Writing values

There are two checks of slot values: one when a value is written into a graph, one when a node is
made of all its values, as documents are read. On reachable graphs they agree, slot by slot, so what
can be written can be saved and read again, and nothing else can be written.
-/

set_option autoImplicit false

namespace ShaderGraph

namespace Node

variable {node : Node} {index : Nat} {decl : SlotDecl} {value : SlotValue}

/-- Writing a value leaves the values at other indices. -/
theorem value?_setValue_of_ne {other : Nat} (h : other ≠ index) :
    (node.setValue index value).value? other = node.value? other :=
  List.getElem?_set_ne (Ne.symm h)

/-- A valid node may get another value in a slot exactly if the slot may hold the value. -/
theorem Valid.ofValues?_set_isSome (hn : node.Valid) (hdecl : node.decl? index = some decl) :
    (ofValues? node.id node.type node.position (node.values.set index value)).isSome = true ↔
      decl.Holds value := by
  rw [Option.isSome_iff_exists]
  constructor
  · rintro ⟨changed, hchanged⟩
    obtain ⟨rfl, hvalid⟩ := ofValues?_eq_some_iff.mp hchanged
    obtain ⟨current, hcurrent, -⟩ := hn.exists_value hdecl
    obtain ⟨hindex, -⟩ := List.getElem?_eq_some_iff.mp hcurrent
    exact hvalid.holds_at hdecl (List.getElem?_set_self hindex)
  · intro hholds
    exact ⟨_, ofValues?_eq_some_iff.mpr ⟨rfl, hn.setValue hdecl hholds⟩⟩

end Node

namespace Graph

variable {g h : Graph} {slot : SlotId} {value : SlotValue} {changed : Bool}

/-- A slot that is declared has a value. -/
theorem WellFormed.exists_slotValue? (hg : g.WellFormed) {decl : SlotDecl}
    (hdecl : g.slotDecl? slot = some decl) : ∃ current, g.slotValue? slot = some current := by
  obtain ⟨node, hn, hindex⟩ := Option.bind_eq_some_iff.mp hdecl
  obtain ⟨current, hcurrent, -⟩ :=
    (hg.nodes_valid node (mem_of_node?_eq_some hn).1).exists_value hindex
  exact ⟨current, Option.bind_eq_some_iff.mpr ⟨node, hn, hcurrent⟩⟩

/-- Writing a value succeeds exactly if the slot is an input that may hold it. -/
theorem WellFormed.setValue_isOk (hg : g.WellFormed) :
    (∃ changed h, g.setValue slot value = .ok (changed, h)) ↔
      ∃ decl, g.slotDecl? slot = some decl ∧ decl.isInput = true ∧ decl.Holds value := by
  constructor
  · rintro ⟨changed, h, hset⟩
    obtain ⟨decl, -, hdecl, -, hinput, hholds, -⟩ := setValue_eq_ok_iff.mp hset
    exact ⟨decl, hdecl, hinput, hholds⟩
  · rintro ⟨decl, hdecl, hinput, hholds⟩
    obtain ⟨current, hcurrent⟩ := hg.exists_slotValue? hdecl
    exact ⟨_, _, setValue_eq_ok_iff.mpr ⟨decl, current, hdecl, hcurrent, hinput, hholds, rfl, rfl⟩⟩

/-! ## What writing leaves alone -/

/-- Whether two graphs differ in the value of one slot at most. -/
structure DiffersAt (slot : SlotId) (g h : Graph) : Prop where
  /-- The nodes keep their ids, types and places, in the same display order. -/
  nodes : h.nodes.map (fun n => (n.id, n.type, n.position)) =
    g.nodes.map fun n => (n.id, n.type, n.position)
  others : ∀ id, id ≠ slot.node → h.node? id = g.node? id
  values : ∀ other, other ≠ slot → h.slotValue? other = g.slotValue? other
  connections : h.connections = g.connections
  nextId : h.nextId = g.nextId
  order : h.order = g.order

/-- A graph differs from itself nowhere. -/
theorem DiffersAt.refl (slot : SlotId) (g : Graph) : DiffersAt slot g g :=
  ⟨rfl, fun _ _ => rfl, fun _ _ => rfl, rfl, rfl, rfl⟩

/-- Setting the value in the node of a slot changes no more than that slot. -/
theorem differsAt_mapNode (slot : SlotId) (g : Graph) (value : SlotValue) :
    DiffersAt slot g (g.mapNode slot.node (·.setValue slot.index value)) := by
  have hnode : ∀ id, (g.mapNode slot.node (·.setValue slot.index value)).node? id =
      (g.node? id).map fun n => if n.id = slot.node then n.setValue slot.index value else n := by
    intro id
    rw [mapNode_eq, node?_mapNodes fun n => by split_ifs <;> rfl]
  refine ⟨?_, fun id hid => ?_, fun other hother => ?_, rfl, rfl, rfl⟩
  · rw [mapNode_eq, mapNodes, List.map_map]
    refine List.map_congr_left fun n _ => ?_
    dsimp only [Function.comp_apply]
    split_ifs <;> rfl
  · rw [hnode]
    cases hn : g.node? id with
    | none => rfl
    | some n =>
      rw [Option.map_some, if_neg]
      exact (mem_of_node?_eq_some hn).2 ▸ hid
  · rw [slotValue?, slotValue?, hnode]
    cases hn : g.node? other.node with
    | none => rfl
    | some n =>
      have hid : n.id = other.node := (mem_of_node?_eq_some hn).2
      dsimp only [Option.map_some, Option.bind_some]
      split_ifs with hslot
      · refine Node.value?_setValue_of_ne fun hindex => hother ?_
        exact (SlotId.mk.injEq ..).mpr ⟨hid.symm.trans hslot, hindex⟩
      · rfl

/-- A value that is written is found in its slot, or an equal one was there. -/
theorem slotValue?_setValue (hset : g.setValue slot value = .ok (changed, h)) :
    ∃ old stored, g.slotValue? slot = some old ∧ h.slotValue? slot = some stored ∧
      stored.same value = true ∧ changed = !old.same value := by
  obtain ⟨decl, old, -, hold, -, hholds, hchanged, rfl⟩ := setValue_eq_ok_iff.mp hset
  by_cases hsame : old.same value = true
  · rw [if_pos hsame]
    exact ⟨old, old, hold, hold, hsame, hchanged⟩
  · rw [if_neg hsame]
    refine ⟨old, value, hold, ?_, ?_, hchanged⟩
    · obtain ⟨n, hn, hvalue⟩ := Option.bind_eq_some_iff.mp hold
      obtain ⟨hindex, -⟩ := List.getElem?_eq_some_iff.mp hvalue
      rw [slotValue?, mapNode_eq, node?_mapNodes (fun n => by split_ifs <;> rfl), hn]
      dsimp only [Option.map_some, Option.bind_some]
      rw [if_pos (mem_of_node?_eq_some hn).2]
      exact List.getElem?_set_self hindex
    · exact SlotValue.same_self (SlotValue.finite_of_faultless hholds.faultless)

/-- A value that is written changes one slot at most, and none if no change is reported. -/
theorem setValue_differsAt (hset : g.setValue slot value = .ok (changed, h)) :
    DiffersAt slot g h ∧ (changed = false → h = g) := by
  obtain ⟨-, old, -, -, -, -, rfl, rfl⟩ := setValue_eq_ok_iff.mp hset
  by_cases hsame : old.same value = true
  · rw [if_pos hsame]
    exact ⟨.refl slot g, fun _ => rfl⟩
  · rw [if_neg hsame]
    refine ⟨differsAt_mapNode slot g value, fun hchanged => ?_⟩
    exact absurd (by simpa using hchanged) hsame

/-- **The two checks of values agree.** In a reachable graph, a value can be written into an input
slot of a node exactly if the node could be made of its values with this one in the place of the
old. Then the slot holds a value equal to the one written, a change is reported exactly if the old
one was not, and nothing else differs, not even the kept order. A refused value changes nothing, and
outputs and slots that are not there refuse every value. -/
theorem setValue_iff_ofValues (hg : g.Reachable) :
    (∀ node ∈ g.nodes, ∀ index decl, node.decl? index = some decl → decl.isInput = true → ∀ value,
      (∃ changed h, g.setValue (node.slotId index) value = .ok (changed, h)) ↔
        (Node.ofValues? node.id node.type node.position
          (node.values.set index value)).isSome = true) ∧
    (∀ slot value changed h, g.setValue slot value = .ok (changed, h) →
      (∃ old stored, g.slotValue? slot = some old ∧ h.slotValue? slot = some stored ∧
        stored.same value = true ∧ changed = !old.same value) ∧
      DiffersAt slot g h ∧ (changed = false → h = g)) ∧
    (∀ slot value error, g.setValue slot value = .error error →
      (GraphCall.setValue slot value).apply g = g) ∧
    (∀ slot value, g.slotDecl? slot = none →
      g.setValue slot value = .error (.slotNotFound slot)) ∧
    ∀ slot value decl, g.slotDecl? slot = some decl → decl.isInput = false →
      g.setValue slot value = .error (.outputSlot slot) := by
  have hwf := hg.invariant
  refine ⟨?_, ?_, ?_, ?_, ?_⟩
  · intro node hnode index decl hdecl hinput value
    have hslot : g.slotDecl? (node.slotId index) = some decl := by
      rw [slotDecl?, Node.slotId, node?_id_of_mem hwf.ids_distinct hnode]
      exact hdecl
    rw [hwf.setValue_isOk, (hwf.nodes_valid node hnode).ofValues?_set_isSome hdecl, hslot]
    simp [hinput]
  · exact fun slot value changed h hset => ⟨slotValue?_setValue hset, setValue_differsAt hset⟩
  · intro slot value error hset
    simp only [GraphCall.apply_setValue, hset]
  · intro slot value hnone
    simp only [setValue, setValueInPlace, hnone, granted_error]
  · intro slot value decl hdecl houtput
    obtain ⟨current, hcurrent⟩ := hwf.exists_slotValue? hdecl
    simp only [setValue, setValueInPlace, hdecl, hcurrent, houtput, Bool.not_false, if_true,
      granted_error]

/-- An operation can be selected if it is on the list of operations, and a number that is not finite
is refused like an operation past the end of the list. -/
theorem setValue_iff_ofValues_math :
    let g := ofCalls [.add .math ⟨0, 0⟩, .nodesByOrder]
    g.Reachable ∧ (∃ changed h, g.setValue ⟨1, 0⟩ (.enum 3) = .ok (changed, h)) ∧
      (¬∃ changed h, g.setValue ⟨1, 0⟩ (.enum 99) = .ok (changed, h)) ∧
      (¬∃ changed h, g.setValue ⟨1, 2⟩ (.float Binary32.nan) = .ok (changed, h)) ∧
      ∀ changed h, g.setValue ⟨1, 0⟩ (.enum 3) = .ok (changed, h) → h.order = some [1] := by
  intro g
  have hg : g.Reachable := reachable_ofCalls _ (by decide)
  obtain ⟨hiff, hok, -⟩ := setValue_iff_ofValues hg
  have hmem : Node.ofType 1 .math ⟨0, 0⟩ ∈ g.nodes := by decide +kernel
  have hmath := hiff _ hmem
  refine ⟨hg, (hmath 0 _ rfl rfl (.enum 3)).mpr (by decide +kernel), ?_, ?_, ?_⟩
  · rw [show (⟨1, 0⟩ : SlotId) = (Node.ofType 1 .math ⟨0, 0⟩).slotId 0 from rfl,
      hmath 0 _ rfl rfl (.enum 99)]
    decide +kernel
  · rw [show (⟨1, 2⟩ : SlotId) = (Node.ofType 1 .math ⟨0, 0⟩).slotId 2 from rfl,
      hmath 2 _ rfl rfl (.float Binary32.nan)]
    decide +kernel
  · intro changed h hset
    obtain ⟨-, hframe, -⟩ := hok _ _ changed h hset
    rw [hframe.order]
    decide +kernel

end Graph

end ShaderGraph
