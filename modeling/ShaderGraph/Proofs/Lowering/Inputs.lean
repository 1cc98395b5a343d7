import Mathlib.Data.List.Forall2
import ShaderGraph.Lowering
import ShaderGraph.Proofs.Graph.Order
import ShaderGraph.Proofs.Lowering.Names
import ShaderGraph.Proofs.Refusal

/-!
# Inputs of a node

Which slots of a node are inputs, and in which order, follows from its type. In a well-formed graph
every input reads an expression, which depends on the type and id of its node, on the connection
into it and on the declaration of the slot that feeds it, but on no value; and it has a parameter
exactly if nothing feeds it, it stands for no coordinate and it is no option.
-/

set_option autoImplicit false

namespace ShaderGraph

namespace NodeType

variable {type : NodeType} {index : Nat}

/-- The indices of the slots of a type whose declaration is of some kind, in slot order. -/
def indices (type : NodeType) (kind : SlotDecl → Bool) : List Nat :=
  (type.slots.zipIdx.filter fun entry => kind entry.1).map Prod.snd

/-- The indices of the input slots. -/
def inputIndices (type : NodeType) : List Nat := type.indices SlotDecl.isInput

/-- The indices of the output slots. -/
def outputIndices (type : NodeType) : List Nat := type.indices SlotDecl.isOutput

/-- The indices of the input slots that hold values and not options. -/
def valueIndices (type : NodeType) : List Nat :=
  type.indices fun decl => decl.isInput && decide (decl.slotType ≠ .enum)

/-- An index is listed if the slot there is declared so. -/
theorem mem_indices {kind : SlotDecl → Bool} :
    index ∈ type.indices kind ↔ ∃ decl, type.slots[index]? = some decl ∧ kind decl = true := by
  simp [indices, List.mem_zipIdx_iff_getElem?]

end NodeType

namespace Node

variable {node : Node} {slot : Node.Slot}

/-- The slots of a node are the rows of its slot table with the values at their indices. -/
theorem mem_slots : slot ∈ node.slots ↔ ∃ index, slot.id = ⟨node.id, index⟩ ∧
    node.decl? index = some slot.decl ∧ node.value? index = some slot.value := by
  obtain ⟨id, decl, value⟩ := slot
  simp only [slots, List.mem_mapIdx, decl?, value?, slotId, Slot.mk.injEq]
  constructor
  · rintro ⟨index, hindex, rfl, rfl, rfl⟩
    rw [List.length_zip] at hindex
    refine ⟨index, rfl, ?_, ?_⟩ <;> rw [List.getElem?_eq_getElem (by omega)] <;> simp
  · rintro ⟨index, rfl, hdecl, hvalue⟩
    obtain ⟨hi, rfl⟩ := List.getElem?_eq_some_iff.mp hdecl
    obtain ⟨hj, rfl⟩ := List.getElem?_eq_some_iff.mp hvalue
    exact ⟨index, by rw [List.length_zip]; omega, rfl, by simp⟩

/-- The inputs of a node are those slots that its type declares as inputs. -/
theorem mem_inputs : slot ∈ node.inputs ↔ ∃ index, slot.id = ⟨node.id, index⟩ ∧
    node.decl? index = some slot.decl ∧ node.value? index = some slot.value ∧
    slot.decl.isInput = true := by
  rw [inputs, List.mem_filter, mem_slots]
  constructor
  · rintro ⟨⟨index, hid, hdecl, hvalue⟩, hinput⟩
    exact ⟨index, hid, hdecl, hvalue, hinput⟩
  · rintro ⟨index, hid, hdecl, hvalue, hinput⟩
    exact ⟨⟨index, hid, hdecl, hvalue⟩, hinput⟩

/-- In a valid node, the inputs stand at the input indices of its type. -/
theorem Valid.inputs_indices (hn : node.Valid) :
    node.inputs.map (fun slot => slot.id.index) = node.type.inputIndices := by
  have hzip : ∀ (decls : List SlotDecl) (values : List SlotValue) (start : Nat),
      List.Forall₂ SlotDecl.Holds decls values →
      (((decls.zip values).zipIdx start).filter fun e => e.1.1.isInput).map Prod.snd =
        ((decls.zipIdx start).filter fun e => e.1.isInput).map Prod.snd := by
    intro decls values start h
    induction h generalizing start with
    | nil => rfl
    | @cons decl value decls values _ _ ih =>
      rw [List.zip_cons_cons, List.zipIdx_cons, List.zipIdx_cons, List.filter_cons,
        List.filter_cons]
      cases decl.isInput with
      | true => simpa using ih (start + 1)
      | false => simpa using ih (start + 1)
  rw [NodeType.inputIndices, NodeType.indices, ← hzip _ _ 0 hn, inputs, slots,
    List.mapIdx_eq_zipIdx_map, List.filter_map, List.map_map]
  rfl

/-- No two inputs of a node have the same address. -/
theorem Valid.inputs_nodup (hn : node.Valid) : (node.inputs.map Slot.id).Nodup := by
  have hindices : ((node.inputs.map Slot.id).map SlotId.index).Nodup := by
    have hsnd : (node.type.slots.zipIdx.map Prod.snd).Nodup := by
      rw [List.zipIdx_map_snd]
      exact List.nodup_range'
    rw [List.map_map]
    exact hn.inputs_indices ▸ hsnd.sublist (List.filter_sublist.map _)
  exact hindices.of_map _

end Node

namespace Graph

variable {g h : Graph} {node : Node}

/-- The expression that the input of a node reads, if all that it refers to is there. -/
def readExpr (g : Graph) (id : NodeId) (type : NodeType) (index : Nat) : Expr :=
  match g.connection? ⟨id, index⟩ with
  | some c =>
    match g.slotDecl? c.source, type.slots[index]? with
    | some source, some decl =>
      convertExpr (.var (varName c.source)) source.slotType decl.slotType
    | _, _ => default
  | none =>
    match implicitInput? type index with
    | some input => .input input
    | none => .param (paramName ⟨id, index⟩)

/-- In a well-formed graph every input reads an expression. -/
theorem WellFormed.inputExprs_eq (hg : g.WellFormed) (hn : node ∈ g.nodes) :
    g.inputExprs node = .ok (node.type.inputIndices.map (g.readExpr node.id node.type)) := by
  have hread : ∀ slot ∈ node.inputs,
      g.inputExpr node.type slot = .ok (g.readExpr node.id node.type slot.id.index) := by
    intro slot hslot
    obtain ⟨index, hid, hdecl, -, -⟩ := Node.mem_inputs.mp hslot
    unfold inputExpr readExpr
    rw [hid]
    cases hc : g.connection? ⟨node.id, index⟩ with
    | none =>
      cases implicitInput? node.type index <;> simp
    | some c =>
      obtain ⟨source, dest, hsource, -⟩ := hg.allowed c (mem_of_connection?_eq_some hc).1
      have hrow : node.type.slots[index]? = some slot.decl := hdecl
      simp [hsource, hrow]
  rw [inputExprs, mapM_eq_ok hread, ← (hg.nodes_valid node hn).inputs_indices, List.map_map]
  rfl

/-- What a partial function gives on a list stands in the list of what it stands for. -/
theorem map_filterMap_sublist {α β γ : Type} {f : α → Option β} {key : β → γ} {origin : α → γ}
    (entries : List α) (h : ∀ a b, f a = some b → key b = origin a) :
    ((entries.filterMap f).map key).Sublist (entries.map origin) := by
  induction entries with
  | nil => exact .slnil
  | cons a rest ih =>
    rw [List.map_cons]
    cases hf : f a with
    | none => rw [List.filterMap_cons_none hf]; exact ih.cons _
    | some b => rw [List.filterMap_cons_some hf, List.map_cons, h a b hf]; exact ih.cons_cons _

/-- A parameter of a node has the name and address of the input that reads it. -/
theorem slotParameter?_eq_some {type : NodeType} {slot : Node.Slot} {p : Parameter}
    (hp : g.slotParameter? type slot = some p) : p.name = paramName slot.id ∧ p.slot = slot.id ∧
      g.connection? slot.id = none ∧ implicitInput? type slot.id.index = none ∧
      slot.value.parameter? = some p.value := by
  unfold slotParameter? at hp
  split_ifs at hp with hread
  rw [Bool.or_eq_true, not_or] at hread
  obtain ⟨value, hvalue, rfl⟩ := Option.map_eq_some_iff.mp hp
  exact ⟨rfl, rfl, by simpa using hread.1, by simpa using hread.2, hvalue⟩

/-- The parameters of a list of nodes, in order of node and slot. -/
def parameterList (g : Graph) (nodes : List Node) : List Parameter :=
  nodes.flatMap fun node => node.inputs.filterMap (g.slotParameter? node.type)

/-- The parameters of a list of nodes belong to inputs of these nodes. -/
theorem mem_parameterList {nodes : List Node} {p : Parameter} :
    p ∈ g.parameterList nodes ↔
      ∃ node ∈ nodes, ∃ slot ∈ node.inputs, g.slotParameter? node.type slot = some p := by
  simp [parameterList]

/-- No two parameters of distinct valid nodes have the same name. -/
theorem parameterList_names_nodup {nodes : List Node} (hd : (nodes.map Node.id).Nodup)
    (hvalid : ∀ node ∈ nodes, node.Valid) :
    ((g.parameterList nodes).map Parameter.name).Nodup := by
  have hslots : ((g.parameterList nodes).map Parameter.slot).Nodup := by
    induction nodes with
    | nil => exact List.nodup_nil
    | cons node rest ih =>
      rw [List.map_cons, List.nodup_cons] at hd
      rw [parameterList, List.flatMap_cons, List.map_append, List.nodup_append]
      refine ⟨?_, ih hd.2 fun n hn => hvalid n (List.mem_cons_of_mem _ hn), ?_⟩
      · exact (hvalid node List.mem_cons_self).inputs_nodup.sublist
          (map_filterMap_sublist _ fun _ _ hp => (slotParameter?_eq_some hp).2.1)
      · rintro a ha b hb rfl
        obtain ⟨p, hp, hpa⟩ := List.mem_map.mp ha
        obtain ⟨q, hq, hqa⟩ := List.mem_map.mp hb
        obtain ⟨s, hs, hps⟩ := List.mem_filterMap.mp hp
        obtain ⟨other, hother, t, ht, hqt⟩ := mem_parameterList.mp hq
        obtain ⟨i, hsi, -⟩ := Node.mem_inputs.mp hs
        obtain ⟨j, htj, -⟩ := Node.mem_inputs.mp ht
        have hid : node.id = other.id := by
          have hslot : s.id = t.id := by
            rw [← (slotParameter?_eq_some hps).2.1, ← (slotParameter?_eq_some hqt).2.1, hpa, hqa]
          rw [hsi, htj] at hslot
          exact congrArg SlotId.node hslot
        exact hd.1 (hid ▸ List.mem_map_of_mem hother)
  have hname : (g.parameterList nodes).map Parameter.name =
      ((g.parameterList nodes).map Parameter.slot).map paramName := by
    rw [List.map_map]
    refine List.map_congr_left fun p hp => ?_
    obtain ⟨node, -, slot, -, hslot⟩ := mem_parameterList.mp hp
    obtain ⟨hname, hid, -⟩ := slotParameter?_eq_some hslot
    rw [Function.comp, hname, hid]
  rw [hname]
  exact hslots.map paramName_injective

end Graph

/-- Inserting parameters with new names appends them. -/
theorem ParameterTable.foldl_insert (table : ParameterTable) (ps : List Parameter)
    (hd : ((table.entries ++ ps).map Parameter.name).Nodup) :
    ps.foldl ParameterTable.insert table = ⟨table.entries ++ ps⟩ := by
  induction ps generalizing table with
  | nil => simp
  | cons p rest ih =>
    have hnew : table.contains p.name = false := by
      rw [List.map_append, List.map_cons, List.nodup_append] at hd
      simp only [contains, get?, Option.isSome_eq_false_iff, Option.isNone_iff_eq_none,
        List.find?_eq_none]
      intro q hq hname
      exact hd.2.2 _ (List.mem_map_of_mem hq) _ List.mem_cons_self (by simpa using hname)
    rw [List.foldl_cons, insert, hnew]
    simp only [Bool.false_eq_true, if_false]
    rw [ih _ (by simpa using hd)]
    simp

/-- In a well-formed graph the table of distinct nodes lists their parameters. -/
theorem Graph.parametersOf_eq {g : Graph} {nodes : List Node} (hd : (nodes.map Node.id).Nodup)
    (hvalid : ∀ node ∈ nodes, node.Valid) : g.parametersOf nodes = ⟨g.parameterList nodes⟩ := by
  have hnames := Graph.parameterList_names_nodup (g := g) hd hvalid
  have hfold := ParameterTable.foldl_insert .empty (g.parameterList nodes)
    (by simpa [ParameterTable.empty] using hnames)
  simpa [Graph.parametersOf, Graph.parameterList, ParameterTable.empty] using hfold

end ShaderGraph
