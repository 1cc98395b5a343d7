import Mathlib.Algebra.Group.Nat.Defs
import ShaderGraph.Document.Reader
import ShaderGraph.Proofs.Graph.Edits
import ShaderGraph.Proofs.Refusal

/-!
# Reachable graphs

A graph is reachable if it comes from the empty graph, or from a document that was accepted, by any
sequence of calls, successful or not, with fewer than `2 ^ 63` allocations of ids among them. Every
reachable graph is well formed: documents insert their nodes and connections one by one through the
checks of the edits, so one lemma for each call settles both. The allocator starts at `2 ^ 63` at
most and each allocation moves it up by one, so it never reaches its end.
-/

set_option autoImplicit false

namespace ShaderGraph

/-! ## Loading documents -/

/-- The node that a record stands for. -/
def NodeRecord.toNode (record : NodeRecord) : Node :=
  ⟨record.id, record.type, record.position, record.values⟩

namespace GraphDocument

variable {g h : Graph}

/-- A record is inserted if its values fit its type and its node is inserted. -/
theorem insertRecord_eq_ok_iff {record : NodeRecord} : insertRecord g record = .ok h ↔
    record.toNode.Valid ∧ g.insertNode record.toNode = .ok h := by
  unfold insertRecord
  cases hvalues : Node.ofValues? record.id record.type record.position record.values with
  | none =>
    have hnot : ¬record.toNode.Valid := by
      intro hvalid
      have hsome := Node.ofValues?_eq_some_iff.mpr ⟨rfl, hvalid⟩
      exact absurd (hvalues.symm.trans hsome) (by simp)
    simp [hnot]
  | some node =>
    obtain ⟨hnode, hvalid⟩ := Node.ofValues?_eq_some_iff.mp hvalues
    obtain rfl : node = record.toNode := hnode
    show (g.insertNode record.toNode).mapError DocumentError.graph = .ok h ↔ _
    cases g.insertNode record.toNode <;> simp [hvalid, Except.mapError]

/-- A connection is inserted if none leads into its destination and its ends are connected. -/
theorem insertConnection_eq_ok_iff {c : Connection} : insertConnection g c = .ok h ↔
    g.connection? c.dest = none ∧ g.connect c.source c.dest = .ok (none, h) := by
  unfold insertConnection
  by_cases hfound : (g.connection? c.dest).isSome = true
  · rw [if_pos hfound]
    simp [Option.isSome_iff_ne_none.mp hfound]
  · rw [if_neg hfound]
    have hnone : g.connection? c.dest = none := by simpa using hfound
    cases hcon : g.connect c.source c.dest with
    | error e => simp
    | ok result =>
      obtain ⟨previous, k⟩ := result
      obtain ⟨-, -, -, rfl, -⟩ := Graph.connect_eq_ok_iff.mp hcon
      simp [hnone]

/-- A document is loaded by inserting its records and then its connections into a graph that has
nothing but reserved ids. -/
theorem toGraph_eq_ok_iff_folds {d : GraphDocument} : d.toGraph = .ok g ↔
    d.version ≤ documentVersion ∧ d.nextId ≤ 2 ^ 63 ∧
      ∃ k, d.nodes.foldlM insertRecord (Graph.empty.reserve (d.nextId - 1)) = .ok k ∧
        d.connections.foldlM insertConnection k = .ok g := by
  have hmax : maxNodeId + 1 = 2 ^ 63 := rfl
  unfold toGraph
  rw [hmax]
  by_cases hversion : documentVersion < d.version
  · rw [if_pos hversion]
    simp [Nat.not_le.mpr hversion]
  by_cases hnext : 2 ^ 63 < d.nextId
  · rw [if_neg hversion, if_pos hnext]
    simp only [reduceCtorEq, Nat.not_le.mpr hnext, false_and, and_false]
  rw [if_neg hversion, if_neg hnext, bind_eq_ok_iff]
  simp only [Nat.not_lt.mp hversion, Nat.not_lt.mp hnext, true_and]

end GraphDocument

/-! ## Reachable graphs -/

/-- What can be asked of a graph. The last three change nothing but the kept order. -/
inductive GraphCall
  | add (type : NodeType) (position : Position)
  | addWithId (type : NodeType) (position : Position) (id : NodeId)
  | remove (ids : List NodeId)
  | duplicate (id : NodeId)
  | connect (source dest : SlotId)
  | disconnect (dest : SlotId)
  | setValue (slot : SlotId) (value : SlotValue)
  | move (ids : List NodeId) (delta : Position)
  | raise (id : NodeId)
  | nodesByOrder
  | generateCode
  | generateParameters

namespace GraphCall

/-- The graph that a call leaves, be it refused or not. -/
def apply (g : Graph) : GraphCall → Graph
  | add type position => (g.add type position).2
  | addWithId type position id => (g.addWithIdInPlace type position id).2
  | remove ids => (g.remove ids).2
  | duplicate id => (g.duplicateInPlace id).2
  | connect source dest => (g.connectInPlace source dest).2
  | disconnect dest => (g.disconnect dest).2
  | setValue slot value => (g.setValueInPlace slot value).2
  | move ids delta => (g.move ids delta).2
  | raise id => (g.raise id).2
  | nodesByOrder => g.nodesByOrder.2
  | generateCode => g.generateCode.2
  | generateParameters => g.generateParameters.2

/-- How many ids a call takes from the allocator. -/
def allocations (g : Graph) : GraphCall → Nat
  | add .. => 1
  | duplicate id => if (g.duplicate id).isSome then 1 else 0
  | _ => 0

variable (g : Graph)

/-- Inserting a node under a chosen id leaves the graph with it, or the graph from before. -/
theorem apply_addWithId (type : NodeType) (position : Position) (id : NodeId) :
    (addWithId type position id).apply g =
      match g.addWithId type position id with
      | .ok h => h
      | .error _ => g := by
  rw [apply, Graph.addWithIdInPlace, g.insertNodeInPlace_eq, Graph.addWithId]
  cases g.insertNode (.ofType id type position) <;> rfl

/-- Duplicating a node leaves the graph with the copy, or the graph from before. -/
theorem apply_duplicate (id : NodeId) : (duplicate id).apply g =
    match g.duplicate id with
    | some (_, h) => h
    | none => g := by
  rw [apply, g.duplicateInPlace_eq]
  cases g.duplicate id <;> rfl

/-- Connecting two slots leaves the graph with the connection, or the graph from before. -/
theorem apply_connect (source dest : SlotId) : (connect source dest).apply g =
    match g.connect source dest with
    | .ok (_, h) => h
    | .error _ => g := by
  rw [apply, g.connectInPlace_eq]
  cases g.connect source dest <;> rfl

/-- Writing a value leaves the graph with the value, or the graph from before. -/
theorem apply_setValue (slot : SlotId) (value : SlotValue) : (setValue slot value).apply g =
    match g.setValue slot value with
    | .ok (_, h) => h
    | .error _ => g := by
  rw [apply, g.setValueInPlace_eq]
  cases g.setValue slot value <;> rfl

end GraphCall

namespace Graph

/-- The graphs that calls with `n` allocations make of the empty graph and of documents. -/
inductive ReachableIn : Nat → Graph → Prop
  | empty : ReachableIn 0 .empty
  | ofDocument {d : GraphDocument} {g : Graph} (h : d.toGraph = .ok g) : ReachableIn 0 g
  | ofText {text : String} {g : Graph} (h : Graph.parse text = .ok g) : ReachableIn 0 g
  | call {n : Nat} {g : Graph} (c : GraphCall) (h : ReachableIn n g) :
    ReachableIn (n + c.allocations g) (c.apply g)

/-- Whether a graph can be made with fewer than `2 ^ 63` allocations. -/
def Reachable (g : Graph) : Prop := ∃ n < 2 ^ 63, ReachableIn n g

variable {g : Graph}

/-! ## Graphs of documents -/

/-- What holds of the graph that loading starts from, and is kept by each insertion, holds of the
graph of a document. -/
theorem toGraph_induction {P : Graph → Prop} {d : GraphDocument} (hd : d.toGraph = .ok g)
    (hstart : d.nextId ≤ 2 ^ 63 → P (empty.reserve (d.nextId - 1)))
    (hnode : ∀ (b : Graph) (node : Node) (b' : Graph), node.Valid → b.insertNode node = .ok b' →
      P b → P b')
    (hconnection : ∀ (b : Graph) (c : Connection) (b' : Graph),
      b.connect c.source c.dest = .ok (none, b') → P b → P b') : P g := by
  obtain ⟨-, hnext, middle, hnodes, hconnections⟩ := GraphDocument.toGraph_eq_ok_iff_folds.mp hd
  have hmiddle : P middle := by
    refine foldlM_ok_induction ?_ d.nodes (hstart hnext) hnodes
    intro b record b' hb hinsert
    obtain ⟨hvalid, hins⟩ := GraphDocument.insertRecord_eq_ok_iff.mp hinsert
    exact hnode b _ b' hvalid hins hb
  refine foldlM_ok_induction ?_ d.connections hmiddle hconnections
  intro b c b' hb hinsert
  obtain ⟨-, hcon⟩ := GraphDocument.insertConnection_eq_ok_iff.mp hinsert
  exact hconnection b c b' hcon hb

/-- The graph of a document is well formed, and its allocator is not past the ids that documents
may hold. -/
theorem wellFormed_of_toGraph {d : GraphDocument} (hd : d.toGraph = .ok g) :
    g.WellFormed ∧ g.nextId ≤ 2 ^ 63 := by
  refine toGraph_induction hd (P := fun g => g.WellFormed ∧ g.nextId ≤ 2 ^ 63) ?_ ?_ ?_
  · intro hnext
    refine ⟨wellFormed_empty.reserve _, ?_⟩
    simp only [Graph.reserve, Graph.empty, maxNextId]
    omega
  · rintro b node b' hvalid hins ⟨hb, hbound⟩
    refine ⟨hb.insertNode hvalid hins, ?_⟩
    obtain ⟨hmax, -, rfl⟩ := insertNode_eq_ok_iff.mp hins
    simp only [Graph.reserve, maxNextId, maxNodeId, NodeId] at hmax ⊢
    omega
  · rintro b c b' hcon ⟨hb, hbound⟩
    refine ⟨hb.connect hcon, ?_⟩
    obtain ⟨-, -, -, -, rfl⟩ := connect_eq_ok_iff.mp hcon
    exact hbound

/-- A text that is parsed is the text of a document that is accepted. -/
theorem toGraph_of_parse {text : String} (hg : Graph.parse text = .ok g) :
    ∃ d : GraphDocument, d.toGraph = .ok g := by
  unfold Graph.parse at hg
  split at hg
  · exact absurd hg (by simp)
  · exact ⟨_, hg⟩

/-! ## Calls -/

/-- Asking for the order changes nothing but the kept order. -/
theorem nodesByOrder_changes (g : Graph) : ∃ order, g.nodesByOrder.2 = { g with order } := by
  unfold nodesByOrder
  split
  · exact ⟨g.order, rfl⟩
  · split
    · exact ⟨_, rfl⟩
    · exact ⟨g.order, rfl⟩

/-- Asking for the order keeps nodes, connections and allocator. -/
theorem nodesByOrder_frame (g : Graph) : g.nodesByOrder.2.nodes = g.nodes ∧
    g.nodesByOrder.2.connections = g.connections ∧ g.nodesByOrder.2.nextId = g.nextId := by
  obtain ⟨order, horder⟩ := g.nodesByOrder_changes
  rw [horder]
  exact ⟨rfl, rfl, rfl⟩

/-- Generating code leaves the graph that working out the order leaves. -/
theorem generateCode_snd (g : Graph) : g.generateCode.2 = g.nodesByOrder.2 := rfl

/-- The kept order has no part in being well formed. -/
theorem WellFormed.nodesByOrder (hg : g.WellFormed) : g.nodesByOrder.2.WellFormed := by
  obtain ⟨hnodes, hconnections, hnext⟩ := g.nodesByOrder_frame
  exact hg.perm (.of_eq hnodes) hconnections hnext

/-- Every call keeps a graph well formed, if the allocator has room for those that allocate. -/
theorem WellFormed.apply (hg : g.WellFormed) (c : GraphCall)
    (hroom : 0 < c.allocations g → g.nextId < maxNextId) : (c.apply g).WellFormed := by
  cases c with
  | add type position => exact hg.add (hroom Nat.one_pos) type position
  | addWithId type position id =>
    cases hins : g.addWithId type position id with
    | error e => simpa [GraphCall.apply_addWithId, hins] using hg
    | ok h =>
      simpa [GraphCall.apply_addWithId, hins] using hg.insertNode Node.ofType_valid hins
  | remove ids => exact hg.remove ids
  | duplicate id =>
    cases hdup : g.duplicate id with
    | none => simpa [GraphCall.apply_duplicate, hdup] using hg
    | some result =>
      obtain ⟨copied, h⟩ := result
      have hspace : g.nextId < maxNextId := hroom (by simp [GraphCall.allocations, hdup])
      simpa [GraphCall.apply_duplicate, hdup] using hg.duplicate hspace hdup
  | connect source dest =>
    cases hcon : g.connect source dest with
    | error e => simpa [GraphCall.apply_connect, hcon] using hg
    | ok result =>
      obtain ⟨previous, h⟩ := result
      simpa [GraphCall.apply_connect, hcon] using hg.connect hcon
  | disconnect dest => exact hg.disconnect dest
  | setValue slot value =>
    cases hset : g.setValue slot value with
    | error e => simpa [GraphCall.apply_setValue, hset] using hg
    | ok result =>
      obtain ⟨changed, h⟩ := result
      simpa [GraphCall.apply_setValue, hset] using hg.setValue hset
  | move ids delta => exact hg.move ids delta
  | raise id => exact hg.raise id
  | nodesByOrder => exact hg.nodesByOrder
  | generateCode => exact hg.nodesByOrder
  | generateParameters => exact hg.nodesByOrder

/-- The allocator after a call: where it was, past an id that the caller chose, or moved up for the
one id that the call takes. -/
theorem nextId_apply (g : Graph) (c : GraphCall) :
    (c.allocations g = 0 ∧ ((c.apply g).nextId = g.nextId ∨
      ∃ id ≤ maxNodeId, (c.apply g).nextId = (g.reserve id).nextId)) ∨
    (c.allocations g = 1 ∧ (c.apply g).nextId = g.advancedId) := by
  cases c with
  | add type position => exact Or.inr ⟨rfl, rfl⟩
  | addWithId type position id =>
    refine Or.inl ⟨rfl, ?_⟩
    cases hins : g.addWithId type position id with
    | error e => exact Or.inl (by simp only [GraphCall.apply_addWithId, hins])
    | ok h =>
      obtain ⟨hmax, -, rfl⟩ := insertNode_eq_ok_iff.mp hins
      exact Or.inr ⟨id, hmax, by simp only [GraphCall.apply_addWithId, hins]; rfl⟩
  | remove ids =>
    refine Or.inl ⟨rfl, Or.inl ?_⟩
    exact g.remove_nextId ids
  | duplicate id =>
    cases hdup : g.duplicate id with
    | none =>
      refine Or.inl ⟨?_, Or.inl ?_⟩
      · simp only [GraphCall.allocations, hdup, Option.isSome_none, Bool.false_eq_true, if_false]
      · simp only [GraphCall.apply_duplicate, hdup]
    | some result =>
      obtain ⟨copied, h⟩ := result
      obtain ⟨node, -, -, -, rfl⟩ := duplicate_eq_some_iff.mp hdup
      refine Or.inr ⟨?_, ?_⟩
      · simp only [GraphCall.allocations, hdup, Option.isSome_some, if_true]
      · simp only [GraphCall.apply_duplicate, hdup]
  | connect source dest =>
    refine Or.inl ⟨rfl, Or.inl ?_⟩
    cases hcon : g.connect source dest with
    | error e => simp only [GraphCall.apply_connect, hcon]
    | ok result =>
      obtain ⟨previous, h⟩ := result
      obtain ⟨-, -, -, -, rfl⟩ := connect_eq_ok_iff.mp hcon
      simp only [GraphCall.apply_connect, hcon]
  | disconnect dest =>
    refine Or.inl ⟨rfl, Or.inl ?_⟩
    simp only [GraphCall.apply, Graph.disconnect]
    split <;> rfl
  | setValue slot value =>
    refine Or.inl ⟨rfl, Or.inl ?_⟩
    cases hset : g.setValue slot value with
    | error e => simp only [GraphCall.apply_setValue, hset]
    | ok result =>
      obtain ⟨changed, h⟩ := result
      obtain ⟨_, _, -, -, -, -, -, rfl⟩ := setValue_eq_ok_iff.mp hset
      simp only [GraphCall.apply_setValue, hset]
      split_ifs <;> rfl
  | move ids delta =>
    obtain ⟨place, hmove⟩ := g.move_eq ids delta
    refine Or.inl ⟨rfl, Or.inl ?_⟩
    simp only [GraphCall.apply, hmove]
    rfl
  | raise id =>
    refine Or.inl ⟨rfl, Or.inl ?_⟩
    simp only [GraphCall.apply, Graph.raise]
    split
    · rfl
    · split_ifs <;> rfl
  | nodesByOrder => exact Or.inl ⟨rfl, Or.inl g.nodesByOrder_frame.2.2⟩
  | generateCode => exact Or.inl ⟨rfl, Or.inl g.nodesByOrder_frame.2.2⟩
  | generateParameters => exact Or.inl ⟨rfl, Or.inl g.nodesByOrder_frame.2.2⟩

/-- A call moves the allocator by its allocations at most, apart from making room for ids that
callers chose. -/
theorem nextId_apply_le (g : Graph) (c : GraphCall) :
    (c.apply g).nextId ≤ max g.nextId (2 ^ 63) + c.allocations g := by
  have hadvanced : g.advancedId ≤ g.nextId + 1 := Nat.min_le_left _ _
  rcases g.nextId_apply c with ⟨halloc, hnext | ⟨id, hid, hnext⟩⟩ | ⟨halloc, hnext⟩
  · omega
  · simp only [Graph.reserve, maxNodeId, maxNextId, NodeId] at hid hnext
    omega
  · omega

/-- No call moves the allocator back, unless it stands past its end. -/
theorem le_nextId_apply (c : GraphCall) (hroom : g.nextId ≤ maxNextId) :
    g.nextId ≤ (c.apply g).nextId := by
  rcases g.nextId_apply c with ⟨-, hnext | ⟨id, -, hnext⟩⟩ | ⟨-, hnext⟩
  · exact Nat.le_of_eq hnext.symm
  · rw [hnext]
    exact Nat.le_max_left _ _
  · rw [hnext]
    exact Nat.le_min.mpr ⟨Nat.le_succ _, hroom⟩

/-- A call takes one id at most. -/
theorem allocations_le_one (g : Graph) (c : GraphCall) : c.allocations g ≤ 1 := by
  rcases g.nextId_apply c with ⟨halloc, -⟩ | ⟨halloc, -⟩ <;> omega

/-! ## Runs -/

/-- After `n` allocations, fewer than `2 ^ 63`, a graph is well formed and the allocator is at
`2 ^ 63 + n` at most. -/
theorem ReachableIn.wellFormed {n : Nat} (hg : ReachableIn n g) (hn : n < 2 ^ 63) :
    g.WellFormed ∧ g.nextId ≤ 2 ^ 63 + n := by
  induction hg with
  | empty => exact ⟨wellFormed_empty, by simp [Graph.empty]⟩
  | ofDocument hd => exact wellFormed_of_toGraph hd
  | ofText ht =>
    obtain ⟨d, hd⟩ := toGraph_of_parse ht
    exact wellFormed_of_toGraph hd
  | @call n g c _ ih =>
    obtain ⟨hg, hnext⟩ := ih (by omega)
    refine ⟨hg.apply c fun halloc => ?_, ?_⟩
    · simp only [maxNextId]
      omega
    · have hstep := nextId_apply_le g c
      omega

/-- What holds of the empty graph and of documents, and is kept by every call on a well-formed
graph, holds of every reachable graph. -/
theorem Reachable.induction {P : Graph → Prop} (hempty : P .empty)
    (hdocument : ∀ (d : GraphDocument) (g : Graph), d.toGraph = .ok g → P g)
    (hcall : ∀ (g : Graph) (c : GraphCall), g.WellFormed →
      (0 < c.allocations g → g.nextId < maxNextId) → P g → P (c.apply g))
    (hg : g.Reachable) : P g := by
  obtain ⟨n, hn, hreach⟩ := hg
  induction hreach with
  | empty => exact hempty
  | ofDocument hd => exact hdocument _ _ hd
  | ofText ht =>
    obtain ⟨d, hd⟩ := toGraph_of_parse ht
    exact hdocument d _ hd
  | @call n g c hprev ih =>
    obtain ⟨hwf, hnext⟩ := hprev.wellFormed (by omega)
    refine hcall g c hwf (fun halloc => ?_) (ih (by omega))
    simp only [maxNextId]
    omega

/-- Reachable graphs are well formed. -/
theorem Reachable.invariant (hg : g.Reachable) : g.WellFormed := by
  obtain ⟨n, hn, hreach⟩ := hg
  exact (hreach.wellFormed hn).1

/-- The graph that a list of calls makes of the empty graph. -/
def ofCalls (calls : List GraphCall) : Graph := calls.foldl GraphCall.apply .empty

/-- Calls that are fewer than `2 ^ 63` in all lead to reachable graphs. -/
theorem reachable_ofCalls (calls : List GraphCall) (hcalls : calls.length < 2 ^ 63) :
    (ofCalls calls).Reachable := by
  have hrun : ∀ (calls : List GraphCall) (n : Nat) (g : Graph), ReachableIn n g →
      ∃ m ≤ n + calls.length, ReachableIn m (calls.foldl GraphCall.apply g) := by
    intro calls
    induction calls with
    | nil => exact fun n g hg => ⟨n, by simp, hg⟩
    | cons c rest ih =>
      intro n g hg
      obtain ⟨m, hm, hreach⟩ := ih _ _ (hg.call c)
      have hc := g.allocations_le_one c
      exact ⟨m, by rw [List.length_cons]; omega, hreach⟩
  obtain ⟨m, hm, hreach⟩ := hrun calls 0 .empty .empty
  exact ⟨m, by omega, hreach⟩

/-- **Structure of reachable graphs.** Every connection runs from an existing output slot to an
existing input slot that is open to connections and whose type the output's type can feed; no node
feeds itself, be it through others; every node is stored once, under its own id, which is below the
allocator, and has one value for each slot that its type declares, of the declared type, without
fault, and with an enum index among the options. -/
theorem reachable_structure (hg : g.Reachable) :
    (∀ c ∈ g.connections, ∃ source dest, g.slotDecl? c.source = some source ∧
      g.slotDecl? c.dest = some dest ∧ source.isOutput = true ∧ dest.isInput = true ∧
      dest.connectable = true ∧ source.slotType.canFeed dest.slotType = true) ∧
    (∀ id, ¬Relation.TransGen
      (fun a b => ∃ c ∈ g.connections, c.source.node = a ∧ c.dest.node = b) id id) ∧
    ∀ node ∈ g.nodes, g.nodeIds.count node.id = 1 ∧ g.node? node.id = some node ∧
      node.id < g.nextId ∧ node.values.length = node.type.slots.length ∧
      ∀ index decl value, node.decl? index = some decl → node.value? index = some value →
        value.slotType = decl.slotType ∧ value.fault? = none ∧
        ∀ option, value = .enum option → option < decl.options.length := by
  have hwf := hg.invariant
  refine ⟨hwf.allowed, hwf.acyclic, fun node hnode => ?_⟩
  have hvalid := hwf.nodes_valid node hnode
  have hmem : node.id ∈ g.nodeIds := List.mem_map_of_mem hnode
  refine ⟨List.count_eq_one_of_mem hwf.ids_distinct hmem, node?_id_of_mem hwf.ids_distinct hnode,
    hwf.ids_below node hnode, hvalid.length_eq.symm, ?_⟩
  intro index decl value hdecl hvalue
  have hholds := hvalid.holds_at hdecl hvalue
  exact ⟨hholds.type_eq.symm, hholds.faultless, hholds.option_lt⟩

/-- A graph with a connection, an enum slot and an id chosen by the caller. -/
theorem reachable_structure_math :
    let g := ofCalls [.add .math ⟨0, 0⟩, .addWithId .output ⟨0, 0⟩ 7, .connect ⟨1, 4⟩ ⟨7, 1⟩,
      .setValue ⟨1, 0⟩ (.enum 3)]
    g.Reachable ∧ g.connections = [⟨⟨1, 4⟩, ⟨7, 1⟩⟩] ∧
      ∀ node ∈ g.nodes, g.nodeIds.count node.id = 1 ∧ node.id < g.nextId := by
  intro g
  have hg : g.Reachable := reachable_ofCalls _ (by decide)
  refine ⟨hg, by decide +kernel, fun node hnode => ?_⟩
  obtain ⟨hcount, -, hbelow, -⟩ := (reachable_structure hg).2.2 node hnode
  exact ⟨hcount, hbelow⟩

end Graph

end ShaderGraph
