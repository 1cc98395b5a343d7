import ShaderGraph.Proofs.Graph.InPlace
import ShaderGraph.Proofs.Graph.TakingOut

/-!
# Edits keep graphs well formed

Each edit of a graph is described once, by what it takes to succeed and what it then makes of the
graph; from that it follows that the graph stays well formed. Only two edits need more than the
shape of the change: adding and duplicating a node take the next id, so the allocator must not have
reached its end.
-/

set_option autoImplicit false

namespace ShaderGraph.Graph

variable {g h : Graph} {node : Node} {id : NodeId} {source dest slot : SlotId}
  {value : SlotValue} {changed : Bool}

/-! ## What edits do -/

/-- What inserting a node under its own id takes, and what it gives. -/
theorem insertNode_eq_ok_iff :
    g.insertNode node = .ok h ↔ node.id ≤ maxNodeId ∧ node.id ∉ g.nodeIds ∧
      h = { g.reserve node.id with nodes := g.nodes ++ [node], order := none } := by
  unfold insertNode insertNodeInPlace
  split_ifs with hmax hcontains
  · simp only [granted_error, Except.map, reduceCtorEq, false_iff, not_and]
    exact fun hle => absurd hle (Nat.not_le_of_lt hmax)
  · simp only [granted_error, Except.map, reduceCtorEq, false_iff, not_and]
    exact fun _ hfresh => absurd (contains_iff.mp hcontains) hfresh
  · have hfresh : node.id ∉ g.nodeIds := fun hmem => hcontains (contains_iff.mpr hmem)
    simp [Except.map, Nat.le_of_not_lt hmax, hfresh, eq_comm]

/-- The copy of a node that a duplication appends. -/
def copyOf (g : Graph) (node : Node) : Node :=
  ⟨g.nextId, node.type, node.position.move duplicateOffset, node.values⟩

/-- What duplicating a node takes, and what it gives. -/
theorem duplicate_eq_some_iff {copied : NodeId} :
    g.duplicate id = some (copied, h) ↔ ∃ node, g.node? id = some node ∧ node.Valid ∧
      copied = g.nextId ∧
      h = { g with
        nodes := g.nodes ++ [g.copyOf node], nextId := g.advancedId, order := none } := by
  unfold duplicate duplicateInPlace
  cases hnode : g.node? id with
  | none => simp
  | some node =>
    have hvalid : (g.copyOf node).Valid ↔ node.Valid := Iff.rfl
    cases hcopy : Node.ofValues? g.nextId node.type (node.position.move duplicateOffset)
        node.values with
    | none =>
      have hnot : ¬node.Valid := fun h => by
        rw [Node.ofValues?_eq_some_iff.mpr ⟨rfl, hvalid.mpr h⟩] at hcopy
        cases hcopy
      simp [hcopy, hnot]
    | some copy =>
      obtain ⟨rfl, h⟩ := Node.ofValues?_eq_some_iff.mp hcopy
      simp [hcopy, hvalid.mp h, copyOf, eq_comm]

/-- What writing a value takes, and what it gives: an existing input slot that may hold the value;
a value that is numerically the same as the old one is not written. -/
theorem setValue_eq_ok_iff :
    g.setValue slot value = .ok (changed, h) ↔ ∃ decl current, g.slotDecl? slot = some decl ∧
      g.slotValue? slot = some current ∧ decl.isInput = true ∧ decl.Holds value ∧
      changed = !current.same value ∧
      h = if current.same value then g else g.mapNode slot.node (·.setValue slot.index value) := by
  unfold setValue setValueInPlace
  cases hdecl : g.slotDecl? slot with
  | none => simp
  | some decl =>
    cases hcurrent : g.slotValue? slot with
    | none => simp
    | some current =>
      simp only [Option.some.injEq, exists_and_left, exists_eq_left', Bool.not_eq_true']
      have hoption : value.asEnum?.filter (decl.options.length ≤ ·) = none ↔
          ∀ index, value = .enum index → index < decl.options.length := by
        cases value <;> simp [SlotValue.asEnum?, Option.filter]
      cases hinput : decl.isInput with
      | false => simp
      | true =>
        by_cases htype : decl.slotType = value.slotType
        · cases hindex : value.asEnum?.filter (decl.options.length ≤ ·) with
          | some index =>
            have hnot : ¬decl.Holds value := fun hholds => by
              rw [hoption.mpr hholds.option_lt] at hindex
              exact absurd hindex (by simp)
            simp [htype, hnot]
          | none =>
            cases hfault : value.fault? with
            | some reason =>
              have hnot : ¬decl.Holds value := fun hholds => by
                rw [hholds.faultless] at hfault
                exact absurd hfault (by simp)
              simp [htype, hnot]
            | none =>
              have hholds : decl.Holds value := ⟨htype, hfault, hoption.mp hindex⟩
              cases current.same value <;> simp [htype, hholds, eq_comm]
        · have hnot : ¬decl.Holds value := fun hholds => htype hholds.type_eq
          simp [htype, hnot]

/-- What connecting two slots takes, and what it gives. -/
theorem connect_eq_ok_iff {previous : Option Connection} :
    g.connect source dest = .ok (previous, h) ↔ g.Allows source dest ∧
      source.node ≠ dest.node ∧ source.node ∉ g.reachableFrom dest.node ∧
      previous = g.connection? dest ∧
      h = { g with
        connections := insertConnection ⟨source, dest⟩ g.connections
        order := if g.connection? dest = some ⟨source, dest⟩ then g.order else none } := by
  unfold connect connectInPlace
  cases hends : g.checkEnds source dest with
  | error e =>
    have hnot : ¬g.Allows source dest := fun ha => by
      rw [checkEnds_eq_ok_iff.mpr ha] at hends
      exact absurd hends (by simp)
    simp [hnot]
  | ok =>
    have hallows := checkEnds_eq_ok_iff.mp hends
    simp only [hallows, true_and]
    by_cases hcycle : source.node = dest.node ∨ source.node ∈ g.reachableFrom dest.node
    · rw [if_pos hcycle, granted_error]
      simp only [reduceCtorEq, false_iff, not_and]
      intro hne hreach
      exact absurd hcycle (not_or.mpr ⟨hne, hreach⟩)
    · obtain ⟨hne, hreach⟩ := not_or.mp hcycle
      rw [if_neg hcycle]
      simp [hne, hreach, eq_comm]

/-! ## Edits keep graphs well formed -/

/-- The graph without nodes is well formed. -/
theorem wellFormed_empty : empty.WellFormed where
  ids_distinct := List.nodup_nil
  ids_below := by simp [empty]
  nextId_pos := Nat.one_pos
  nodes_valid := by simp [empty]
  ascending := List.Pairwise.nil
  allowed := by simp [empty]
  acyclic := acyclic_of_no_connections rfl

/-- With room left, the allocator moves up by one. -/
theorem advancedId_eq (hroom : g.nextId < maxNextId) : g.advancedId = g.nextId + 1 :=
  Nat.min_eq_left hroom

namespace WellFormed

/-- The next id is not in use. -/
theorem nextId_fresh (hg : g.WellFormed) : g.nextId ∉ g.nodeIds := by
  intro hmem
  obtain ⟨node, hn, hid⟩ := List.mem_map.mp hmem
  exact absurd hid (Nat.ne_of_lt (hg.ids_below node hn))

/-- Moving the allocator up keeps a graph well formed. -/
theorem reserve (hg : g.WellFormed) (id : NodeId) : (g.reserve id).WellFormed := by
  have hnext : g.nextId ≤ (g.reserve id).nextId := Nat.le_max_left _ _
  exact hg.of_kept hg.ids_distinct
    (fun n hn => Nat.lt_of_lt_of_le (hg.ids_below n hn) hnext) hnext hg.nodes_valid rfl
    fun n hn => ⟨n, hn, rfl, rfl⟩

/-- Appending a valid node under the next id keeps a graph well formed. -/
theorem append_next (hg : g.WellFormed) (hroom : g.nextId < maxNextId)
    (hid : node.id = g.nextId) (hvalid : node.Valid) :
    ({ g with nodes := g.nodes ++ [node], nextId := g.advancedId, order := none } :
      Graph).WellFormed := by
  refine hg.append (show _ = g.nodes ++ [node] from rfl) rfl ?_ ?_ ?_ hvalid
  · rw [hid]
    exact hg.nextId_fresh
  · simp only [advancedId_eq hroom, hid]
    exact Nat.lt_succ_self _
  · simp only [advancedId_eq hroom]
    exact Nat.le_succ _

/-- Adding a node keeps a graph well formed while the allocator has room. -/
theorem add (hg : g.WellFormed) (hroom : g.nextId < maxNextId) (type : NodeType)
    (position : Position) : (g.add type position).2.WellFormed :=
  hg.append_next hroom rfl Node.ofType_valid

/-- Duplicating a node keeps a graph well formed while the allocator has room. -/
theorem duplicate (hg : g.WellFormed) (hroom : g.nextId < maxNextId) {copied : NodeId}
    (hdup : g.duplicate id = some (copied, h)) : h.WellFormed := by
  obtain ⟨node, -, hvalid, -, rfl⟩ := duplicate_eq_some_iff.mp hdup
  exact hg.append_next hroom rfl hvalid

/-- Inserting a valid node keeps a graph well formed. -/
theorem insertNode (hg : g.WellFormed) (hvalid : node.Valid) (hins : g.insertNode node = .ok h) :
    h.WellFormed := by
  obtain ⟨hmax, hfresh, rfl⟩ := insertNode_eq_ok_iff.mp hins
  refine hg.append (show _ = g.nodes ++ [node] from rfl) rfl hfresh ?_ (Nat.le_max_left _ _) hvalid
  have hlt : node.id < min (node.id + 1) maxNextId := by
    have hbound : maxNodeId < maxNextId := by decide
    exact Nat.lt_min.mpr ⟨Nat.lt_succ_self _, Nat.lt_of_le_of_lt hmax hbound⟩
  exact Nat.lt_of_lt_of_le hlt (Nat.le_max_right _ _)

/-- Removing nodes with their connections keeps a graph well formed. -/
theorem remove (hg : g.WellFormed) (ids : List NodeId) : (g.remove ids).2.WellFormed := by
  rw [hg.remove_eq ids]
  have hkept : ∀ n ∈ g.nodes, ids.contains n.id = false →
      n ∈ g.nodes.filter fun node => !ids.contains node.id := fun n hn hid =>
    List.mem_filter.mpr ⟨hn, by rw [hid]; rfl⟩
  have hdistinct : ((g.nodes.filter fun node => !ids.contains node.id).map Node.id).Nodup :=
    hg.ids_distinct.sublist (List.filter_sublist.map Node.id)
  refine ⟨hdistinct, ?_, hg.nextId_pos, ?_, hg.ascending.filter _, ?_,
    hg.acyclic.of_subset fun c hc => (List.mem_filter.mp hc).1⟩
  · exact fun n hn => hg.ids_below n (List.mem_filter.mp hn).1
  · exact fun n hn => hg.nodes_valid n (List.mem_filter.mp hn).1
  · intro c hc
    obtain ⟨hmem, hends⟩ := List.mem_filter.mp hc
    simp only [Bool.and_eq_true, Bool.not_eq_true'] at hends
    refine (hg.allowed c hmem).of_kept hdistinct fun n hn hid => ⟨n, hkept n hn ?_, rfl, rfl⟩
    rcases hid with hid | hid
    · rw [hid]
      exact hends.1
    · rw [hid]
      exact hends.2

/-- Writing a value keeps a graph well formed. -/
theorem setValue (hg : g.WellFormed) (hset : g.setValue slot value = .ok (changed, h)) :
    h.WellFormed := by
  obtain ⟨decl, current, hdecl, -, -, hholds, -, rfl⟩ := setValue_eq_ok_iff.mp hset
  split_ifs
  · exact hg
  rw [mapNode_eq]
  refine hg.mapNodes (fun n => ?_) (fun n => ?_) fun n hn => ?_
  · split_ifs <;> rfl
  · split_ifs <;> rfl
  split_ifs with hid
  · obtain ⟨owner, howner, hownerId, hownerDecl⟩ := slotDecl?_eq_some hdecl
    obtain rfl : owner = n := List.inj_on_of_nodup_map hg.ids_distinct howner hn
      (hownerId.trans hid.symm)
    exact (hg.nodes_valid owner howner).setValue hownerDecl hholds
  · exact hg.nodes_valid n hn

/-- Moving nodes keeps a graph well formed. -/
theorem move (hg : g.WellFormed) (ids : List NodeId) (delta : Position) :
    (g.move ids delta).2.WellFormed := by
  obtain ⟨place, hmove⟩ := g.move_eq ids delta
  rw [hmove]
  exact hg.mapNodes (fun _ => rfl) (fun _ => rfl) hg.nodes_valid

/-- Raising a node only reorders the nodes. -/
theorem raise_perm (hg : g.WellFormed) (id : NodeId) :
    (g.raise id).2.nodes.Perm g.nodes := by
  unfold Graph.raise
  split
  · exact .refl _
  rename_i node hnode
  obtain ⟨hmem, rfl⟩ := mem_of_node?_eq_some hnode
  split_ifs
  · exact .refl _
  have hrest : g.nodes.filter (fun other => decide (other.id ≠ node.id)) = g.nodes.erase node := by
    rw [(List.Nodup.of_map _ hg.ids_distinct).erase_eq_filter]
    refine List.filter_congr fun other hother => ?_
    have hiff : other.id = node.id ↔ other = node :=
      ⟨fun h => List.inj_on_of_nodup_map hg.ids_distinct hother hmem h, fun h => h ▸ rfl⟩
    simp [hiff, bne, beq_eq_decide]
  dsimp only
  rw [hrest]
  exact (List.perm_append_singleton _ _).trans (List.perm_cons_erase hmem).symm

/-- Raising a node keeps a graph well formed. -/
theorem raise (hg : g.WellFormed) (id : NodeId) : (g.raise id).2.WellFormed := by
  refine hg.perm (hg.raise_perm id) ?_ ?_ <;>
  · unfold Graph.raise
    split
    · rfl
    · split_ifs <;> rfl

/-- Connecting two slots keeps a graph well formed. The search finds all that the destination's
node feeds, so a connection that it lets through closes no cycle. -/
theorem connect (hg : g.WellFormed) {previous : Option Connection}
    (hcon : g.connect source dest = .ok (previous, h)) : h.WellFormed := by
  obtain ⟨hallows, -, hreach, -, rfl⟩ := connect_eq_ok_iff.mp hcon
  have hmem : ∀ d ∈ insertConnection ⟨source, dest⟩ g.connections,
      d = ⟨source, dest⟩ ∨ d ∈ g.connections := fun d hd =>
    (hg.ascending.mem_insertConnection.mp hd).imp_right And.left
  refine ⟨hg.ids_distinct, hg.ids_below, hg.nextId_pos, hg.nodes_valid, hg.ascending.insert, ?_, ?_⟩
  · intro c hc
    rcases hmem c hc with rfl | hc
    · exact hallows
    · exact hg.allowed c hc
  · exact hg.acyclic.insert hmem fun hpath => hreach (mem_reachableFrom_iff.mpr hpath)

/-- Taking a connection away keeps a graph well formed. -/
theorem disconnect (hg : g.WellFormed) (dest : SlotId) : (g.disconnect dest).2.WellFormed := by
  unfold Graph.disconnect
  split
  · exact hg
  exact ⟨hg.ids_distinct, hg.ids_below, hg.nextId_pos, hg.nodes_valid, hg.ascending.filter _,
    fun c hc => hg.allowed c (List.mem_filter.mp hc).1,
    hg.acyclic.of_subset fun c hc => (List.mem_filter.mp hc).1⟩

end WellFormed

end ShaderGraph.Graph
