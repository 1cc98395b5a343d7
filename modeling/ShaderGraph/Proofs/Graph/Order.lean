import Mathlib.Data.Set.Finite.List
import Mathlib.Order.WellFounded
import ShaderGraph.Proofs.Graph.Reachable

/-!
# The dependency order

The count beside a waiting node is the number of connections into it from nodes that still wait;
placing a node keeps it so. In a graph without cycles some waiting node always waits for nothing,
so every node is placed, and it is placed after all nodes that feed it. The order depends on the
set of ids and on the connections alone, hence the edits that keep the kept order keep it right,
and in every reachable graph the kept order, if there is one, is the order that would be worked out
anew.
-/

set_option autoImplicit false

namespace ShaderGraph

open Relation (TransGen)

namespace Waiting

variable {connections : List Connection} {waiting other : Waiting} {id : NodeId}

/-- The nodes that wait. -/
def ids (waiting : Waiting) : List NodeId := waiting.map Prod.fst

/-- Whether every count is the number of connections from waiting nodes. -/
def Counted (connections : List Connection) (waiting : Waiting) : Prop :=
  ∀ entry ∈ waiting, entry.2 = connections.countP fun c =>
    c.dest.node == entry.1 && waiting.ids.contains c.source.node

/-- At first all nodes wait. -/
theorem ids_start (nodes : List NodeId) : (start nodes connections).ids = nodes := by
  simp [ids, start, Function.comp_def]

/-- At the start, where every connection comes from a waiting node, the counts are right. -/
theorem counted_start {nodes : List NodeId} (hsource : ∀ c ∈ connections, c.source.node ∈ nodes) :
    Counted connections (start nodes connections) := by
  intro entry hentry
  obtain ⟨id, -, rfl⟩ := List.mem_map.mp hentry
  rw [ids_start]
  refine List.countP_congr fun c hc => ?_
  simp [hsource c hc]

/-- Placing a node takes it off the waiting list. -/
theorem ids_release : (release connections id waiting).ids = waiting.ids.filter (· != id) := by
  simp only [ids, release, List.map_map, List.filter_map]
  rfl

/-- Placing a node takes its id, and no other, from those that wait. -/
theorem ids_release_eq_erase (hdistinct : waiting.ids.Nodup) :
    (release connections id waiting).ids = waiting.ids.erase id := by
  rw [ids_release, hdistinct.erase_eq_filter]

/-- One node less waits when a waiting one has been placed. -/
theorem length_release (hdistinct : waiting.ids.Nodup) (hid : id ∈ waiting.ids) :
    (release connections id waiting).length = waiting.length - 1 := by
  have herase : (release connections id waiting).ids = waiting.ids.erase id :=
    ids_release_eq_erase hdistinct
  have hlength := congrArg List.length herase
  rw [List.length_erase_of_mem hid] at hlength
  simpa only [ids, List.length_map] using hlength

/-- Placing a node keeps the counts right. -/
theorem Counted.release (hw : Counted connections waiting) (hid : id ∈ waiting.ids) :
    Counted connections (release connections id waiting) := by
  intro entry hentry
  obtain ⟨old, hold, rfl⟩ := List.mem_map.mp hentry
  have hold : old ∈ waiting := (List.mem_filter.mp hold).1
  -- a connection from a waiting node comes either from the placed node or from one that still waits
  have hsplit : ∀ cs : List Connection,
      cs.countP (fun c => c.dest.node == old.1 && waiting.ids.contains c.source.node) =
        cs.countP (fun c => c.source.node == id && c.dest.node == old.1) +
          cs.countP fun c => c.dest.node == old.1 &&
            (waiting.ids.filter (· != id)).contains c.source.node := by
    intro cs
    induction cs with
    | nil => rfl
    | cons c rest ih =>
      rw [List.countP_cons, List.countP_cons, List.countP_cons, ih]
      by_cases hdest : c.dest.node = old.1
      · by_cases hsource : c.source.node = id
        · simp [hdest, hsource, hid]
          omega
        · by_cases hmem : c.source.node ∈ waiting.ids
          · simp [hdest, hsource, hmem]
            omega
          · simp [hdest, hsource, hmem]
      · simp [hdest]
  rw [ids_release]
  dsimp only
  rw [hw old hold, hsplit connections]
  exact Nat.add_sub_cancel_left _ _

/-- The node placed next is the lowest of those that wait for nothing. -/
theorem next?_eq_some_iff : waiting.next? = some id ↔
    (id, 0) ∈ waiting ∧ ∀ entry ∈ waiting, entry.2 = 0 → id ≤ entry.1 := by
  unfold next?
  rw [List.min?_eq_some_iff]
  simp only [List.mem_map, List.mem_filter, beq_iff_eq, Prod.exists, exists_and_right,
    exists_eq_right]
  exact and_congr_right fun _ =>
    ⟨fun hle entry hentry hzero => hle _ (hzero ▸ hentry), fun hle b hb => hle _ hb rfl⟩

/-- The next node to place is one that waits. -/
theorem mem_ids_of_next?_eq_some (hnext : waiting.next? = some id) : id ∈ waiting.ids :=
  List.mem_map.mpr ⟨(id, 0), (next?_eq_some_iff.mp hnext).1, rfl⟩

/-- A node waits for nothing exactly if no connection from a waiting node leads into it. -/
theorem Counted.eq_zero_iff (hw : Counted connections waiting) {entry : NodeId × Nat}
    (hentry : entry ∈ waiting) : entry.2 = 0 ↔
      ∀ c ∈ connections, c.dest.node = entry.1 → c.source.node ∉ waiting.ids := by
  rw [hw entry hentry, List.countP_eq_zero]
  simp only [Bool.and_eq_true, beq_iff_eq, List.contains_iff_mem, not_and]

/-- No waiting node feeds the one that is placed next. -/
theorem Counted.source_not_mem (hw : Counted connections waiting) (hnext : waiting.next? = some id)
    {c : Connection} (hc : c ∈ connections) (hdest : c.dest.node = id) :
    c.source.node ∉ waiting.ids :=
  (hw.eq_zero_iff (next?_eq_some_iff.mp hnext).1).mp rfl c hc hdest

/-- Which node is placed next does not depend on how the waiting nodes are listed. -/
theorem next?_perm (hperm : waiting.Perm other) : waiting.next? = other.next? := by
  refine Option.ext fun id => ?_
  rw [next?_eq_some_iff, next?_eq_some_iff, hperm.mem_iff]
  simp only [hperm.mem_iff]

/-- The order does not depend on how the waiting nodes are listed. -/
theorem placed_perm (steps : Nat) (hperm : waiting.Perm other) :
    placed connections steps waiting = placed connections steps other := by
  induction steps generalizing waiting other with
  | zero => rfl
  | succ steps ih =>
    rw [placed, placed, next?_perm hperm]
    cases other.next? with
    | none => rfl
    | some id => exact congrArg (id :: ·) (ih ((hperm.filter _).map _))

end Waiting

namespace Graph

variable {g h : Graph}

/-- The ids in dependency order. -/
def dependencyList (g : Graph) : List NodeId :=
  Waiting.placed g.connections g.nodes.length (.start g.nodeIds g.connections)

/-- Among the nodes of an acyclic graph, some node is fed by none of the others. -/
theorem Acyclic.exists_unfed (hg : g.Acyclic) {ids : List NodeId} (hne : ids ≠ []) :
    ∃ id ∈ ids, ∀ a ∈ ids, ¬g.Feeds a id := by
  have : Finite {id // id ∈ ids} := (List.finite_toSet ids).to_subtype
  have : IsTrans {id // id ∈ ids} fun a b => TransGen g.Feeds a b :=
    ⟨fun _ _ _ hab hbc => hab.trans hbc⟩
  have : Std.Irrefl fun a b : {id // id ∈ ids} => TransGen g.Feeds a b := ⟨fun a => hg a⟩
  have hwf : WellFounded fun a b : {id // id ∈ ids} => TransGen g.Feeds a b :=
    Finite.wellFounded_of_trans_of_irrefl _
  obtain ⟨first, hfirst⟩ := List.exists_mem_of_ne_nil ids hne
  obtain ⟨low, -, hlow⟩ := hwf.has_min Set.univ ⟨⟨first, hfirst⟩, trivial⟩
  exact ⟨low, low.2, fun a ha hfeed => hlow ⟨a, ha⟩ trivial (.single hfeed)⟩

/-- While nodes of an acyclic graph wait, one of them waits for nothing. -/
theorem Acyclic.next?_ne_none (hg : g.Acyclic) {waiting : Waiting} (hne : waiting ≠ [])
    (hcounted : waiting.Counted g.connections) : waiting.next? ≠ none := by
  have hids : waiting.ids ≠ [] := by simpa [Waiting.ids] using hne
  obtain ⟨id, hid, hunfed⟩ := hg.exists_unfed hids
  obtain ⟨entry, hentry, rfl⟩ := List.mem_map.mp hid
  have hzero : entry.2 = 0 := by
    rw [hcounted.eq_zero_iff hentry]
    intro c hc hdest hsource
    exact hunfed _ hsource ⟨c, hc, rfl, hdest⟩
  intro hnone
  simp only [Waiting.next?, List.min?_eq_none_iff, List.map_eq_nil_iff,
    List.filter_eq_nil_iff] at hnone
  exact hnone entry hentry (by simp [hzero])

/-- In an acyclic graph every waiting node is placed once, and none is placed before a waiting node
that feeds it. -/
theorem Acyclic.placed_spec (hg : g.Acyclic) (steps : Nat) (waiting : Waiting)
    (hsteps : waiting.length = steps) (hdistinct : waiting.ids.Nodup)
    (hcounted : waiting.Counted g.connections) :
    (Waiting.placed g.connections steps waiting).Perm waiting.ids ∧
      (Waiting.placed g.connections steps waiting).Pairwise fun a b => ¬g.Feeds b a := by
  induction steps generalizing waiting with
  | zero =>
    obtain rfl : waiting = [] := List.eq_nil_of_length_eq_zero hsteps
    exact ⟨.refl _, .nil⟩
  | succ steps ih =>
    have hne : waiting ≠ [] := by
      rintro rfl
      simp at hsteps
    obtain ⟨id, hid⟩ := Option.ne_none_iff_exists'.mp (hg.next?_ne_none hne hcounted)
    have hids : id ∈ waiting.ids := Waiting.mem_ids_of_next?_eq_some hid
    have herase : (waiting.release g.connections id).ids = waiting.ids.erase id :=
      Waiting.ids_release_eq_erase hdistinct
    have hlength : (waiting.release g.connections id).length = steps := by
      rw [Waiting.length_release hdistinct hids, hsteps]
      exact Nat.add_sub_cancel _ _
    obtain ⟨hperm, hpairwise⟩ := ih _ hlength (herase ▸ hdistinct.erase id) (hcounted.release hids)
    rw [Waiting.placed, hid]
    rw [herase] at hperm
    refine ⟨(hperm.cons id).trans (List.perm_cons_erase hids).symm,
      List.pairwise_cons.mpr ⟨fun b hb hfeeds => ?_, hpairwise⟩⟩
    obtain ⟨c, hc, rfl, hdest⟩ := hfeeds
    apply hcounted.source_not_mem hid hc hdest
    exact List.mem_of_mem_erase (hperm.mem_iff.mp hb)

namespace WellFormed

/-- Every connection comes from a node of the graph. -/
theorem source_mem (hg : g.WellFormed) {c : Connection} (hc : c ∈ g.connections) :
    c.source.node ∈ g.nodeIds := by
  obtain ⟨s, d, hs, -⟩ := hg.allowed c hc
  exact node_mem_of_slotDecl? hs

/-- Every connection leads to a node of the graph. -/
theorem dest_mem (hg : g.WellFormed) {c : Connection} (hc : c ∈ g.connections) :
    c.dest.node ∈ g.nodeIds := by
  obtain ⟨s, d, -, hd, -⟩ := hg.allowed c hc
  exact node_mem_of_slotDecl? hd

/-- The dependency list holds every node once, and none before a node that feeds it. -/
theorem dependencyList_spec (hg : g.WellFormed) : g.dependencyList.Perm g.nodeIds ∧
    g.dependencyList.Pairwise fun a b => ¬g.Feeds b a := by
  have hids : (Waiting.start g.nodeIds g.connections).ids = g.nodeIds := Waiting.ids_start _
  have hspec := hg.acyclic.placed_spec g.nodes.length (.start g.nodeIds g.connections)
    (by simp [Waiting.start, nodeIds]) (by rw [hids]; exact hg.ids_distinct)
    (Waiting.counted_start fun c hc => hg.source_mem hc)
  rwa [hids] at hspec

/-- In a well-formed graph the order can always be worked out. -/
theorem dependencyOrder_eq (hg : g.WellFormed) : g.dependencyOrder = .ok g.dependencyList := by
  have hlength : g.dependencyList.length = g.nodes.length := by
    rw [hg.dependencyList_spec.1.length_eq, nodeIds, List.length_map]
  have hnot : ¬g.dependencyList.length < g.nodes.length := by omega
  unfold dependencyOrder
  exact if_neg hnot

end WellFormed

/-- The order depends on the ids and the connections alone. -/
theorem dependencyList_congr (hids : h.nodeIds.Perm g.nodeIds)
    (hconnections : h.connections = g.connections) : h.dependencyList = g.dependencyList := by
  have hlength : h.nodes.length = g.nodes.length := by
    have hlen := hids.length_eq
    rwa [nodeIds, nodeIds, List.length_map, List.length_map] at hlen
  unfold dependencyList
  rw [hlength, hconnections]
  exact Waiting.placed_perm _ (hids.map _)

/-! ## The kept order -/

/-- A well-formed graph whose kept order, if it has one, is its dependency order. -/
structure Consistent (g : Graph) : Prop extends g.WellFormed where
  order_current : ∀ order, g.order = some order → order = g.dependencyList

namespace Consistent

/-- A graph that keeps no order is consistent if it is well formed. -/
theorem of_no_order (hg : g.WellFormed) (horder : g.order = none) : g.Consistent :=
  ⟨hg, fun order h => by simp [horder] at h⟩

/-- What is kept stays right where neither the ids nor the connections change. -/
theorem of_same_order (hg : g.Consistent) (hh : h.WellFormed) (horder : h.order = g.order)
    (hids : h.nodeIds.Perm g.nodeIds) (hconnections : h.connections = g.connections) :
    h.Consistent :=
  ⟨hh, fun order ho => by
    rw [dependencyList_congr hids hconnections]
    exact hg.order_current order (horder ▸ ho)⟩

/-- Asking for the order of a consistent graph gives its dependency list, which it then keeps. -/
theorem nodesByOrder_eq (hg : g.Consistent) :
    g.nodesByOrder = (.ok g.dependencyList, { g with order := some g.dependencyList }) := by
  unfold Graph.nodesByOrder
  split
  · rename_i order horder
    obtain rfl := hg.order_current order horder
    rw [← horder]
  · rw [hg.dependencyOrder_eq]

/-- A graph that now keeps its order is consistent. -/
theorem nodesByOrder (hg : g.Consistent) : g.nodesByOrder.2.Consistent := by
  refine ⟨hg.toWellFormed.nodesByOrder, fun order ho => ?_⟩
  rw [hg.nodesByOrder_eq] at ho ⊢
  obtain rfl : g.dependencyList = order := Option.some.inj ho
  rfl

/-- Every call keeps a graph consistent, if the allocator has room for those that allocate. -/
theorem apply (hg : g.Consistent) (c : GraphCall)
    (hroom : 0 < c.allocations g → g.nextId < maxNextId) : (c.apply g).Consistent := by
  have hwf : (c.apply g).WellFormed := hg.toWellFormed.apply c hroom
  cases c with
  | add type position => exact of_no_order hwf rfl
  | addWithId type position id =>
    cases hins : g.addWithId type position id with
    | error e => simpa [GraphCall.apply_addWithId, hins] using hg
    | ok h =>
      obtain ⟨-, -, rfl⟩ := insertNode_eq_ok_iff.mp hins
      exact of_no_order hwf (by simp [GraphCall.apply_addWithId, hins])
  | remove ids =>
    cases hmentions : g.mentions ids with
    | true => exact of_no_order hwf (by simp [GraphCall.apply, hg.remove_of_mentions hmentions])
    | false => simpa [GraphCall.apply, remove_of_not_mentions hg.ids_distinct hmentions] using hg
  | duplicate id =>
    cases hdup : g.duplicate id with
    | none => simpa [GraphCall.apply_duplicate, hdup] using hg
    | some result =>
      obtain ⟨copied, h⟩ := result
      obtain ⟨node, -, -, -, rfl⟩ := duplicate_eq_some_iff.mp hdup
      exact of_no_order hwf (by simp [GraphCall.apply_duplicate, hdup])
  | connect source dest =>
    cases hcon : g.connect source dest with
    | error e => simpa [GraphCall.apply_connect, hcon] using hg
    | ok result =>
      obtain ⟨previous, h⟩ := result
      obtain ⟨-, -, -, -, rfl⟩ := connect_eq_ok_iff.mp hcon
      simp only [GraphCall.apply_connect, hcon] at hwf ⊢
      by_cases hsame : g.connection? dest = some ⟨source, dest⟩
      · -- the same connection again: nothing changes, so what is kept may stay
        have hmem := (mem_of_connection?_eq_some hsame).1
        exact of_same_order hg hwf (by simp [hsame]) (.refl _)
          (hg.ascending.insertConnection_of_mem hmem)
      · exact of_no_order hwf (by simp [hsame])
  | disconnect dest =>
    cases hcon : g.connection? dest with
    | none => simpa [GraphCall.apply, Graph.disconnect, hcon] using hg
    | some c => exact of_no_order hwf (by simp [GraphCall.apply, Graph.disconnect, hcon])
  | setValue slot value =>
    cases hset : g.setValue slot value with
    | error e => simpa [GraphCall.apply_setValue, hset] using hg
    | ok result =>
      obtain ⟨changed, h⟩ := result
      obtain ⟨_, _, -, -, -, -, -, rfl⟩ := setValue_eq_ok_iff.mp hset
      simp only [GraphCall.apply_setValue, hset] at hwf ⊢
      split_ifs at hwf ⊢
      · exact hg
      · refine of_same_order hg hwf rfl (.of_eq ?_) rfl
        rw [mapNode_eq]
        exact nodeIds_mapNodes g fun n => by split_ifs <;> rfl
  | move ids delta =>
    obtain ⟨place, hmove⟩ := g.move_eq ids delta
    simp only [GraphCall.apply, hmove] at hwf ⊢
    exact of_same_order hg hwf rfl (.of_eq (nodeIds_mapNodes g fun _ => rfl)) rfl
  | raise id =>
    have hperm := (hg.toWellFormed.raise_perm id).map Node.id
    have hframe : (g.raise id).2.order = g.order ∧
        (g.raise id).2.connections = g.connections := by
      unfold Graph.raise
      split
      · exact ⟨rfl, rfl⟩
      · split_ifs <;> exact ⟨rfl, rfl⟩
    exact of_same_order hg hwf hframe.1 hperm hframe.2
  | nodesByOrder => exact hg.nodesByOrder
  | generateCode => exact hg.nodesByOrder
  | generateParameters => exact hg.nodesByOrder

end Consistent

/-- The graph of a document keeps no order. -/
theorem order_of_toGraph {d : GraphDocument} (hd : d.toGraph = .ok g) : g.order = none := by
  refine toGraph_induction hd (P := fun g => g.order = none) (fun _ => rfl) ?_ ?_
  · intro b node b' _ hins _
    obtain ⟨-, -, rfl⟩ := insertNode_eq_ok_iff.mp hins
    rfl
  · intro b c b' hcon hb
    obtain ⟨-, -, -, -, rfl⟩ := connect_eq_ok_iff.mp hcon
    simp [hb]

/-- **Reachable graphs are consistent.** -/
theorem Reachable.consistent (hg : g.Reachable) : g.Consistent :=
  hg.induction (P := Consistent) (.of_no_order wellFormed_empty rfl)
    (fun _ _ hd => .of_no_order (wellFormed_of_toGraph hd).1 (order_of_toGraph hd))
    fun _ c _ hroom hg => hg.apply c hroom

end Graph

end ShaderGraph
