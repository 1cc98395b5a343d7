import ShaderGraph.Proofs.Graph.Order

/-!
# The least dependency order

Of all lists that hold every node once and every node before those it feeds, the dependency order
is the least when two lists are compared at the first place where they differ. At each step, the
first node of any such list is fed by no node that still waits, so it waits for nothing, and the
node that is placed is the lowest of those. This needs no exchange of nodes: either the two first
nodes differ, and the placed one is lower, or they are equal, and the rests are lists of the same
kind for the nodes that still wait.

The counts are taken down by one for each connection out of a placed node. No connection leads from
a waiting node to one that was placed, and the count of a waiting node includes all connections
from the node placed next, so no count is ever asked to go below zero, however many connections run
between the same two nodes.
-/

set_option autoImplicit false

namespace ShaderGraph

/-! ## Counting down -/

namespace Waiting

variable {connections : List Connection} {waiting : Waiting} {id : NodeId}

/-- The waiting nodes after one connection into a node was counted down; `none` if the node does
not wait, or if its count is zero already. -/
def countDown? : Waiting → NodeId → Option Waiting
  | [], _ => none
  | (other, count) :: rest, id =>
    if other = id then
      match count with
      | 0 => none
      | count + 1 => some ((other, count) :: rest)
    else (countDown? rest id).map ((other, count) :: ·)

/-- A positive count of a waiting node goes down by one, and no other count changes. -/
theorem countDown?_eq (hdistinct : waiting.ids.Nodup) {count : Nat}
    (hmem : (id, count + 1) ∈ waiting) : waiting.countDown? id =
      some (waiting.map fun entry => if entry.1 = id then (entry.1, entry.2 - 1) else entry) := by
  induction waiting with
  | nil => simp at hmem
  | cons head rest ih =>
    obtain ⟨other, number⟩ := head
    obtain ⟨hother, hrest⟩ := List.nodup_cons.mp hdistinct
    rw [List.map_cons]
    by_cases hid : other = id
    · subst hid
      -- the count is the one of this entry, and no other entry is touched
      have habsent : ∀ entry ∈ rest, entry.1 ≠ other := by
        rintro entry hentry rfl
        exact hother (List.mem_map.mpr ⟨entry, hentry, rfl⟩)
      have hhead : number = count + 1 := by
        rcases List.mem_cons.mp hmem with heq | htail
        · exact (Prod.mk.inj heq).2.symm
        · exact absurd rfl (habsent _ htail)
      subst hhead
      have hkept : (rest.map fun entry =>
          if entry.1 = other then (entry.1, entry.2 - 1) else entry) = rest := by
        rw [List.map_congr_left fun entry hentry => if_neg (habsent entry hentry)]
        exact List.map_id' rest
      rw [hkept]
      simp [countDown?]
    · have htail : (id, count + 1) ∈ rest := by
        rcases List.mem_cons.mp hmem with heq | htail
        · exact absurd (Prod.mk.inj heq).1.symm hid
        · exact htail
      simp only [countDown?, if_neg hid, ih hrest htail, Option.map_some]

/-- Counting down one connection after the other goes through, if every node that is counted down
waits and has a count that is large enough. -/
theorem foldlM_countDown? (dests : List NodeId) (hdistinct : waiting.ids.Nodup)
    (hwaits : ∀ id ∈ dests, id ∈ waiting.ids)
    (henough : ∀ entry ∈ waiting, dests.count entry.1 ≤ entry.2) :
    dests.foldlM countDown? waiting =
      some (waiting.map fun entry => (entry.1, entry.2 - dests.count entry.1)) := by
  induction dests generalizing waiting with
  | nil => exact congrArg some (List.map_id' waiting).symm
  | cons id rest ih =>
    obtain ⟨entry, hentry, rfl⟩ := List.mem_map.mp (hwaits id List.mem_cons_self)
    have hcount : (entry.1 :: rest).count entry.1 = rest.count entry.1 + 1 := List.count_cons_self
    have hpositive := henough entry hentry
    rw [hcount] at hpositive
    have hmem : (entry.1, entry.2 - 1 + 1) ∈ waiting := by
      rw [Nat.sub_add_cancel (by omega)]
      exact hentry
    rw [List.foldlM_cons, countDown?_eq hdistinct hmem]
    have hids : Waiting.ids (waiting.map fun other =>
        if other.1 = entry.1 then (other.1, other.2 - 1) else other) = waiting.ids := by
      rw [ids, List.map_map]
      exact List.map_congr_left fun other _ => by
        show (if other.1 = entry.1 then (other.1, other.2 - 1) else other).1 = other.1
        split_ifs <;> rfl
    show rest.foldlM countDown? _ = _
    rw [ih (hids.symm ▸ hdistinct) ?_ ?_, List.map_map]
    · refine congrArg some (List.map_congr_left fun other _ => ?_)
      by_cases hsame : other.1 = entry.1
      · simp only [Function.comp_apply, hsame, if_true, hcount, Prod.mk.injEq, true_and]
        omega
      · simp only [Function.comp_apply, if_neg hsame]
        rw [List.count_cons_of_ne (Ne.symm hsame)]
    · intro other hother
      rw [hids]
      exact hwaits other (List.mem_cons_of_mem _ hother)
    · intro other hother
      obtain ⟨old, hold, rfl⟩ := List.mem_map.mp hother
      have hold := henough old hold
      split_ifs with hsame
      · rw [hsame, hcount] at hold
        simp only [hsame]
        omega
      · rwa [List.count_cons_of_ne (Ne.symm hsame)] at hold

/-- What holds of the waiting nodes whenever the next one is looked for. -/
structure Sound (connections : List Connection) (waiting : Waiting) : Prop where
  distinct : waiting.ids.Nodup
  counted : waiting.Counted connections
  /-- A connection from a node that waits leads to one that waits. -/
  closed : ∀ c ∈ connections, c.source.node ∈ waiting.ids → c.dest.node ∈ waiting.ids

namespace Sound

variable (hw : waiting.Sound connections)
include hw

/-- Placing the next node keeps all of this. -/
theorem release (hnext : waiting.next? = some id) :
    (waiting.release connections id).Sound connections := by
  have hid : id ∈ waiting.ids := mem_ids_of_next?_eq_some hnext
  have herase : (waiting.release connections id).ids = waiting.ids.erase id :=
    ids_release_eq_erase hw.distinct
  refine ⟨herase ▸ hw.distinct.erase id, hw.counted.release hid, ?_⟩
  intro c hc hsource
  rw [herase, hw.distinct.mem_erase_iff] at hsource ⊢
  refine ⟨?_, hw.closed c hc hsource.2⟩
  intro hdest
  exact hw.counted.source_not_mem hnext hc hdest hsource.2

/-- Counting down along the connections out of the next node goes through, and leaves of the other
nodes what placing the node leaves. -/
theorem countDown (hnext : waiting.next? = some id) :
    ∃ counted, ((connections.filter fun c => c.source.node == id).map fun c =>
        c.dest.node).foldlM countDown? waiting = some counted ∧
      counted.filter (fun entry => entry.1 != id) = waiting.release connections id := by
  have hid : id ∈ waiting.ids := mem_ids_of_next?_eq_some hnext
  have hcount : ∀ other, ((connections.filter fun c => c.source.node == id).map fun c =>
      c.dest.node).count other =
      connections.countP fun c => c.source.node == id && c.dest.node == other := by
    intro other
    rw [List.count, List.countP_map, List.countP_filter]
    exact List.countP_congr fun c _ => by simp [and_comm]
  refine ⟨_, foldlM_countDown? _ hw.distinct ?_ ?_, ?_⟩
  · intro dest hdest
    obtain ⟨c, hc, rfl⟩ := List.mem_map.mp hdest
    obtain ⟨hmem, hsource⟩ := List.mem_filter.mp hc
    rw [beq_iff_eq] at hsource
    exact hw.closed c hmem (hsource ▸ hid)
  · intro entry hentry
    rw [hcount, hw.counted entry hentry]
    apply List.countP_mono_left
    intro c _ hboth
    simp only [Bool.and_eq_true, beq_iff_eq] at hboth
    simp [hboth, hid]
  · rw [List.filter_map, Waiting.release]
    refine List.map_congr_left fun entry _ => ?_
    rw [hcount]

end Sound

end Waiting

namespace Graph

variable {g : Graph} {waiting : Waiting}

/-- The order in which nodes stop waiting, worked out by counting down one connection after the
other along those out of the placed node; `none` if a count would have to go below zero. -/
def placedStepwise? (g : Graph) : Nat → Waiting → Option (List NodeId)
  | 0, _ => some []
  | steps + 1, waiting =>
    match waiting.next? with
    | none => some []
    | some id =>
      ((g.dependents id).foldlM Waiting.countDown? waiting).bind fun counted =>
        (g.placedStepwise? steps (counted.filter fun entry => entry.1 != id)).map (id :: ·)

/-- No count has to go below zero, and the order is the one that was worked out at once. -/
theorem placedStepwise?_eq (steps : Nat) (hw : waiting.Sound g.connections) :
    g.placedStepwise? steps waiting = some (Waiting.placed g.connections steps waiting) := by
  induction steps generalizing waiting with
  | zero => rfl
  | succ steps ih =>
    rw [placedStepwise?, Waiting.placed]
    cases hnext : waiting.next? with
    | none => rfl
    | some id =>
      obtain ⟨counted, hcounted, hrelease⟩ := hw.countDown hnext
      show ((g.dependents id).foldlM Waiting.countDown? waiting).bind _ = _
      rw [dependents, hcounted, Option.bind_some, hrelease, ih (hw.release hnext)]
      rfl

/-! ## Orders -/

/-- Whether a list holds every node of a graph exactly once and nothing else, and the start of
every connection before its end. -/
structure Orders (g : Graph) (order : List NodeId) : Prop where
  once : ∀ id, order.count id = if id ∈ g.nodeIds then 1 else 0
  before : ∀ c ∈ g.connections, order.idxOf c.source.node < order.idxOf c.dest.node

/-- An order is a list of all nodes in which no node feeds an earlier one. -/
theorem WellFormed.orders_iff (hg : g.WellFormed) {order : List NodeId} : g.Orders order ↔
    order.Perm g.nodeIds ∧ order.Pairwise fun a b => ¬g.Feeds b a := by
  have hperm : order.Perm g.nodeIds ↔ ∀ id, order.count id = if id ∈ g.nodeIds then 1 else 0 := by
    rw [List.perm_iff_count]
    refine forall_congr' fun id => ?_
    rw [hg.ids_distinct.count]
  constructor
  · rintro ⟨honce, hbefore⟩
    have hall := hperm.mpr honce
    have hdistinct : order.Nodup := hall.nodup_iff.mpr hg.ids_distinct
    refine ⟨hall, List.pairwise_iff_getElem.mpr ?_⟩
    rintro i j hi hj hij ⟨c, hc, hsource, hdest⟩
    have hlt := hbefore c hc
    rw [hsource, hdest, hdistinct.idxOf_getElem, hdistinct.idxOf_getElem] at hlt
    omega
  · rintro ⟨hall, hpairwise⟩
    refine ⟨hperm.mp hall, fun c hc => ?_⟩
    have hsource : c.source.node ∈ order := hall.mem_iff.mpr (hg.source_mem hc)
    have hdest : c.dest.node ∈ order := hall.mem_iff.mpr (hg.dest_mem hc)
    have hne : c.source.node ≠ c.dest.node := by
      intro hsame
      exact hg.acyclic c.dest.node (.single ⟨c, hc, hsame, rfl⟩)
    by_contra hnot
    have hi : order.idxOf c.source.node < order.length := List.idxOf_lt_length_iff.mpr hsource
    have hj : order.idxOf c.dest.node < order.length := List.idxOf_lt_length_iff.mpr hdest
    have hindex : order.idxOf c.dest.node ≠ order.idxOf c.source.node := by
      intro heq
      exact hne ((List.idxOf_inj hdest).mp heq).symm
    have hearlier := List.pairwise_iff_getElem.mp hpairwise _ _ hj hi (by omega)
    rw [List.getElem_idxOf, List.getElem_idxOf] at hearlier
    exact hearlier ⟨c, hc, rfl, rfl⟩

/-! ## The least order -/

/-- No list of the waiting nodes in which no node feeds an earlier one comes before the order in
which they stop waiting. -/
theorem Acyclic.placed_least (hg : g.Acyclic) (steps : Nat) (hw : waiting.Sound g.connections)
    (hsteps : waiting.length = steps) {other : List NodeId} (hperm : other.Perm waiting.ids)
    (hother : other.Pairwise fun a b => ¬g.Feeds b a) :
    Waiting.placed g.connections steps waiting = other ∨
      List.Lex (· < ·) (Waiting.placed g.connections steps waiting) other := by
  induction steps generalizing waiting other with
  | zero =>
    obtain rfl : waiting = [] := List.eq_nil_of_length_eq_zero hsteps
    exact Or.inl hperm.eq_nil.symm
  | succ steps ih =>
    have hne : waiting ≠ [] := by
      rintro rfl
      simp at hsteps
    obtain ⟨id, hid⟩ := Option.ne_none_iff_exists'.mp (hg.next?_ne_none hne hw.counted)
    obtain ⟨-, hlowest⟩ := Waiting.next?_eq_some_iff.mp hid
    have hids : id ∈ waiting.ids := Waiting.mem_ids_of_next?_eq_some hid
    rw [Waiting.placed, hid]
    cases other with
    | nil =>
      rw [← hperm.mem_iff] at hids
      simp at hids
    | cons first rest =>
      obtain ⟨hfirst, hrest⟩ := List.pairwise_cons.mp hother
      obtain ⟨entry, hentry, rfl⟩ := List.mem_map.mp (hperm.mem_iff.mp List.mem_cons_self)
      -- no waiting node feeds the first one, so it waits for nothing
      have hzero : entry.2 = 0 := by
        rw [hw.counted.eq_zero_iff hentry]
        intro c hc hdest hsource
        rcases List.mem_cons.mp (hperm.mem_iff.mpr hsource) with hself | hlater
        · exact hg entry.1 (.single ⟨c, hc, hself, hdest⟩)
        · exact hfirst _ hlater ⟨c, hc, rfl, hdest⟩
      rcases Nat.lt_or_eq_of_le (hlowest entry hentry hzero) with hlt | rfl
      · exact Or.inr (List.Lex.rel hlt)
      · have herase : (waiting.release g.connections entry.1).ids = waiting.ids.erase entry.1 :=
          Waiting.ids_release_eq_erase hw.distinct
        have hremaining : rest.Perm (waiting.release g.connections entry.1).ids := by
          rw [herase]
          simpa using hperm.erase entry.1
        have hlength : (waiting.release g.connections entry.1).length = steps := by
          rw [Waiting.length_release hw.distinct hids, hsteps]
          exact Nat.add_sub_cancel _ _
        rcases ih (hw.release hid) hlength hremaining hrest with heq | hless
        · exact Or.inl (congrArg (entry.1 :: ·) heq)
        · exact Or.inr (List.Lex.cons hless)

/-- At the start all nodes of a well-formed graph wait, with the right counts. -/
theorem WellFormed.sound_start (hg : g.WellFormed) :
    (Waiting.start g.nodeIds g.connections).Sound g.connections := by
  have hids : (Waiting.start g.nodeIds g.connections).ids = g.nodeIds := Waiting.ids_start _
  refine ⟨hids.symm ▸ hg.ids_distinct, Waiting.counted_start fun c hc => hg.source_mem hc, ?_⟩
  intro c hc _
  rw [hids]
  exact hg.dest_mem hc

/-- **The dependency order.** A reachable graph, asked for its dependency order, gives a list of all
its nodes in which the start of every connection stands before its end, and among all such lists it
gives the least. Counting down one connection after the other gives the same list, and no count
ever has to go below zero. -/
theorem nodesByOrder_least (hg : g.Reachable) :
    ∃ order, g.nodesByOrder.1 = .ok order ∧ g.Orders order ∧
      (∀ other, g.Orders other → order = other ∨ List.Lex (· < ·) order other) ∧
      g.placedStepwise? g.nodes.length (.start g.nodeIds g.connections) = some order := by
  have hwf := hg.invariant
  have hstart := hwf.sound_start
  have hlength : (Waiting.start g.nodeIds g.connections).length = g.nodes.length := by
    rw [Waiting.start, List.length_map, nodeIds, List.length_map]
  refine ⟨g.dependencyList, ?_, hwf.orders_iff.mpr hwf.dependencyList_spec, ?_,
    placedStepwise?_eq _ hstart⟩
  · rw [hg.consistent.nodesByOrder_eq]
  · intro other hother
    obtain ⟨hperm, hpairwise⟩ := hwf.orders_iff.mp hother
    apply hwf.acyclic.placed_least _ hstart hlength _ hpairwise
    rw [Waiting.ids_start]
    exact hperm

/-- Two connections between the same two nodes, and a node that is independent of both. -/
theorem nodesByOrder_least_parallel :
    let g := ofCalls [.add .math ⟨0, 0⟩, .add .value ⟨0, 0⟩, .add .value ⟨0, 0⟩,
      .connect ⟨2, 1⟩ ⟨1, 2⟩, .connect ⟨2, 1⟩ ⟨1, 3⟩]
    g.nodesByOrder.1 = .ok [2, 1, 3] ∧ g.Orders [2, 1, 3] ∧
      (∀ other, g.Orders other → [2, 1, 3] = other ∨ List.Lex (· < ·) [2, 1, 3] other) := by
  intro g
  have hg : g.Reachable := reachable_ofCalls _ (by decide)
  have hgiven : g.nodesByOrder.1 = .ok [2, 1, 3] := by decide +kernel
  obtain ⟨order, horder, hspec, hleast, -⟩ := nodesByOrder_least hg
  obtain rfl : order = [2, 1, 3] := Except.ok.inj (horder.symm.trans hgiven)
  exact ⟨hgiven, hspec, hleast⟩

end Graph

end ShaderGraph
