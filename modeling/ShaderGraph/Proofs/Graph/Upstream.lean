import ShaderGraph.Proofs.Graph.Order

/-!
# The order of a part

Take a part of the nodes that no connection enters from outside. While the dependency order of the
whole graph is worked out, the nodes outside the part come and go without a trace in it: placing one
changes no count inside, and the lowest of the nodes that wait for nothing, if it is inside, is also
the lowest inside. So the order of the whole, cut down to the part, is the order of the part alone,
and it depends on nothing but the ids in the part and the connections into it.
-/

set_option autoImplicit false

namespace ShaderGraph

namespace Waiting

variable {connections others : List Connection} {waiting : Waiting} {keep : NodeId → Bool}
  {id : NodeId}

/-- The waiting nodes of a part. -/
def within (keep : NodeId → Bool) (waiting : Waiting) : Waiting :=
  waiting.filter fun entry => keep entry.1

/-- The waiting nodes of a part are those that wait and belong to the part. -/
theorem mem_within {entry : NodeId × Nat} :
    entry ∈ waiting.within keep ↔ entry ∈ waiting ∧ keep entry.1 = true :=
  List.mem_filter

/-- The part of those that wait at first is what waits at first in the part. -/
theorem within_start (nodes : List NodeId) :
    (start nodes connections).within keep = start (nodes.filter keep) connections := by
  unfold within start
  rw [List.filter_map]
  rfl

/-- No node is placed where none waits. -/
theorem placed_nil (steps : Nat) : placed connections steps [] = [] := by
  cases steps <;> rfl

/-- No node is placed where none is free to be. -/
theorem placed_of_next?_eq_none (steps : Nat) (hnext : waiting.next? = none) :
    placed connections steps waiting = [] := by
  cases steps with
  | zero => rfl
  | succ steps => rw [placed, hnext]

/-- Fewer nodes wait when a waiting one has been placed. -/
theorem length_release_lt (hid : id ∈ waiting.ids) :
    (release connections id waiting).length < waiting.length := by
  obtain ⟨entry, hentry, rfl⟩ := List.mem_map.mp hid
  rw [release, List.length_map]
  refine List.length_filter_lt_length_iff_exists.mpr ⟨entry, hentry, ?_⟩
  simp

/-! ## Placing inside and outside of a part -/

/-- Placing a node and cutting down to a part can be done in either order. -/
theorem within_release :
    (release connections id waiting).within keep =
      release connections id (waiting.within keep) := by
  unfold within release
  rw [List.filter_map, List.filter_filter, List.filter_filter]
  congr 1
  exact List.filter_congr fun entry _ => Bool.and_comm _ _

/-- Placing a node outside of a part that no connection enters changes nothing in the part. -/
theorem release_within (hclosed : ∀ c ∈ connections, keep c.dest.node = true →
    keep c.source.node = true) (hid : keep id = false) :
    release connections id (waiting.within keep) = waiting.within keep := by
  have hinside : ∀ entry ∈ waiting.within keep, (entry.1 != id) = true := by
    intro entry hentry
    have hkeep := (mem_within.mp hentry).2
    rw [bne_iff_ne]
    rintro rfl
    exact absurd hkeep (by simp [hid])
  rw [release, List.filter_eq_self.mpr hinside]
  refine (List.map_congr_left ?_).trans (List.map_id _)
  intro entry hentry
  have hkeep := (mem_within.mp hentry).2
  have hnone : (connections.countP fun c => c.source.node == id && c.dest.node == entry.1) = 0 := by
    rw [List.countP_eq_zero]
    intro c hc hboth
    simp only [Bool.and_eq_true, beq_iff_eq] at hboth
    have hsource := hclosed c hc (hboth.2 ▸ hkeep)
    rw [hboth.1, hid] at hsource
    cases hsource
  simp [hnone]

/-- A node inside that is placed next is also the next of the part. -/
theorem next?_within (hnext : waiting.next? = some id) (hid : keep id = true) :
    (waiting.within keep).next? = some id := by
  obtain ⟨hmem, hle⟩ := next?_eq_some_iff.mp hnext
  refine next?_eq_some_iff.mpr ⟨mem_within.mpr ⟨hmem, hid⟩, ?_⟩
  intro entry hentry
  exact hle entry (mem_within.mp hentry).1

/-- Where no node is free to be placed, none of a part is. -/
theorem next?_within_eq_none (hnext : waiting.next? = none) :
    (waiting.within keep).next? = none := by
  unfold next? at hnext ⊢
  rw [List.min?_eq_none_iff, List.map_eq_nil_iff, List.filter_eq_nil_iff] at hnext ⊢
  intro entry hentry
  exact hnext entry (mem_within.mp hentry).1

/-- **The order of the whole, cut down to a part that no connection enters, is the order of the
part**, given enough steps for each. -/
theorem placed_within (hclosed : ∀ c ∈ connections, keep c.dest.node = true →
    keep c.source.node = true) (steps inside : Nat) (hsteps : waiting.length ≤ steps)
    (hinside : (waiting.within keep).length ≤ inside) :
    (placed connections steps waiting).filter keep =
      placed connections inside (waiting.within keep) := by
  induction steps generalizing waiting inside with
  | zero =>
    obtain rfl : waiting = [] := List.eq_nil_of_length_eq_zero (by omega)
    exact (placed_nil inside).symm
  | succ steps ih =>
    cases hnext : waiting.next? with
    | none =>
      rw [placed_of_next?_eq_none _ hnext, placed_of_next?_eq_none _ (next?_within_eq_none hnext)]
      rfl
    | some id =>
      have hmem : id ∈ waiting.ids := mem_ids_of_next?_eq_some hnext
      have hshorter : (release connections id waiting).length < waiting.length :=
        length_release_lt hmem
      have hrest : (release connections id waiting).length ≤ steps := by omega
      rw [placed, hnext]
      by_cases hid : keep id = true
      · have hinner := next?_within hnext hid
        have hinnerMem : id ∈ (waiting.within keep).ids := mem_ids_of_next?_eq_some hinner
        have hinnerShorter : (release connections id (waiting.within keep)).length <
            (waiting.within keep).length := length_release_lt hinnerMem
        cases inside with
        | zero => omega
        | succ inside =>
          have hinnerRest : ((release connections id waiting).within keep).length ≤ inside := by
            rw [within_release]
            omega
          rw [placed, hinner, List.filter_cons_of_pos hid, ih inside hrest hinnerRest,
            within_release]
      · have hsame : (release connections id waiting).within keep = waiting.within keep := by
          rw [within_release]
          exact release_within hclosed (Bool.eq_false_of_not_eq_true hid)
        rw [List.filter_cons_of_neg hid, ih inside hrest (hsame ▸ hinside), hsame]

/-! ## What the order of a part depends on -/

/-- The connections into a node of a part can be counted among those into the part. -/
theorem countP_into (hid : keep id = true) (p : Connection → Bool) :
    (connections.countP fun c => p c && c.dest.node == id) =
      (connections.filter fun c => keep c.dest.node).countP fun c => p c && c.dest.node == id := by
  rw [List.countP_filter]
  refine List.countP_congr ?_
  intro c _
  by_cases hdest : c.dest.node = id
  · simp [hdest, hid]
  · simp [hdest]

/-- Which nodes of a part still wait depends on no connection that leads elsewhere. -/
theorem release_within_congr (hsame : (connections.filter fun c => keep c.dest.node) =
    others.filter fun c => keep c.dest.node) (id : NodeId) :
    release connections id (waiting.within keep) = release others id (waiting.within keep) := by
  unfold release
  refine List.map_congr_left ?_
  rintro ⟨other, count⟩ hentry
  have hkeep := (mem_within.mp (List.mem_filter.mp hentry).1).2
  have hcount : (connections.countP fun c => c.source.node == id && c.dest.node == other) =
      others.countP fun c => c.source.node == id && c.dest.node == other := by
    rw [countP_into hkeep, hsame, ← countP_into hkeep]
  simp only [hcount]

/-- The order of a part depends on no connection that leads elsewhere. -/
theorem placed_within_congr (hsame : (connections.filter fun c => keep c.dest.node) =
    others.filter fun c => keep c.dest.node) (steps : Nat) :
    placed connections steps (waiting.within keep) = placed others steps (waiting.within keep) := by
  induction steps generalizing waiting with
  | zero => rfl
  | succ steps ih =>
    rw [placed, placed]
    cases (waiting.within keep).next? with
    | none => rfl
    | some id =>
      have hrelease : release connections id (waiting.within keep) =
          release others id (waiting.within keep) := release_within_congr hsame id
      simp only [hrelease, ← within_release]
      exact congrArg (id :: ·) ih

end Waiting

namespace Graph

variable {g h : Graph} {keep : NodeId → Bool}

/-- **The order of a part.** Two graphs order a part that no connection enters from outside in the
same way, if they have the same nodes in it and the same connections into it. -/
theorem WellFormed.dependencyList_filter_eq (hg : g.WellFormed) (hh : h.WellFormed)
    (hids : ∀ id, keep id = true → (id ∈ h.nodeIds ↔ id ∈ g.nodeIds))
    (hsame : (h.connections.filter fun c => keep c.dest.node) =
      g.connections.filter fun c => keep c.dest.node)
    (hclosed : ∀ c ∈ g.connections, keep c.dest.node = true → keep c.source.node = true) :
    h.dependencyList.filter keep = g.dependencyList.filter keep := by
  have hclosed' : ∀ c ∈ h.connections, keep c.dest.node = true → keep c.source.node = true := by
    intro c hc hkeep
    have hmem : c ∈ g.connections.filter fun c => keep c.dest.node :=
      hsame ▸ List.mem_filter.mpr ⟨hc, hkeep⟩
    exact hclosed c (List.mem_filter.mp hmem).1 hkeep
  have hperm : (h.nodeIds.filter keep).Perm (g.nodeIds.filter keep) := by
    rw [List.perm_ext_iff_of_nodup (hh.ids_distinct.filter _) (hg.ids_distinct.filter _)]
    intro id
    rw [List.mem_filter, List.mem_filter]
    exact and_congr_left (hids id)
  have hlength : ∀ k : Graph, (Waiting.start k.nodeIds k.connections).length = k.nodes.length := by
    intro k
    simp [Waiting.start, nodeIds]
  have hinside : ∀ k : Graph, ((Waiting.start k.nodeIds k.connections).within keep).length ≤
      k.nodes.length := by
    intro k
    exact (List.length_filter_le ..).trans (hlength k).le
  have hg' := hinside g
  have hh' := hinside h
  unfold dependencyList
  rw [Waiting.placed_within hclosed' _ (h.nodes.length + g.nodes.length) (hlength h).le (by omega),
    Waiting.placed_within hclosed _ (h.nodes.length + g.nodes.length) (hlength g).le (by omega),
    Waiting.placed_within_congr hsame, Waiting.within_start, Waiting.within_start]
  have hstart : (Waiting.start (h.nodeIds.filter keep) h.connections).Perm
      (Waiting.start (g.nodeIds.filter keep) g.connections) := by
    have hcount : ∀ id ∈ h.nodeIds.filter keep,
        (h.connections.countP fun c => c.dest.node == id) =
          g.connections.countP fun c => c.dest.node == id := by
      intro id hid
      have hkeep := (List.mem_filter.mp hid).2
      have hinto : (h.connections.countP fun c => true && c.dest.node == id) =
          g.connections.countP fun c => true && c.dest.node == id := by
        rw [Waiting.countP_into hkeep, hsame, ← Waiting.countP_into hkeep]
      simpa using hinto
    unfold Waiting.start
    rw [List.map_congr_left fun id hid => congrArg (id, ·) (hcount id hid)]
    exact hperm.map _
  exact Waiting.placed_perm _ hstart

end Graph

end ShaderGraph
