import Mathlib.Logic.Function.Iterate
import ShaderGraph.Proofs.Graph.Commands
import ShaderGraph.Proofs.Graph.Same

/-!
# What commands report

A command reports a change exactly if the graph then is another one, with one exception: moving
nodes is a change as soon as one of the listed nodes is there, although nodes whose coordinates are
at the end of their range may stay where they are.
-/

set_option autoImplicit false

namespace ShaderGraph

/-! ## Moving -/

/-- Saturating keeps a number within 32 bits and stops at the nearer end outside. -/
theorem toInt_saturateInt32 (n : Int) :
    (saturateInt32 n).toInt = max (-0x80000000) (min 0x7fffffff n) := by
  unfold saturateInt32
  exact Int32.toInt_ofInt_of_le (by omega) (by omega)

/-- A coordinate that is moved repeatedly goes one way only, so it comes back to where it was only
if it never left. -/
theorem saturating_fixed {d x : Int32} {steps : Nat}
    (hfixed : (fun y : Int32 => saturateInt32 (y.toInt + d.toInt))^[steps + 1] x = x) :
    saturateInt32 (x.toInt + d.toInt) = x := by
  set f : Int32 → Int32 := fun y => saturateInt32 (y.toInt + d.toInt) with hf
  have hstep : ∀ y : Int32,
      (f y).toInt = max (-0x80000000) (min 0x7fffffff (y.toInt + d.toInt)) := by
    intro y
    exact toInt_saturateInt32 _
  have hrange : ∀ y : Int32, -0x80000000 ≤ y.toInt ∧ y.toInt ≤ 0x7fffffff := by
    intro y
    have hle := y.le_toInt
    have hlt := y.toInt_lt
    omega
  have hway : ∀ (steps : Nat) (y : Int32), (0 ≤ d.toInt → y.toInt ≤ (f^[steps] y).toInt) ∧
      (d.toInt ≤ 0 → (f^[steps] y).toInt ≤ y.toInt) := by
    intro steps
    induction steps with
    | zero => exact fun y => ⟨fun _ => Int.le_refl _, fun _ => Int.le_refl _⟩
    | succ steps ih =>
      intro y
      obtain ⟨hup, hdown⟩ := ih (f y)
      have hy := hstep y
      have hr := hrange y
      rw [Function.iterate_succ_apply]
      constructor
      · intro hd
        have hrest := hup hd
        omega
      · intro hd
        have hrest := hdown hd
        omega
  rw [Function.iterate_succ_apply] at hfixed
  obtain ⟨hup, hdown⟩ := hway steps (f x)
  rw [hfixed] at hup hdown
  have hx := hstep x
  have hr := hrange x
  refine Int32.toInt_inj.mp (?_ : (f x).toInt = x.toInt)
  omega

/-- A position that moves away never comes back by moves of the same distance. -/
theorem Position.move_fixed {p delta : Position} {steps : Nat}
    (hfixed : (fun q : Position => q.move delta)^[steps + 1] p = p) : p.move delta = p := by
  have hcoordinates : ∀ (steps : Nat) (q : Position), (fun q : Position => q.move delta)^[steps] q =
      ⟨(fun y : Int32 => saturateInt32 (y.toInt + delta.x.toInt))^[steps] q.x,
        (fun y : Int32 => saturateInt32 (y.toInt + delta.y.toInt))^[steps] q.y⟩ := by
    intro steps
    induction steps with
    | zero => exact fun _ => rfl
    | succ steps ih =>
      intro q
      rw [Function.iterate_succ_apply, ih]
      rfl
  rw [hcoordinates] at hfixed
  obtain ⟨hx, hy⟩ := Position.mk.inj hfixed
  exact congrArg₂ Position.mk (saturating_fixed hx) (saturating_fixed hy)

namespace Graph

variable {g h : Graph} {ids : List NodeId} {delta : Position}

/-- Nodes are moved once per mention. -/
theorem move_eq_iterate (hdelta : delta ≠ ⟨0, 0⟩) : (g.move ids delta).2 = g.mapNodes fun n =>
    { n with position := (fun p : Position => p.move delta)^[ids.count n.id] n.position } := by
  rw [move, if_neg hdelta]
  simp only
  induction ids generalizing g with
  | nil => simp [mapNodes]
  | cons id rest ih =>
    rw [List.foldl_cons, ih, mapNode_eq]
    simp only [mapNodes, List.map_map, Graph.mk.injEq, and_true]
    refine List.map_congr_left ?_
    intro n _
    by_cases hid : n.id = id
    · simp [hid, Function.iterate_succ_apply]
    · simp [hid, Ne.symm hid]

/-- A list that mentions no node of the graph moves none. -/
theorem move_of_no_node (hnone : ids.any g.contains = false) : (g.move ids delta).2 = g := by
  by_cases hdelta : delta = ⟨0, 0⟩
  · simp [move, hdelta]
  rw [move_eq_iterate hdelta, mapNodes]
  have hkept : ∀ n ∈ g.nodes, ({ n with
      position := (fun p : Position => p.move delta)^[ids.count n.id] n.position } : Node) = n := by
    intro n hn
    have hid : n.id ∉ ids := by
      intro hid
      have hcontains : g.contains n.id = true := contains_iff.mpr (List.mem_map_of_mem hn)
      have hany : ids.any g.contains = true := List.any_eq_true.mpr ⟨n.id, hid, hcontains⟩
      rw [hnone] at hany
      cases hany
    rw [List.count_eq_zero.mpr hid]
    rfl
  rw [List.map_congr_left hkept, List.map_id']

/-! ## Graphs that are not the same -/

/-- Graphs with different numbers of nodes are not the same. -/
theorem not_same_of_length (hlength : g.nodes.length ≠ h.nodes.length) : g.same h = false := by
  rw [← Bool.not_eq_true, same_iff]
  rintro ⟨hsame, -⟩
  exact hlength hsame

/-- Graphs with different connections are not the same. -/
theorem not_same_of_connections (hconnections : g.connections ≠ h.connections) :
    g.same h = false := by
  rw [← Bool.not_eq_true, same_iff]
  rintro ⟨-, -, hsame⟩
  exact hconnections hsame

/-- Graphs with different nodes under one id are not the same. -/
theorem not_same_of_node {n m : Node} (hn : n ∈ g.nodes) (hm : h.node? n.id = some m)
    (hnm : n.same m = false) : g.same h = false := by
  rw [← Bool.not_eq_true, same_iff]
  rintro ⟨-, hnodes, -⟩
  obtain ⟨m', hm', hsame⟩ := hnodes n hn
  obtain rfl : m = m' := Option.some.inj (hm.symm.trans hm')
  rw [hnm] at hsame
  cases hsame

end Graph

namespace EditCommand

variable {g h : Graph} {command : EditCommand} {outcome : EditOutcome}

/-- Whether a command moves nodes of the graph that all stay where they are, for their coordinates
are at the end of their range already. -/
def Stuck (g : Graph) : EditCommand → Prop
  | move ids delta => delta ≠ ⟨0, 0⟩ ∧ (∃ id ∈ ids, id ∈ g.nodeIds) ∧
      ∀ n ∈ g.nodes, n.id ∈ ids → n.position.move delta = n.position
  | _ => False

namespace Step

/-- An edit that reaches the structure changes the graph. -/
theorem changed_of_structural (hstep : command.Step g outcome h)
    (hstructural : outcome.structural = true) : outcome.changed = true := by
  cases hstep with
  | add | duplicate => rfl
  | remove | connect | disconnect => exact hstructural
  | @setValue slot value changed h _ =>
    unfold valueOutcome at hstructural ⊢
    split_ifs at hstructural ⊢ with henum
    · exact hstructural
    · cases hstructural
  | move => cases hstructural
  | raise => cases hstructural

/-- A command that reports no change changes the display order at most. -/
theorem perm_of_unchanged (hg : g.WellFormed) (hstep : command.Step g outcome h)
    (hchanged : outcome.changed = false) :
    h.nodes.Perm g.nodes ∧ h.connections = g.connections ∧ h.nextId = g.nextId := by
  cases hstep with
  | add | duplicate => cases hchanged
  | remove nodes =>
    have hnone : (g.remove nodes).1 = 0 := by
      simpa [EditOutcome.structuralEdit] using hchanged
    cases hmentions : g.mentions nodes with
    | false =>
      rw [Graph.remove_of_not_mentions hg.ids_distinct hmentions]
      exact ⟨.refl _, rfl, rfl⟩
    | true =>
      rw [hg.remove_of_mentions hmentions, List.countP_eq_zero] at hnone
      exact absurd hmentions (by simpa [Graph.mentions] using hnone)
  | @connect source dest previous h hcon =>
    obtain ⟨-, -, -, rfl, rfl⟩ := Graph.connect_eq_ok_iff.mp hcon
    have hprevious : (g.connection? dest).map Connection.source = some source := by
      simpa [EditOutcome.structuralEdit] using hchanged
    obtain ⟨c, hc, rfl⟩ := Option.map_eq_some_iff.mp hprevious
    obtain ⟨hmem, rfl⟩ := Graph.mem_of_connection?_eq_some hc
    exact ⟨.refl _, hg.ascending.insertConnection_of_mem hmem, rfl⟩
  | disconnect dest =>
    have hnone : (g.disconnect dest).1 = none := by
      simpa [EditOutcome.structuralEdit] using hchanged
    unfold Graph.disconnect at hnone ⊢
    split at hnone
    · exact ⟨.refl _, rfl, rfl⟩
    · cases hnone
  | @setValue slot value changed h hset =>
    obtain ⟨-, current, -, -, -, -, rfl, rfl⟩ := Graph.setValue_eq_ok_iff.mp hset
    have hsame : current.same value = true := by
      unfold valueOutcome at hchanged
      split_ifs at hchanged <;>
        simpa [EditOutcome.structuralEdit, EditOutcome.cosmeticEdit] using hchanged
    rw [if_pos hsame]
    exact ⟨.refl _, rfl, rfl⟩
  | move nodes delta =>
    by_cases hdelta : delta = ⟨0, 0⟩
    · have hkept : g.move nodes delta = (false, g) := if_pos hdelta
      rw [hkept]
      exact ⟨.refl _, rfl, rfl⟩
    · have hmove : g.move nodes delta = (nodes.any g.contains, _) := if_neg hdelta
      have hnone : nodes.any g.contains = false := by
        rw [hmove] at hchanged
        exact hchanged
      rw [Graph.move_of_no_node hnone]
      exact ⟨.refl _, rfl, rfl⟩
  | @raise node hnode =>
    refine ⟨hg.raise_perm node, ?_⟩
    unfold Graph.raise
    split
    · exact ⟨rfl, rfl⟩
    · split_ifs <;> exact ⟨rfl, rfl⟩

/-- A command that reaches the structure changes how many nodes there are, changes the connections,
or selects another option. -/
theorem differs_of_structural (hg : g.WellFormed) (hstep : command.Step g outcome h)
    (hstructural : outcome.structural = true) :
    g.nodes.length ≠ h.nodes.length ∨ g.connections ≠ h.connections ∨
      ∃ slot option, command = .setValue slot (.enum option) ∧
        g.setValue slot (.enum option) = .ok (true, h) := by
  cases hstep with
  | add type position =>
    refine .inl ?_
    rw [Graph.add, List.length_append, List.length_singleton]
    omega
  | remove nodes =>
    refine .inl ?_
    have hsome : 0 < (g.remove nodes).1 := by
      simpa [EditOutcome.structuralEdit] using hstructural
    have hbalance := Graph.fst_remove_add hg.ids_distinct nodes
    omega
  | duplicate hdup =>
    refine .inl ?_
    obtain ⟨node, -, -, -, rfl⟩ := Graph.duplicate_eq_some_iff.mp hdup
    rw [List.length_append, List.length_singleton]
    omega
  | @connect source dest previous h hcon =>
    obtain ⟨-, -, -, rfl, rfl⟩ := Graph.connect_eq_ok_iff.mp hcon
    refine .inr (.inl fun hsame => ?_)
    have hmem : (⟨source, dest⟩ : Connection) ∈ g.connections := by
      rw [hsame]
      exact hg.ascending.mem_insertConnection.mpr (.inl rfl)
    rw [(Graph.connection?_eq_some_iff hg.ascending).mpr ⟨hmem, rfl⟩] at hstructural
    simp [EditOutcome.structuralEdit] at hstructural
  | disconnect dest =>
    cases hc : g.connection? dest with
    | none => simp [Graph.disconnect, hc, EditOutcome.structuralEdit] at hstructural
    | some c =>
      obtain ⟨hmem, hdest⟩ := Graph.mem_of_connection?_eq_some hc
      refine .inr (.inl fun hsame => ?_)
      rw [hsame] at hmem
      simp [Graph.disconnect, hc, hdest] at hmem
  | @setValue slot value changed h hset =>
    cases value with
    | enum option =>
      obtain rfl : changed = true := hstructural
      exact .inr (.inr ⟨slot, option, rfl, hset⟩)
    | _ => cases hstructural
  | move => cases hstructural
  | raise => cases hstructural

/-- A command that reports a change leads to another graph, unless it moves nodes that stay where
they are. -/
theorem not_same_of_changed (hg : g.WellFormed) (hstep : command.Step g outcome h)
    (hfree : ¬command.Stuck g) (hchanged : outcome.changed = true) : g.same h = false := by
  have hstructure := hstep.differs_of_structural hg
  cases hstep with
  | add | remove | duplicate | connect | disconnect =>
    -- for these commands, to change anything is to reach the structure
    rcases hstructure hchanged with hlength | hconnections | ⟨slot, option, hcommand, -⟩
    · exact Graph.not_same_of_length hlength
    · exact Graph.not_same_of_connections hconnections
    · cases hcommand
  | @setValue slot value changed h hset =>
    obtain ⟨-, current, -, hcurrent, -, -, rfl, rfl⟩ := Graph.setValue_eq_ok_iff.mp hset
    have hdiffers : current.same value = false := by
      unfold valueOutcome at hchanged
      split_ifs at hchanged <;>
        simpa [EditOutcome.structuralEdit, EditOutcome.cosmeticEdit] using hchanged
    obtain ⟨n, hn, hvalue⟩ := Option.bind_eq_some_iff.mp hcurrent
    obtain ⟨hmem, hid⟩ := Graph.mem_of_node?_eq_some hn
    have hnode : (g.mapNode slot.node (·.setValue slot.index value)).node? n.id =
        some (n.setValue slot.index value) := by
      rw [Graph.mapNode_eq, Graph.node?_mapNodes (fun n => by split_ifs <;> rfl), hid, hn]
      simp [hid]
    rw [hdiffers]
    apply Graph.not_same_of_node hmem hnode
    have hindex : slot.index < n.values.length := (List.getElem?_eq_some_iff.mp hvalue).1
    have hzip : (current, value) ∈ n.values.zip (n.setValue slot.index value).values := by
      rw [List.mem_iff_getElem?]
      refine ⟨slot.index, ?_⟩
      rw [List.getElem?_zip_eq_some]
      exact ⟨hvalue, by simp [Node.setValue, hindex]⟩
    rw [← Bool.not_eq_true, Node.same]
    simp only [Bool.and_eq_true, List.all_eq_true, not_and, not_forall]
    intro _
    exact ⟨_, hzip, by simp [hdiffers]⟩
  | move nodes delta =>
    have hdelta : delta ≠ ⟨0, 0⟩ := by
      rintro rfl
      simp [Graph.move, EditOutcome.cosmeticEdit] at hchanged
    have hmove : g.move nodes delta = (nodes.any g.contains, _) := if_neg hdelta
    have hsome : ∃ id ∈ nodes, id ∈ g.nodeIds := by
      rw [hmove] at hchanged
      obtain ⟨id, hid, hcontains⟩ := List.any_eq_true.mp hchanged
      exact ⟨id, hid, Graph.contains_iff.mp hcontains⟩
    -- one of the nodes that are mentioned leaves its place, and never comes back to it
    have hleaves : ∃ n ∈ g.nodes, n.id ∈ nodes ∧ n.position.move delta ≠ n.position := by
      by_contra hnone
      push Not at hnone
      exact hfree ⟨hdelta, hsome, hnone⟩
    obtain ⟨n, hn, hid, hmoves⟩ := hleaves
    obtain ⟨steps, hsteps⟩ : ∃ steps, nodes.count n.id = steps + 1 :=
      Nat.exists_eq_add_one.mpr (List.count_pos_iff.mpr hid)
    rw [Graph.move_eq_iterate hdelta]
    have hnode := Graph.node?_mapNodes (g := g) (f := fun n => { n with
      position := (fun p : Position => p.move delta)^[nodes.count n.id] n.position })
      (fun _ => rfl) n.id
    rw [Graph.node?_id_of_mem hg.ids_distinct hn, Option.map_some] at hnode
    apply Graph.not_same_of_node hn hnode
    rw [← Bool.not_eq_true, Node.same]
    simp only [Bool.and_eq_true, decide_eq_true_eq]
    rintro ⟨⟨⟨⟨-, hposition⟩, -⟩, -⟩, -⟩
    rw [hsteps] at hposition
    exact hmoves (Position.move_fixed hposition.symm)
  | raise => cases hchanged

/-- A command that moves nodes that stay where they are reports a change and leaves the nodes as
they were. -/
theorem nodes_of_stuck (hstep : command.Step g outcome h) (hstuck : command.Stuck g) :
    outcome.changed = true ∧ h.nodes = g.nodes ∧ h.connections = g.connections := by
  cases hstep with
  | move nodes delta =>
    obtain ⟨hdelta, ⟨id, hid, hmem⟩, hfixed⟩ := hstuck
    have hmove : g.move nodes delta = (nodes.any g.contains, _) := if_neg hdelta
    refine ⟨?_, ?_, ?_⟩
    · rw [hmove]
      exact List.any_eq_true.mpr ⟨id, hid, Graph.contains_iff.mpr hmem⟩
    · rw [Graph.move_eq_iterate hdelta, Graph.mapNodes]
      have hkept : ∀ n ∈ g.nodes, ({ n with position :=
          (fun p : Position => p.move delta)^[nodes.count n.id] n.position } : Node) = n := by
        intro n hn
        by_cases hlisted : n.id ∈ nodes
        · rw [Function.iterate_fixed (hfixed n hn hlisted)]
        · rw [List.count_eq_zero.mpr hlisted]
          rfl
      rw [List.map_congr_left hkept, List.map_id']
    · rw [Graph.move_eq_iterate hdelta]
      rfl
  | _ => exact absurd hstuck id

/-- A command leaves a graph well formed or appends a valid node under the next id, be there room
for another id after it or not. -/
theorem wellFormed_or_appends (hg : g.WellFormed) (hstep : command.Step g outcome h) :
    h.WellFormed ∨ ∃ node, h.nodes = g.nodes ++ [node] ∧ node.id = g.nextId ∧ node.Valid := by
  have hkept : command.call.allocations g = 0 → h.WellFormed := by
    intro hnone
    rw [hstep.eq_apply]
    exact hg.apply command.call fun halloc => by omega
  cases hstep with
  | add type position => exact .inr ⟨_, rfl, rfl, Node.ofType_valid⟩
  | duplicate hdup =>
    obtain ⟨node, hnode, hvalid, -, rfl⟩ := Graph.duplicate_eq_some_iff.mp hdup
    exact .inr ⟨_, rfl, rfl, hvalid⟩
  | _ => exact .inl (hkept rfl)

/-- No command uses an id twice, not even one that finds the allocator at its end. -/
theorem ids_distinct (hg : g.WellFormed) (hstep : command.Step g outcome h) :
    h.nodeIds.Nodup := by
  rcases hstep.wellFormed_or_appends hg with hh | ⟨node, hnodes, hid, -⟩
  · exact hh.ids_distinct
  · rw [Graph.nodeIds, hnodes, List.map_append, List.nodup_append]
    refine ⟨hg.ids_distinct, List.nodup_singleton _, ?_⟩
    rintro a ha b hb rfl
    rw [List.map_singleton, List.mem_singleton, hid] at hb
    exact hg.nextId_fresh (hb ▸ ha)

/-- No command stores a value that its slot may not hold. -/
theorem nodes_valid (hg : g.WellFormed) (hstep : command.Step g outcome h) :
    ∀ node ∈ h.nodes, node.Valid := by
  rcases hstep.wellFormed_or_appends hg with hh | ⟨node, hnodes, -, hvalid⟩
  · exact hh.nodes_valid
  · intro other hother
    rw [hnodes] at hother
    rcases List.mem_append.mp hother with hother | hother
    · exact hg.nodes_valid other hother
    · rwa [List.mem_singleton.mp hother]

end Step

/-- **What a command reports is what it does, but for nodes that cannot be moved.** A command that
reaches the structure is a change. A command reports a change exactly if the graph then differs from
the one before, except where it moves nodes that all stay where they are, because their coordinates
are at the end of their range: that is reported as a change although the graph is the same. -/
theorem execute_changed (hg : g.Reachable) (hexec : command.execute g = .ok (outcome, h)) :
    (outcome.structural = true → outcome.changed = true) ∧ g.same h = h.same g ∧
    (¬command.Stuck g → (outcome.changed = true ↔ g.same h = false)) ∧
    (command.Stuck g → outcome.changed = true ∧ g.same h = true) := by
  have hwf := hg.invariant
  have hstep := execute_eq_ok_iff.mp hexec
  have hdistinct := hstep.ids_distinct hwf
  have hsymm : g.same h = h.same g := Graph.same_comm hwf.ids_distinct hdistinct
  refine ⟨hstep.changed_of_structural, hsymm, ?_, ?_⟩
  · intro hfree
    refine ⟨hstep.not_same_of_changed hwf hfree, ?_⟩
    intro hdiffers
    by_contra hchanged
    obtain ⟨hnodes, hconnections, -⟩ :=
      hstep.perm_of_unchanged hwf ((Bool.not_eq_true _).mp hchanged)
    rw [hsymm, hwf.same_of_perm hnodes hconnections] at hdiffers
    cases hdiffers
  · intro hstuck
    obtain ⟨hchanged, hnodes, hconnections⟩ := hstep.nodes_of_stuck hstuck
    exact ⟨hchanged, hsymm.trans (hwf.same hnodes hconnections)⟩

/-- Another value in a slot, and a move of a node that is at the end of its range. -/
theorem execute_changed_value :
    let g := Graph.ofCalls [.add .value ⟨2147483647, 0⟩]
    (∃ outcome h, (setValue ⟨1, 0⟩ (.float 0.25)).execute g = .ok (outcome, h) ∧
      outcome.changed = true ∧ g.same h = false) ∧
    ∃ outcome h, (move [1] ⟨1, 0⟩).execute g = .ok (outcome, h) ∧
      outcome.changed = true ∧ g.same h = true := by
  intro g
  have hg : g.Reachable := Graph.reachable_ofCalls _ (by decide)
  have hfree : ¬(setValue ⟨1, 0⟩ (.float 0.25)).Stuck g := fun hstuck => hstuck
  have hstuck : (move [1] ⟨1, 0⟩).Stuck g := by
    refine ⟨by decide, ⟨1, by decide, by decide⟩, ?_⟩
    decide +kernel
  have hset : (setValue ⟨1, 0⟩ (.float 0.25)).execute g = .ok (⟨true, false, none⟩, _) := rfl
  have hmove : (move [1] ⟨1, 0⟩).execute g = .ok (⟨true, false, none⟩, _) := rfl
  exact ⟨⟨_, _, hset, rfl, ((execute_changed hg hset).2.2.1 hfree).mp rfl⟩,
    ⟨_, _, hmove, (execute_changed hg hmove).2.2.2 hstuck⟩⟩

/-- A node at the end of its range is not moved, and yet a change is reported. -/
theorem execute_changed_stuck :
    let g := Graph.ofCalls [.add .value ⟨2147483647, 0⟩]
    g.Reachable ∧ ∃ outcome h, (move [1] ⟨1, 0⟩).execute g = .ok (outcome, h) ∧
      outcome.changed = true ∧ g.same h = true := by
  intro g
  refine ⟨Graph.reachable_ofCalls _ (by decide), _, _, rfl, ?_⟩
  decide +kernel

end EditCommand

end ShaderGraph
