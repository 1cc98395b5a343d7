import ShaderGraph.Proofs.Session.Refinement

/-!
# Undoing a structural edit

An edit that reaches the structure is recorded at once, and undo goes back to the graph recorded
before it. That is not always the graph before the edit. Values that were edited and nodes that were
moved, and not recorded yet, get no entry of their own when the edit is recorded, so they are taken
back together with it. Undo gives back the graph before the edit exactly if nothing was waiting to
be recorded; the structure of that graph it gives back in every case.
-/

set_option autoImplicit false

namespace ShaderGraph

namespace Timeline

variable {capacity : Nat} {t : Timeline} {g : Graph} {command : EditCommand} {outcome : EditOutcome}

/-- Where an edit was recorded, undo goes back to the graph recorded before it. -/
theorem undo_execute (hcapacity : 0 < capacity) (hexec : command.execute t.live = .ok (outcome, g))
    (hrecorded : (outcome.changed && outcome.structural) = true)
    (hnew : g.same t.present = false) (hself : g.same g = true) :
    0 < ((t.execute capacity command).commit capacity).retained ∧
      ((t.execute capacity command).undo capacity).live = t.present := by
  have hexecuted : t.execute capacity command =
      ⟨t.present :: t.past, g, [], g, min capacity (t.retained + 1)⟩ := by
    unfold execute
    rw [hexec]
    simp only [hrecorded, if_true]
    exact commit_of_new hnew
  have hsettled : (t.execute capacity command).commit capacity = t.execute capacity command :=
    commit_of_same (by rw [hexecuted]; exact hself)
  obtain ⟨retained, hretained⟩ : ∃ retained, min capacity (t.retained + 1) = retained + 1 :=
    Nat.exists_eq_add_one.mpr (by omega)
  have hpast : ((t.execute capacity command).commit capacity).past = t.present :: t.past := by
    rw [hsettled, hexecuted]
  have hentries : ((t.execute capacity command).commit capacity).retained = retained + 1 := by
    rw [hsettled, hexecuted]
    exact hretained
  rw [undo_of_some hpast hentries, hentries]
  exact ⟨Nat.succ_pos _, rfl⟩

/-- A graph that a structural edit leads to is not the one recorded last. -/
theorem not_same_of_structural (hlive : t.live.WellFormed)
    (hpending : t.present.SameStructure t.live) (hstep : command.Step t.live outcome g)
    (hstructural : outcome.structural = true) : g.same t.present = false := by
  by_contra hsame
  have hagree : Graph.AgreeOn Node.skeleton t.present g :=
    Graph.agrees_of_same (hstep.ids_distinct hlive) ((Bool.not_eq_false _).mp hsame)
  exact (hstep.structural_iff hlive).mp hstructural (hpending.toAgreeOn.symm.trans hagree)

end Timeline

namespace Session

variable {n : Nat} {s : Session} {command : EditCommand} {outcome : EditOutcome}

/-- A reachable session stands where some timeline stands, and its live graph has the structure of
the graph recorded last. -/
theorem ReachableIn.exists_timeline (hs : ReachableIn n s) (hn : n < 2 ^ 63) :
    ∃ capacity t, 0 < capacity ∧ s.Refines capacity t ∧ t.present.SameStructure t.live := by
  induction hs with
  | new config =>
    exact ⟨max config.historyCapacity 1, .start newGraph, by omega, .newDocument rfl, .refl _⟩
  | @call n s c hprev ih =>
    obtain ⟨capacity, t, hcapacity, h, hpending⟩ := ih (by omega)
    exact ⟨capacity, t.apply capacity c, hcapacity, h.apply c,
      h.apply_sameStructure (hprev.sound (by omega)) c hn hpending⟩

/-- What a session reports of a command is what the command does to the live graph. -/
theorem exists_of_execute (hexec : (s.execute command).1 = .ok outcome) :
    ∃ g, command.execute s.graph = .ok (outcome, g) := by
  rw [execute_eq] at hexec
  cases hcommand : command.execute s.graph with
  | error e => simp [hcommand] at hexec
  | ok result =>
    obtain ⟨reported, g⟩ := result
    refine ⟨g, ?_⟩
    simp only [hcommand] at hexec
    split_ifs at hexec <;> rw [Except.ok.inj hexec]

/-- **Undo takes back a structural edit, and with it what was waiting to be recorded.** Right after
an edit that reports to be structural, undo moves, and to the graph that was recorded last before
the edit. That graph has the nodes, types, connections and options of the graph before the edit, and
the two are the same exactly if nothing was waiting. -/
theorem undo_structural (hs : s.Reachable) (hexec : (s.execute command).1 = .ok outcome)
    (hstructural : outcome.structural = true) :
    let undone := (s.execute command).2.undo
    undone.1 = true ∧ undone.2.graph.withoutOrder = s.history.present.withoutOrder ∧
      undone.2.graph.SameStructure s.graph ∧
      (undone.2.graph.same s.graph = true ↔ s.graph.same s.history.present = true) := by
  intro undone
  obtain ⟨n, hn, hreach⟩ := hs
  have hsound := hreach.sound hn
  obtain ⟨capacity, t, hcapacity, h, hpending⟩ := hreach.exists_timeline hn
  obtain ⟨g, hcommand⟩ := exists_of_execute hexec
  have hlive : t.live.WellFormed := h.live_wellFormed hsound hn
  have hedit : command.execute t.live = .ok (outcome, g.withoutOrder) := by
    rw [← h.live, command.execute_withoutOrder, hcommand]
    rfl
  have hstep := EditCommand.execute_eq_ok_iff.mp hedit
  have hrecorded : (outcome.changed && outcome.structural) = true := by
    rw [hstep.changed_of_structural hstructural, hstructural]
    rfl
  have hself : g.withoutOrder.same g.withoutOrder = true :=
    Graph.same_of_perm (hstep.ids_distinct hlive) (hstep.nodes_valid hlive) (.refl _) rfl
  obtain ⟨hretained, hback⟩ := Timeline.undo_execute hcapacity hedit hrecorded
    (Timeline.not_same_of_structural hlive hpending hstep hstructural) hself
  obtain ⟨hundone, hmoved⟩ := (h.execute command).undo
  have hgraph : undone.2.graph.withoutOrder = s.history.present.withoutOrder :=
    hundone.live.trans (hback.trans h.present.symm)
  rw [← h.present, ← h.live, ← hgraph] at hpending
  refine ⟨hmoved.mpr hretained, hgraph, ⟨⟨hpending.connections, hpending.nodes⟩,
    hpending.nextId_eq⟩, ?_⟩
  -- to be the same is a matter of nodes and connections, and goes both ways
  have hpresent := (hsound.history.present.reachable hn).invariant
  have hsame : undone.2.graph.same s.graph = s.history.present.same s.graph := by
    change undone.2.graph.withoutOrder.same s.graph = _
    rw [hgraph]
    rfl
  rw [hsame, Graph.same_comm hpresent.ids_distinct
    (hsound.graph.reachable hn).invariant.ids_distinct]

/-- A value is edited and recorded, then an operation chosen: undo takes back the choice only. -/
theorem undo_structural_recorded :
    let s := ofCalls .default [.execute (.add .math ⟨0, 0⟩),
      .execute (.setValue ⟨2, 2⟩ (.float 0.25)), .compile .commit]
    let command : EditCommand := .setValue ⟨2, 0⟩ (.enum 3)
    s.Reachable ∧ (s.execute command).1 = .ok ⟨true, true, none⟩ ∧
      (s.execute command).2.undo.1 = true ∧
      (s.execute command).2.undo.2.graph.same s.graph = true := by
  intro s command
  have hs : s.Reachable := reachable_ofCalls _ _ (by decide)
  have hexec : (s.execute command).1 = .ok ⟨true, true, none⟩ := by decide +kernel
  have hrecorded : s.graph.same s.history.present = true := by decide +kernel
  obtain ⟨hmoved, -, -, hsame⟩ := undo_structural hs hexec rfl
  exact ⟨hs, hexec, hmoved, hsame.mpr hrecorded⟩

/-- A value is edited and not recorded, and then a node added: undo takes back the value as well. -/
theorem undo_structural_pending :
    let s := ofCalls .default [.execute (.setValue ⟨1, 1⟩ (.float 0.25))]
    let command : EditCommand := .add .value ⟨0, 0⟩
    s.Reachable ∧ (s.execute command).1 = .ok ⟨true, true, some 2⟩ ∧
      (s.execute command).2.undo.1 = true ∧
      (s.execute command).2.undo.2.graph.same s.graph = false := by
  intro s command
  exact ⟨reachable_ofCalls _ _ (by decide), by decide +kernel, by decide +kernel,
    by decide +kernel⟩

end Session

end ShaderGraph
