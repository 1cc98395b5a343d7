import Mathlib.Data.List.Perm.Subperm
import ShaderGraph.Proofs.Lowering.Agreement
import ShaderGraph.Proofs.Session.Timeline

/-!
# What waits to be recorded

Between two recordings the live graph may differ from the present one, but not in its structure:
edits that reach the structure are recorded at once. If such an edit goes back to the structure of
the present graph, then the two are the same and nothing needs to be recorded.
-/

set_option autoImplicit false

namespace ShaderGraph

/-- Equal values select the same option. -/
theorem SlotValue.asEnum?_eq_of_same {v w : SlotValue} (hsame : v.same w = true) :
    v.asEnum? = w.asEnum? := by
  cases v with
  | enum i =>
    cases w with
    | enum j => exact congrArg some (of_decide_eq_true hsame)
    | _ => exact absurd hsame Bool.false_ne_true
  | _ =>
    cases w with
    | enum j => exact absurd hsame Bool.false_ne_true
    | _ => rfl

/-- Equal nodes have the same type and options. -/
theorem Node.skeleton_eq_of_same {a b : Node} (hsame : a.same b = true) :
    a.id = b.id ∧ a.skeleton = b.skeleton := by
  simp only [same, Bool.and_eq_true, decide_eq_true_eq, List.all_eq_true] at hsame
  obtain ⟨⟨⟨⟨hid, -⟩, htype⟩, hlength⟩, hvalues⟩ := hsame
  refine ⟨hid, Prod.ext htype (funext fun index => ?_)⟩
  have hoption : (a.values[index]?).bind SlotValue.asEnum? =
      (b.values[index]?).bind SlotValue.asEnum? := by
    by_cases hi : index < a.values.length
    · have hj : index < b.values.length := by omega
      have hmem : (a.values[index], b.values[index]) ∈ a.values.zip b.values :=
        List.mem_iff_getElem.mpr ⟨index, by rw [List.length_zip]; omega, List.getElem_zip⟩
      rw [List.getElem?_eq_getElem hi, List.getElem?_eq_getElem hj]
      exact SlotValue.asEnum?_eq_of_same (hvalues _ hmem)
    · rw [List.getElem?_eq_none (by omega), List.getElem?_eq_none (by omega)]
  exact congrArg (fun selected => selected.getD 0) hoption

namespace Graph

variable {g h : Graph}

/-- Whether a graph differs from another at most in values that are no options, in the places of
its nodes and in their display order. -/
structure SameStructure (g h : Graph) : Prop extends AgreeOn Node.skeleton g h where
  nextId_eq : h.nextId = g.nextId

/-- A graph has the structure that it has. -/
theorem SameStructure.refl (g : Graph) : g.SameStructure g := ⟨.refl _ _, rfl⟩

/-- Graphs that are the same agree on connections, types and options. -/
theorem agrees_of_same (hd : g.nodeIds.Nodup) (hsame : g.same h = true) :
    AgreeOn Node.skeleton h g := by
  simp only [same, Bool.and_eq_true, decide_eq_true_eq, List.all_eq_true] at hsame
  obtain ⟨⟨hlength, hnodes⟩, hconnections⟩ := hsame
  refine ⟨hconnections, ?_⟩
  have hnodup : (g.nodes.map fun n => (n.id, n.skeleton)).Nodup := by
    refine List.Nodup.of_map Prod.fst ?_
    rwa [List.map_map]
  have hsubset : (g.nodes.map fun n => (n.id, n.skeleton)) ⊆
      h.nodes.map fun n => (n.id, n.skeleton) := by
    intro entry hentry
    obtain ⟨n, hn, rfl⟩ := List.mem_map.mp hentry
    obtain ⟨m, hm, hnm⟩ := (Option.any_eq_true _ _).mp (hnodes n hn)
    obtain ⟨hid, hskeleton⟩ := Node.skeleton_eq_of_same hnm
    rw [hid, hskeleton]
    exact List.mem_map_of_mem (mem_of_node?_eq_some hm).1
  refine (List.subperm_of_subset hnodup hsubset).perm_of_length_le ?_
  rw [List.length_map, List.length_map]
  omega

end Graph

namespace Timeline

variable {capacity : Nat} {t : Timeline}

/-- Recording settles what the live graph differs in. -/
theorem commit_sameStructure (capacity : Nat)
    (hpending : t.live.same t.present = true → t.present.SameStructure t.live) :
    (t.commit capacity).present.SameStructure (t.commit capacity).live := by
  by_cases hsame : t.live.same t.present = true
  · rw [commit_of_same hsame]
    exact hpending hsame
  · rw [commit_of_new (Bool.eq_false_of_not_eq_true hsame)]
    exact .refl _

/-- Undo ends with nothing but values to record. -/
theorem undo_sameStructure (h : t.present.SameStructure t.live) :
    (t.undo capacity).present.SameStructure (t.undo capacity).live := by
  have hcommit := commit_sameStructure capacity fun _ => h
  unfold undo
  simp only
  split
  · exact .refl _
  · exact hcommit

/-- Redo ends with nothing but values to record. -/
theorem redo_sameStructure (h : t.present.SameStructure t.live) :
    (t.redo capacity).present.SameStructure (t.redo capacity).live := by
  have hcommit := commit_sameStructure capacity fun _ => h
  unfold redo
  simp only
  split
  · exact .refl _
  · exact hcommit

/-- Loading starts over with nothing to record, or is refused and changes nothing. -/
theorem load_sameStructure (h : t.present.SameStructure t.live) (bytes : ByteArray) :
    (t.load bytes).present.SameStructure (t.load bytes).live := by
  unfold load
  split
  · exact h
  · exact .refl _

/-- The live graph after a command is what the command makes of it, recorded or not. -/
theorem execute_live {command : EditCommand} {outcome : EditOutcome} {g : Graph}
    (hexec : command.execute t.live = .ok (outcome, g)) :
    (t.execute capacity command).live = g := by
  unfold execute
  rw [hexec]
  simp only
  split_ifs
  · unfold commit
    split_ifs <;> rfl
  · rfl

/-- A command that reaches the structure is recorded, unless it goes back to the present graph. -/
theorem execute_sameStructure (hg : t.live.WellFormed) (h : t.present.SameStructure t.live)
    (command : EditCommand) (hnext : (t.execute capacity command).live.nodeIds.Nodup) :
    (t.execute capacity command).present.SameStructure (t.execute capacity command).live := by
  cases hexec : command.execute t.live with
  | error e =>
    have hrefused : t.execute capacity command = t := by
      unfold execute
      rw [hexec]
    rw [hrefused]
    exact h
  | ok result =>
    obtain ⟨outcome, g⟩ := result
    have hstep := EditCommand.execute_eq_ok_iff.mp hexec
    rw [execute_live hexec] at hnext
    -- a graph with the structure of the present one has its allocator, for it has as many nodes
    have hpending : Graph.AgreeOn Node.skeleton t.present g → t.present.SameStructure g := by
      intro hagree
      have hlength : g.nodes.length = t.live.nodes.length :=
        hagree.length_eq.trans h.toAgreeOn.length_eq.symm
      exact ⟨hagree, (hstep.nextId_eq hlength).trans h.nextId_eq⟩
    unfold execute
    rw [hexec]
    simp only
    split_ifs with hrecorded
    · exact commit_sameStructure capacity fun hsame => hpending (Graph.agrees_of_same hnext hsame)
    · have hagree : Graph.AgreeOn Node.skeleton t.live g := by
        rw [Bool.and_eq_true, not_and, Bool.not_eq_true] at hrecorded
        by_cases hchanged : outcome.changed = true
        · exact hstep.agrees_of_not_structural hg (hrecorded hchanged)
        · rw [Bool.not_eq_true] at hchanged
          exact (hstep.agrees_of_unchanged hg hchanged).skeleton
      exact hpending (h.toAgreeOn.trans hagree)

/-- **Every call leaves the live graph with the structure of the present one**, if the live graph
is well formed before and has distinct ids afterwards. -/
theorem apply_sameStructure (hg : t.live.WellFormed) (h : t.present.SameStructure t.live)
    (c : SessionCall) (hnext : (t.apply capacity c).live.nodeIds.Nodup) :
    (t.apply capacity c).present.SameStructure (t.apply capacity c).live := by
  cases c with
  | execute command => exact execute_sameStructure hg h command hnext
  | compile mode =>
    cases mode with
    | preview => exact h
    | commit => exact commit_sameStructure capacity fun _ => h
  | undo => exact undo_sameStructure h
  | redo => exact redo_sameStructure h
  | load bytes => exact load_sameStructure h bytes
  | openFile path content =>
    cases content with
    | error e => exact h
    | ok bytes => exact load_sameStructure h bytes
  | saveTo path written => exact h
  | setBackend backend => exact h
  | newDocument => exact .refl _

end Timeline

end ShaderGraph
