import Mathlib.Tactic.Common
import ShaderGraph.Command

/-!
# Refused edits leave the graph alone

An edit works on the graph in place, so a refusal could leave it half edited. None does: each edit
makes all its checks before its first change, and a command refuses only where its edit does.
Therefore an edit is determined by what it grants, and the graph after a refusal is the graph from
before.
-/

set_option autoImplicit false

namespace ShaderGraph

/-! ## Refusals and the state they leave -/

section

variable {ε α σ : Type} {call : Except ε α × σ} {before after : σ} {answer : α} {error : ε}

/-- A call that answers grants the answer and the state it leaves. -/
@[simp]
theorem granted_ok : granted ((.ok answer, after) : Except ε α × σ) = .ok (answer, after) := rfl

/-- A call that refuses grants no state. -/
@[simp]
theorem granted_error : granted ((.error error, after) : Except ε α × σ) = .error error := rfl

/-- Whether a call leaves the state from before where it refuses. -/
def RefusesCleanly (before : σ) (call : Except ε α × σ) : Prop :=
  ∀ error, call.1 = .error error → call.2 = before

/-- What a call is if it grants this and leaves the state from before where it refuses. -/
def kept (before : σ) : Except ε (α × σ) → Except ε α × σ
  | .ok (answer, after) => (.ok answer, after)
  | .error error => (.error error, before)

/-- A call that refuses cleanly is determined by what it grants. -/
theorem RefusesCleanly.eq_kept (h : RefusesCleanly before call) :
    call = kept before (granted call) := by
  obtain ⟨_ | answer, after⟩ := call
  · exact Prod.ext rfl (h _ rfl)
  · rfl

/-- An answer stands for itself and the state the call leaves. -/
theorem refusesCleanly_ok : RefusesCleanly before ((.ok answer, after) : Except ε α × σ) := by
  intro error h
  cases h

/-- A refusal before the first change is clean. -/
theorem refusesCleanly_error : RefusesCleanly before ((.error error, before) : Except ε α × σ) :=
  fun _ _ => rfl

end

/-! ## Edits -/

namespace Graph

variable (g : Graph) (source dest slot : SlotId) (value : SlotValue)

/-- A node that is not inserted leaves the graph as it was, the allocator included. -/
theorem insertNodeInPlace_refusesCleanly (node : Node) :
    RefusesCleanly g (g.insertNodeInPlace node) := by
  unfold insertNodeInPlace
  split_ifs
  · exact refusesCleanly_error
  · exact refusesCleanly_error
  · exact refusesCleanly_ok

/-- A connection that is not made leaves the graph as it was. -/
theorem connectInPlace_refusesCleanly : RefusesCleanly g (g.connectInPlace source dest) := by
  unfold connectInPlace
  cases g.checkEnds source dest with
  | error e => exact refusesCleanly_error
  | ok =>
    by_cases hcycle : source.node = dest.node ∨ source.node ∈ g.reachableFrom dest.node
    · rw [if_pos hcycle]
      exact refusesCleanly_error
    · rw [if_neg hcycle]
      exact refusesCleanly_ok

/-- A value that is not written leaves the graph as it was. -/
theorem setValueInPlace_refusesCleanly : RefusesCleanly g (g.setValueInPlace slot value) := by
  unfold setValueInPlace
  -- the checks come one after the other; only the last branch changes the graph
  repeat' split
  all_goals first | exact refusesCleanly_error | exact refusesCleanly_ok

/-- A node that is not copied leaves the graph as it was, the allocator included. -/
theorem duplicateInPlace_snd_of_none {id : NodeId} (h : (g.duplicateInPlace id).1 = none) :
    (g.duplicateInPlace id).2 = g := by
  unfold duplicateInPlace at h ⊢
  split
  · rfl
  · split
    · rfl
    · simp_all

/-- Inserting a node, from what it grants. -/
theorem insertNodeInPlace_eq (node : Node) : g.insertNodeInPlace node =
    kept g ((g.insertNode node).map fun h => ((), h)) := by
  conv_lhs => rw [(g.insertNodeInPlace_refusesCleanly node).eq_kept]
  unfold insertNode
  cases granted (g.insertNodeInPlace node) <;> rfl

/-- Connecting two slots, from what it grants. -/
theorem connectInPlace_eq : g.connectInPlace source dest = kept g (g.connect source dest) :=
  (g.connectInPlace_refusesCleanly source dest).eq_kept

/-- Writing a value, from what it grants. -/
theorem setValueInPlace_eq : g.setValueInPlace slot value = kept g (g.setValue slot value) :=
  (g.setValueInPlace_refusesCleanly slot value).eq_kept

/-- Copying a node, from what it grants. -/
theorem duplicateInPlace_eq (id : NodeId) : g.duplicateInPlace id =
    match g.duplicate id with
    | some (copied, h) => (some copied, h)
    | none => (none, g) := by
  unfold duplicate
  have hnone : (g.duplicateInPlace id).1 = none → (g.duplicateInPlace id).2 = g :=
    g.duplicateInPlace_snd_of_none
  generalize g.duplicateInPlace id = result at hnone
  obtain ⟨_ | copied, h⟩ := result
  · exact Prod.ext rfl (hnone rfl)
  · rfl

end Graph

/-! ## Commands -/

namespace EditCommand

/-- **A command that is refused leaves the graph as it was.** -/
theorem executeInPlace_refusesCleanly (g : Graph) (command : EditCommand) :
    RefusesCleanly g (command.executeInPlace g) := by
  cases command with
  | add | remove | disconnect | move => exact refusesCleanly_ok
  | duplicate node =>
    rw [executeInPlace, g.duplicateInPlace_eq]
    cases g.duplicate node with
    | none => exact refusesCleanly_error
    | some result => exact refusesCleanly_ok
  | connect source dest =>
    rw [executeInPlace, g.connectInPlace_eq]
    cases g.connect source dest with
    | error e => exact refusesCleanly_error
    | ok result => exact refusesCleanly_ok
  | setValue slot value =>
    rw [executeInPlace, g.setValueInPlace_eq]
    cases g.setValue slot value with
    | error e => exact refusesCleanly_error
    | ok result => exact refusesCleanly_ok
  | raise node =>
    rw [executeInPlace]
    split_ifs
    · exact refusesCleanly_ok
    · exact refusesCleanly_error

/-- Making a command, from what it grants. -/
theorem executeInPlace_eq (g : Graph) (command : EditCommand) :
    command.executeInPlace g = kept g (command.execute g) :=
  (command.executeInPlace_refusesCleanly g).eq_kept

/-- What duplicating a node grants. -/
theorem execute_duplicate (g : Graph) (node : NodeId) : (duplicate node).execute g =
    match g.duplicate node with
    | some (id, h) => .ok (.creation id, h)
    | none => .error (.nodeNotFound node) := by
  rw [execute, executeInPlace, g.duplicateInPlace_eq]
  cases g.duplicate node <;> rfl

/-- What connecting two slots grants. -/
theorem execute_connect (g : Graph) (source dest : SlotId) : (connect source dest).execute g =
    match g.connect source dest with
    | .ok (previous, h) =>
      .ok (.structuralEdit (!(previous.map Connection.source == some source)), h)
    | .error e => .error (.connection e) := by
  rw [execute, executeInPlace, g.connectInPlace_eq]
  cases g.connect source dest <;> rfl

/-- What writing a value grants. -/
theorem execute_setValue (g : Graph) (slot : SlotId) (value : SlotValue) :
    (setValue slot value).execute g =
      match g.setValue slot value with
      | .ok (changed, h) => .ok (valueOutcome value changed, h)
      | .error e => .error (.value e) := by
  rw [execute, executeInPlace, g.setValueInPlace_eq]
  cases g.setValue slot value <;> rfl

/-- What raising a node grants. -/
theorem execute_raise (g : Graph) (node : NodeId) : (raise node).execute g =
    if g.contains node then .ok (.unchanged, (g.raise node).2)
    else .error (.nodeNotFound node) := by
  rw [execute, executeInPlace]
  split_ifs <;> rfl

end EditCommand

end ShaderGraph
