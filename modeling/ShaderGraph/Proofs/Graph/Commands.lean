import ShaderGraph.Command
import ShaderGraph.Proofs.Graph.Reachable

/-!
# What commands do

A command that is not refused makes one of eight edits. Which edit it makes, what that took and what
the command reports of it are said here once, as a relation; what holds of all commands is proved by
cases on it, and none of those proofs runs a command again.
-/

set_option autoImplicit false

namespace ShaderGraph.EditCommand

variable {g h : Graph} {command : EditCommand} {outcome : EditOutcome}

/-- Whether a command, given a graph, reports an outcome and leads to another graph. -/
inductive Step (g : Graph) : EditCommand → EditOutcome → Graph → Prop
  | add (type : NodeType) (position : Position) :
    Step g (.add type position) (.creation g.nextId) (g.add type position).2
  | remove (nodes : List NodeId) :
    Step g (.remove nodes) (.structuralEdit (decide (0 < (g.remove nodes).1))) (g.remove nodes).2
  | duplicate {node id : NodeId} {h : Graph} (hdup : g.duplicate node = some (id, h)) :
    Step g (.duplicate node) (.creation id) h
  | connect {source dest : SlotId} {previous : Option Connection} {h : Graph}
    (hcon : g.connect source dest = .ok (previous, h)) :
    Step g (.connect source dest)
      (.structuralEdit (!(previous.map Connection.source == some source))) h
  | disconnect (dest : SlotId) :
    Step g (.disconnect dest) (.structuralEdit (g.disconnect dest).1.isSome) (g.disconnect dest).2
  | setValue {slot : SlotId} {value : SlotValue} {changed : Bool} {h : Graph}
    (hset : g.setValue slot value = .ok (changed, h)) :
    Step g (.setValue slot value) (valueOutcome value changed) h
  | move (nodes : List NodeId) (delta : Position) :
    Step g (.move nodes delta) (.cosmeticEdit (g.move nodes delta).1) (g.move nodes delta).2
  | raise {node : NodeId} (hnode : g.contains node = true) :
    Step g (.raise node) .unchanged (g.raise node).2

/-- **Commands do what the relation says**, and are refused where it says nothing. -/
theorem execute_eq_ok_iff : command.execute g = .ok (outcome, h) ↔ command.Step g outcome h := by
  constructor
  · intro hexec
    cases command with
    | add type position =>
      obtain ⟨rfl, rfl⟩ := Prod.mk.inj (Except.ok.inj hexec)
      exact .add type position
    | remove nodes =>
      obtain ⟨rfl, rfl⟩ := Prod.mk.inj (Except.ok.inj hexec)
      exact .remove nodes
    | duplicate node =>
      cases hdup : g.duplicate node with
      | none => simp [execute_duplicate, hdup] at hexec
      | some result =>
        simp only [execute_duplicate, hdup] at hexec
        obtain ⟨rfl, rfl⟩ := Prod.mk.inj (Except.ok.inj hexec)
        exact .duplicate hdup
    | connect source dest =>
      cases hcon : g.connect source dest with
      | error e => simp [execute_connect, hcon] at hexec
      | ok result =>
        simp only [execute_connect, hcon] at hexec
        obtain ⟨rfl, rfl⟩ := Prod.mk.inj (Except.ok.inj hexec)
        exact .connect hcon
    | disconnect dest =>
      obtain ⟨rfl, rfl⟩ := Prod.mk.inj (Except.ok.inj hexec)
      exact .disconnect dest
    | setValue slot value =>
      cases hset : g.setValue slot value with
      | error e => simp [execute_setValue, hset] at hexec
      | ok result =>
        simp only [execute_setValue, hset] at hexec
        obtain ⟨rfl, rfl⟩ := Prod.mk.inj (Except.ok.inj hexec)
        exact .setValue hset
    | move nodes delta =>
      obtain ⟨rfl, rfl⟩ := Prod.mk.inj (Except.ok.inj hexec)
      exact .move nodes delta
    | raise node =>
      rw [execute_raise] at hexec
      split_ifs at hexec with hnode
      obtain ⟨rfl, rfl⟩ := Prod.mk.inj (Except.ok.inj hexec)
      exact .raise hnode
  · intro hstep
    cases hstep with
    | add | remove | disconnect | move => rfl
    | duplicate hdup => simp only [execute_duplicate, hdup]
    | connect hcon => simp only [execute_connect, hcon]
    | setValue hset => simp only [execute_setValue, hset]
    | raise hnode => simp only [execute_raise, hnode, if_true]

/-- The call on the live graph that a command makes. -/
def call : EditCommand → GraphCall
  | add type position => .add type position
  | remove nodes => .remove nodes
  | duplicate node => .duplicate node
  | connect source dest => .connect source dest
  | disconnect dest => .disconnect dest
  | setValue slot value => .setValue slot value
  | move nodes delta => .move nodes delta
  | raise node => .raise node

namespace Step

/-- A command that is not refused leads where its call leads. -/
theorem eq_apply (hstep : command.Step g outcome h) : h = command.call.apply g := by
  cases hstep with
  | add | remove | disconnect | move | raise => rfl
  | duplicate hdup => simp only [call, GraphCall.apply_duplicate, hdup]
  | connect hcon => simp only [call, GraphCall.apply_connect, hcon]
  | setValue hset => simp only [call, GraphCall.apply_setValue, hset]

/-- A command that leaves the number of nodes leaves the allocator. -/
theorem nextId_eq (hstep : command.Step g outcome h) (hlength : h.nodes.length = g.nodes.length) :
    h.nextId = g.nextId := by
  cases hstep with
  | add type position => simp [Graph.add] at hlength
  | remove nodes =>
    exact g.remove_nextId nodes
  | duplicate hdup =>
    obtain ⟨node, -, -, -, rfl⟩ := Graph.duplicate_eq_some_iff.mp hdup
    simp at hlength
  | connect hcon =>
    obtain ⟨-, -, -, -, rfl⟩ := Graph.connect_eq_ok_iff.mp hcon
    rfl
  | disconnect dest =>
    unfold Graph.disconnect
    split <;> rfl
  | setValue hset =>
    obtain ⟨decl, current, -, -, -, -, -, rfl⟩ := Graph.setValue_eq_ok_iff.mp hset
    split_ifs <;> rfl
  | move nodes delta =>
    obtain ⟨place, hmove⟩ := g.move_eq nodes delta
    rw [hmove]
    rfl
  | raise hnode =>
    unfold Graph.raise
    split
    · rfl
    · split_ifs <;> rfl

end Step

end ShaderGraph.EditCommand
