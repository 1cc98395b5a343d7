import ShaderGraph.Proofs.Lowering.Emission
import ShaderGraph.Proofs.Lowering.WellTyped

/-!
# Generated programs are closed

Lowering a reachable graph fails only where there is no output node. The program it gives otherwise
binds every name once and reads no name before it is bound. Each statement reads parameters of its
own node only, and every parameter stands for an input slot that nothing feeds. Most of this is read
off the types: what has a type is closed.
-/

set_option autoImplicit false

namespace ShaderGraph

open Relation (ReflTransGen)

/-- Whether a parameter holds the value of an input slot that nothing feeds, on a node from which
connections lead to the output node. -/
structure Graph.IsParameter (g : Graph) (output : NodeId) (p : Parameter) : Prop where
  name_eq : p.name = paramName p.slot
  holds : ∃ node ∈ g.nodes, node.id = p.slot.node ∧ ReflTransGen g.Feeds node.id output ∧
    ∃ decl value, node.decl? p.slot.index = some decl ∧ decl.isInput = true ∧
      node.value? p.slot.index = some value ∧ value.parameter? = some p.value
  unconnected : ∀ c ∈ g.connections, c.dest ≠ p.slot

/-- Whether a program binds every name once and reads only what is bound before, and only parameters
that stand for inputs of the node in question. -/
structure Program.Closed (g : Graph) (output : NodeId) (program : Program) : Prop where
  names_nodup : (program.statements.map Statement.name).Nodup
  vars_earlier : ∀ before s after, program.statements = before ++ s :: after →
    ∀ name, .var name ∈ s.expr.parts → name ∈ before.map Statement.name
  result_vars : ∀ expr ∈ [program.color, program.alpha],
    ∀ name, .var name ∈ expr.parts → name ∈ program.statements.map Statement.name
  params : ∀ s ∈ program.statements, ∀ name, .param name ∈ s.expr.parts →
    ∃ p, program.parameters.get? name = some p ∧ p.slot.node = s.node ∧ g.IsParameter output p
  result_params : ∀ expr ∈ [program.color, program.alpha],
    ∀ name, .param name ∈ expr.parts →
      ∃ p, program.parameters.get? name = some p ∧ p.slot.node = output ∧ g.IsParameter output p

namespace Graph

variable {g : Graph} {output : NodeId}

/-- What is in the table of a node stands for one of its inputs. -/
theorem WellFormed.isParameter (hg : g.WellFormed) {id : NodeId} {name : String} {p : Parameter}
    (hp : (g.tableOf output id).get? name = some p) :
    (g.programFor output).parameters.get? name = some p ∧ p.slot.node = id ∧
      g.IsParameter output p := by
  have hprogram := hg.get?_of_tableOf hp
  obtain ⟨-, node, hlive, hid, slot, hslot, hparameter⟩ := hg.get?_tableOf.mp hp
  obtain ⟨hname, hpslot, hfree, -, hvalue⟩ := slotParameter?_eq_some hparameter
  obtain ⟨index, hindex, hdecl, hstored, hinput⟩ := Node.mem_inputs.mp hslot
  obtain ⟨hn, hlead⟩ := hg.mem_liveNodes.mp hlive
  have haddress : p.slot = ⟨node.id, index⟩ := hpslot.trans hindex
  refine ⟨hprogram, by rw [haddress, ← hid], ?_, ?_, ?_⟩
  · rw [hname, hpslot]
  · rw [haddress]
    exact ⟨node, hn, rfl, hlead, slot.decl, slot.value, hdecl, hinput, hstored, hvalue⟩
  · rw [hpslot]
    exact connection?_eq_none_iff.mp hfree

/-- **The program of a well-formed graph is closed.** -/
theorem WellFormed.programFor_closed (hg : g.WellFormed) (ho : g.outputNode? = some output) :
    (g.programFor output).Closed g output := by
  obtain ⟨hcolor, halpha⟩ := hg.result_hasType ho
  have hresult : ∀ expr ∈ [(g.programFor output).color, (g.programFor output).alpha],
      ∃ type, HasType (g.tableOf output output) (g.programFor output).statements expr type :=
    List.forall_mem_cons.mpr ⟨⟨_, hcolor⟩, List.forall_mem_singleton.mpr ⟨_, halpha⟩⟩
  constructor
  · exact hg.names_nodup ho
  · intro before s after hsplit name hname
    exact (hg.statement_hasType hsplit).var_mem hname
  · intro expr hexpr name hname
    obtain ⟨type, htype⟩ := hresult expr hexpr
    exact htype.var_mem hname
  · intro s hs name hname
    obtain ⟨before, after, hsplit⟩ := List.append_of_mem hs
    obtain ⟨p, hp⟩ := (hg.statement_hasType hsplit).param_mem hname
    exact ⟨p, hg.isParameter hp⟩
  · intro expr hexpr name hname
    obtain ⟨type, htype⟩ := hresult expr hexpr
    obtain ⟨p, hp⟩ := htype.param_mem hname
    exact ⟨p, hg.isParameter hp⟩

/-- **Lowering a reachable graph fails only where there is no output node**, for the program and for
its parameters alike; the parameters generated alone are those of the program; and the program is
closed and can be written by every backend. -/
theorem generateCode_closed (hg : g.Reachable) :
    (∀ e, g.generateCode.1 = .error e ↔
      e = .missingOutput ∧ ∀ node ∈ g.nodes, node.type ≠ .output) ∧
    g.generateParameters.1 = g.generateCode.1.map Program.parameters ∧
    ∀ program, g.generateCode.1 = .ok program →
      ∃ output, g.outputNode? = some output ∧ program.Closed g output ∧
        ∀ backend : Backend, ∃ source, backend.emit program = .ok source := by
  have hconsistent := hg.consistent
  cases ho : g.outputNode? with
  | none =>
    obtain ⟨hcode, hparameters⟩ := hconsistent.generate_eq_missing ho
    have hmissing := outputNode?_eq_none_iff.mp ho
    rw [hcode, hparameters]
    refine ⟨?_, rfl, ?_⟩
    · intro e
      constructor
      · intro h
        exact ⟨(Except.error.inj h).symm, hmissing⟩
      · rintro ⟨rfl, -⟩
        rfl
    · intro program h
      exact absurd h (by simp)
  | some output =>
    have hcode := hconsistent.generateCode_eq ho
    have hparameters := hconsistent.generateParameters_eq ho
    rw [hcode, hparameters]
    refine ⟨?_, rfl, ?_⟩
    · intro e
      constructor
      · intro h
        exact absurd h (by simp)
      · rintro ⟨-, hmissing⟩
        exact absurd (outputNode?_eq_none_iff.mpr hmissing) (by simp [ho])
    · intro program h
      obtain rfl := Except.ok.inj h
      have hwell := hconsistent.toWellFormed
      exact ⟨output, rfl, hwell.programFor_closed ho, hwell.exists_source ho⟩

/-- A ramp, whose table is sampled, feeds the color; alpha is a parameter. -/
theorem generateCode_closed_ramp :
    let g := ofCalls [.add .colorRamp ⟨0, 0⟩, .add .output ⟨0, 0⟩, .connect ⟨1, 2⟩ ⟨2, 0⟩]
    g.Reachable ∧ ∃ program, g.generateCode.1 = .ok program ∧ program.Closed g 2 ∧
      ∀ backend : Backend, ∃ source, backend.emit program = .ok source := by
  intro g
  have hg : g.Reachable := reachable_ofCalls _ (by decide)
  obtain ⟨hfails, -, hcloses⟩ := generateCode_closed hg
  cases hcode : g.generateCode.1 with
  | error e =>
    have hnone := ((hfails e).mp hcode).2
    exact absurd hnone (by decide +kernel)
  | ok program =>
    obtain ⟨output, houtput, hclosed, hwritten⟩ := hcloses program hcode
    have hid : g.outputNode? = some 2 := by decide +kernel
    obtain rfl : output = 2 := Option.some.inj (houtput.symm.trans hid)
    exact ⟨hg, program, rfl, hclosed, hwritten⟩

end Graph

end ShaderGraph
