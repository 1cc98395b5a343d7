import ShaderGraph.Proofs.Lowering.Explicit
import ShaderGraph.Proofs.Lowering.Nodes

/-!
# Lowering preserves meaning

The statements are run node by node, in dependency order. After each node the outputs of all nodes
passed so far are bound to the values that direct evaluation gives them, and no name of a node that
is still to come is bound. The order puts every node behind its sources, hence each input it reads
is there when its statements run, and so are color and alpha in the end.
-/

set_option autoImplicit false

namespace ShaderGraph

open Relation (ReflTransGen)

variable {V : Type} {I : Interpretation V} {env : Bindings V}

/-- Converting an expression converts its value. -/
theorem eval?_convertExpr {table : ParameterTable} {expr : Expr} {v : V}
    (hv : expr.eval? I table env = some v) (source dest : SlotType) :
    (convertExpr expr source dest).eval? I table env = some (I.converted source dest v) := by
  cases source <;> cases dest <;>
    simp [convertExpr, Interpretation.converted, Expr.eval?, Expr.evalAll?, hv]

namespace Graph

variable {g : Graph} {output : NodeId} {done waiting : List Node} {node : Node}

/-- How far a run has come: the outputs of the nodes in `done` have their values, those in
`waiting` are unbound. -/
structure Progress (g : Graph) (I : Interpretation V) (done waiting : List Node)
    (env : Bindings V) : Prop where
  bound : ∀ node ∈ done, ∀ index ∈ node.type.outputIndices,
    ∃ v, env (varName ⟨node.id, index⟩) = some v ∧
      ∀ depth, done.length ≤ depth → g.outputValue? I depth ⟨node.id, index⟩ = some v
  unbound : ∀ node ∈ waiting, Fresh node.id env

/-- At the start nothing is bound. -/
theorem Progress.start (waiting : List Node) : g.Progress I [] waiting fun _ => none :=
  ⟨by simp, fun _ _ _ _ => rfl⟩

/-- Where all sources of a live node are done, each of its inputs reads the value that direct
evaluation gives it. -/
theorem WellFormed.reads_value (hg : g.WellFormed) (hprogress : g.Progress I done waiting env)
    (hlive : node ∈ g.liveNodes output)
    (hsources : ∀ other ∈ g.nodes, g.Feeds other.id node.id → other ∈ done) {index : Nat}
    (hindex : index ∈ node.type.valueIndices) :
    ∃ v, (∀ depth, done.length ≤ depth →
        g.inputValue? I (g.outputValue? I depth) node.type ⟨node.id, index⟩ = some v) ∧
      Steady I (g.programFor output).parameters node.id env
        (g.readExpr node.id node.type index) v := by
  obtain ⟨decl, hdecl, hkind⟩ := NodeType.mem_indices.mp hindex
  obtain ⟨hinput, htype⟩ : decl.isInput = true ∧ decl.slotType ≠ .enum := by simpa using hkind
  have hn := (hg.mem_liveNodes.mp hlive).1
  unfold readExpr inputValue?
  cases hc : g.connection? ⟨node.id, index⟩ with
  | some c =>
    obtain ⟨hmem, hdest⟩ := mem_of_connection?_eq_some hc
    obtain ⟨source, _, hsource, -, hout, -⟩ := hg.allowed c hmem
    obtain ⟨other, hother, hid, hrow⟩ := slotDecl?_eq_some hsource
    have hfeeds : g.Feeds other.id node.id := ⟨c, hmem, hid.symm, by rw [hdest]⟩
    have hslot : g.slotDecl? ⟨node.id, index⟩ = some decl :=
      (slotDecl?_eq_some_iff hg.ids_distinct).mpr ⟨node, hn, rfl, hdecl⟩
    obtain ⟨v, hv, hdirect⟩ := hprogress.bound other (hsources other hother hfeeds) c.source.index
      (NodeType.mem_indices.mpr ⟨source, hrow, hout⟩)
    have haddress : (⟨other.id, c.source.index⟩ : SlotId) = c.source := by rw [hid]
    rw [haddress] at hv hdirect
    refine ⟨I.converted source.slotType decl.slotType v, fun depth hdepth => ?_, ?_⟩
    · simp [hsource, hslot, hdirect depth hdepth]
    · intro env' henv
      -- the variable that is read belongs to another node, for no node feeds itself
      have hforeign : ¬BelongsTo node.id (varName c.source) := by
        intro hown
        rw [hid, belongsTo_varName.mp hown] at hfeeds
        exact hg.acyclic node.id (.single hfeeds)
      have hvar : (Expr.var (varName c.source)).eval? I (g.programFor output).parameters env' =
          some v := (henv _ hforeign).trans hv
      simp only [hsource, hdecl]
      exact eval?_convertExpr hvar _ _
  | none =>
    cases himplicit : implicitInput? node.type index with
    | some which => exact ⟨I.input which, fun _ _ => rfl, fun _ _ => rfl⟩
    | none =>
      obtain ⟨value, hvalue, hholds⟩ := (hg.nodes_valid node hn).exists_value hdecl
      obtain ⟨p, hp⟩ := exists_parameter (hholds.type_eq ▸ htype)
      refine ⟨I.constant p, fun _ _ => ?_, fun env' _ => ?_⟩
      · have hstored : g.slotValue? ⟨node.id, index⟩ = some value := by
          rw [slotValue?, node?_id_of_mem hg.ids_distinct hn]
          exact hvalue
        simp [hstored, hp]
      · have hslot : (⟨⟨node.id, index⟩, decl, value⟩ : Node.Slot) ∈ node.inputs :=
          Node.mem_inputs.mpr ⟨index, rfl, hdecl, hvalue, hinput⟩
        have hparameter : g.slotParameter? node.type ⟨⟨node.id, index⟩, decl, value⟩ =
            some ⟨paramName ⟨node.id, index⟩, ⟨node.id, index⟩, p⟩ := by
          simp [slotParameter?, hc, himplicit, hp]
        simp [Expr.eval?, hg.get?_parameter hlive hslot hparameter]

/-- **One node further**: the statements of a live node run, and bring the run past it. -/
theorem WellFormed.progress_step (hg : g.WellFormed)
    (hprogress : g.Progress I done (node :: waiting) env) (hlive : node ∈ g.liveNodes output)
    (hsources : ∀ other ∈ g.nodes, g.Feeds other.id node.id → other ∈ done)
    (hdistinct : ∀ other ∈ done ++ waiting, other.id ≠ node.id) :
    ∃ env', Program.runAll? I (g.programFor output).parameters env (g.statementsOf node) =
        some env' ∧ g.Progress I (done ++ [node]) waiting env' := by
  have hn := (hg.mem_liveNodes.mp hlive).1
  -- the inputs by direct evaluation, to every depth that suffices
  let input (depth : { depth // done.length ≤ depth }) (index : Nat) : Option V :=
    g.inputValue? I (g.outputValue? I depth) node.type ⟨node.id, index⟩
  obtain ⟨outputs, ⟨env', hrun, hsame, hbound⟩, hall, hvalue⟩ := binds_statements input
    (hprogress.unbound node List.mem_cons_self)
    (fun index decl hdecl henum => (hg.nodes_valid node hn).label?_eq hdecl henum)
    (fun index hindex => by
      obtain ⟨v, hv, hsteady⟩ := hg.reads_value hprogress hlive hsources hindex
      exact ⟨v, fun depth => hv depth depth.2, hsteady⟩)
  refine ⟨env', hrun, ?_, ?_⟩
  · intro other hother index hindex
    rcases List.mem_append.mp hother with hother | hother
    · obtain ⟨v, hv, hdirect⟩ := hprogress.bound other hother index hindex
      refine ⟨v, ?_, fun depth hdepth => hdirect depth ?_⟩
      · have hforeign : ¬BelongsTo node.id (varName ⟨other.id, index⟩) := fun hown =>
          hdistinct other (List.mem_append_left _ hother) (belongsTo_varName.mp hown)
        rw [hsame _ hforeign, hv]
      · rw [List.length_append] at hdepth
        omega
    · obtain rfl := List.mem_singleton.mp hother
      obtain ⟨⟨_, v⟩, hmem, rfl⟩ := List.mem_map.mp (hall index hindex)
      refine ⟨v, hbound _ hmem, fun depth hdepth => ?_⟩
      rw [List.length_append, List.length_singleton] at hdepth
      obtain ⟨depth, rfl⟩ : ∃ d, depth = d + 1 := ⟨depth - 1, by omega⟩
      have hdirect := hvalue _ hmem ⟨depth, by omega⟩
      simp only [outputValue?, node?_id_of_mem hg.ids_distinct hn]
      exact hdirect
  · intro other hother name hname
    have hne : other.id ≠ node.id := hdistinct other (List.mem_append_right _ hother)
    have hforeign : ¬BelongsTo node.id name := fun hown => hne (hname.unique hown)
    rw [hsame name hforeign]
    exact hprogress.unbound other (List.mem_cons_of_mem _ hother) name hname

/-- **The whole run**: the statements of all live nodes run, and bring the run past all of them. -/
theorem WellFormed.progress_run (hg : g.WellFormed) (hprogress : g.Progress I done waiting env)
    (hsplit : g.liveNodes output = done ++ waiting) :
    ∃ env', Program.runAll? I (g.programFor output).parameters env
        (waiting.flatMap g.statementsOf) = some env' ∧
      g.Progress I (g.liveNodes output) [] env' := by
  induction waiting generalizing done env with
  | nil => exact ⟨env, rfl, by rwa [hsplit, List.append_nil]⟩
  | cons node rest ih =>
    have hlive : node ∈ g.liveNodes output := by simp [hsplit]
    have hnodup := hg.liveNodes_nodup output
    rw [hsplit, List.map_append, List.map_cons, List.nodup_append, List.nodup_cons] at hnodup
    obtain ⟨-, ⟨hrest, -⟩, hdone⟩ := hnodup
    have hsources := hg.feeders_before hsplit
    have hdistinct : ∀ other ∈ done ++ rest, other.id ≠ node.id := by
      intro other hother
      rcases List.mem_append.mp hother with hother | hother
      · exact hdone _ (List.mem_map_of_mem hother) _ List.mem_cons_self
      · exact fun heq => hrest (heq ▸ List.mem_map_of_mem hother)
    obtain ⟨env₁, hrun, hnext⟩ := hg.progress_step hprogress hlive hsources hdistinct
    obtain ⟨env', hrun', hlast⟩ := ih hnext (by simp [hsplit])
    refine ⟨env', ?_, hlast⟩
    rw [List.flatMap_cons, Program.runAll?_append, hrun]
    exact hrun'

/-- The program of an output node runs, and gives what direct evaluation gives to every depth that
reaches all nodes. -/
theorem WellFormed.run_programFor (hg : g.WellFormed) (ho : g.outputNode? = some output)
    (I : Interpretation V) :
    ∃ result, (g.programFor output).run? I = some result ∧
      ∀ depth, g.nodes.length ≤ depth → g.result? I depth output = some result := by
  obtain ⟨env, hrun, hprogress⟩ := hg.progress_run (Progress.start (I := I) (g.liveNodes output))
    (List.nil_append _).symm
  obtain ⟨node, hn, rfl, htype⟩ := mem_of_outputNode?_eq_some ho
  have hlive : node ∈ g.liveNodes node.id := hg.mem_liveNodes.mpr ⟨hn, .refl⟩
  have hsources : ∀ other ∈ g.nodes, g.Feeds other.id node.id → other ∈ g.liveNodes node.id :=
    fun other hother hfeeds => hg.mem_liveNodes.mpr ⟨hother, .single hfeeds⟩
  obtain ⟨color, hcolor, scolor⟩ := hg.reads_value hprogress hlive hsources
    (show 0 ∈ node.type.valueIndices by rw [htype]; decide)
  obtain ⟨alpha, halpha, salpha⟩ := hg.reads_value hprogress hlive hsources
    (show 1 ∈ node.type.valueIndices by rw [htype]; decide)
  rw [htype] at hcolor halpha scolor salpha
  refine ⟨(color, alpha), ?_, ?_⟩
  · have hrun : Program.runAll? I (g.programFor node.id).parameters (fun _ => none)
        (g.programFor node.id).statements = some env := hrun
    have hcolor : (g.programFor node.id).color.eval? I (g.programFor node.id).parameters env =
        some color := scolor.eval
    have halpha : (g.programFor node.id).alpha.eval? I (g.programFor node.id).parameters env =
        some alpha := salpha.eval
    simp [Program.run?, hrun, hcolor, halpha]
  · intro depth hdepth
    have hlength := hg.length_liveNodes_le node.id
    simp [result?, hcolor depth (by omega), halpha depth (by omega)]

/-- **Lowering preserves meaning.** Every reachable graph with an output node has a program, and
whatever values and operations are taken to be, running it is never stuck and gives the color and
alpha that direct evaluation of the graph gives to every depth that reaches all nodes. -/
theorem run_generateCode (hg : g.Reachable) (ho : g.outputNode? = some output)
    (I : Interpretation V) :
    ∃ program result, g.generateCode.1 = .ok program ∧ program.run? I = some result ∧
      ∀ depth, g.nodes.length ≤ depth → g.result? I depth output = some result := by
  obtain ⟨result, hrun, hdirect⟩ := hg.consistent.toWellFormed.run_programFor ho I
  exact ⟨g.programFor output, result, hg.consistent.generateCode_eq ho, hrun, hdirect⟩

/-- A product feeds alpha: with natural numbers for values, four for its two factors of two. -/
theorem run_generateCode_product :
    let g := ofCalls [.add .value ⟨0, 0⟩, .add .math ⟨0, 0⟩, .add .output ⟨0, 0⟩,
      .setValue ⟨2, 0⟩ (.enum 2), .connect ⟨1, 1⟩ ⟨2, 2⟩, .connect ⟨2, 4⟩ ⟨3, 1⟩]
    let I : Interpretation Nat :=
      { constant := fun p => if p = .bool false then 0 else 2
        input := fun _ => 3
        construct := fun _ components => components.sum
        convert := fun _ v => v
        swizzle := fun v _ => v
        binary := fun op a b => if op = .mul then a * b else a + b
        call := fun _ arguments => arguments.sum
        select := fun c a b => if c = 0 then b else a }
    g.Reachable ∧ g.outputNode? = some 3 ∧
      ∃ program, g.generateCode.1 = .ok program ∧ program.run? I = some (2, 4) := by
  intro g I
  have hg : g.Reachable := reachable_ofCalls _ (by decide)
  have ho : g.outputNode? = some 3 := by decide +kernel
  obtain ⟨program, result, hcode, hrun, hdirect⟩ := run_generateCode hg ho I
  have hresult : g.result? I 3 3 = some (2, 4) := by decide +kernel
  rw [hdirect 3 (by decide +kernel)] at hresult
  exact ⟨hg, ho, program, hcode, hrun.trans hresult⟩

end Graph

end ShaderGraph
