import ShaderGraph.Proofs.Dialect.Helpers
import ShaderGraph.Proofs.Lowering.Emission

/-!
# The source text of a graph

Every reachable graph with an output node has a program, and every backend writes a source text for
it. The helpers of the program are the least set that it needs, and what the text defines and
declares can be read off its lines: these helpers, and the parameters of the table.
-/

set_option autoImplicit false

namespace ShaderGraph

/-- The names that statements bind are those of outputs and a few intermediate values. -/
theorem Template.names {P : String → Prop} {node : NodeId} (hvar : ∀ slot, P (varName slot))
    (htemp : ∀ tag ∈ ["raw", "ramp", "sample"], P (tempName node tag)) (type : NodeType)
    (option : Nat → Nat) (inputs : List Expr) :
    ∀ s ∈ Template.statements node type option inputs, P s.name := by
  unfold Template.statements
  split <;> simp [output, temp, clamped, sampled, hvar, htemp]

/-- The name of an output has only characters that can stand in an expression. -/
theorem plain_varName (slot : SlotId) : Plain (varName slot) :=
  .append (.append (.append (by decide) (.append (by decide) (plain_nat _))) (by decide))
    (plain_nat _)

/-- So has that of an intermediate value, if its tag has. -/
theorem plain_tempName {tag : String} (htag : Plain tag) (node : NodeId) :
    Plain (tempName node tag) :=
  .append (.append (.append (by decide) (.append (by decide) (plain_nat _))) (by decide)) htag

/-- The components that can be selected are spelled with letters. -/
theorem ShaderType.plain_selections (type : ShaderType) :
    ∀ selection ∈ type.selections, Plain selection.1 := by
  cases type <;> decide

namespace Graph

variable {g : Graph} {output : NodeId}

/-- A program needs the closure of the functions that its parts call. -/
theorem features_programFor (g : Graph) (output : NodeId) : (g.programFor output).features =
    Builtin.closure ((g.programFor output).parts.filterMap Expr.called?) := by
  unfold programFor Program.parts Program.expressions
  rfl

/-- A program needs nothing but helpers. -/
theorem feature_helpers (g : Graph) (output : NodeId) :
    ∀ f ∈ (g.programFor output).features, f ∈ Builtin.helpers := by
  rw [features_programFor]
  exact Builtin.closure_helpers

namespace WellFormed

/-- Parameters are named by their slots. -/
theorem parameter_names (hg : g.WellFormed) :
    (∀ p ∈ (g.programFor output).parameters.entries, p.name = paramName p.slot) ∧
      ((g.programFor output).parameters.entries.map Parameter.name).Nodup := by
  refine ⟨fun p hp => ?_, parameterList_names_nodup (hg.liveNodes_nodup output) hg.liveNodes_valid⟩
  obtain ⟨_, _, _, _, hparameter⟩ := mem_parameterList.mp hp
  obtain ⟨hname, hslot, -⟩ := slotParameter?_eq_some hparameter
  rw [hname, hslot]

/-- No statement has the name of a parameter, and all names are plain. -/
theorem statement_names (g : Graph) (output : NodeId) : ∀ s ∈ (g.programFor output).statements,
    Plain s.name ∧ s.name.toList.head? ≠ some 'p' := by
  intro s hs
  obtain ⟨node, -, hs⟩ := List.mem_flatMap.mp hs
  refine Template.names (P := fun name => Plain name ∧ name.toList.head? ≠ some 'p')
    ?_ ?_ _ _ _ s hs
  · intro slot
    exact ⟨plain_varName slot, by simp [toList_varName]⟩
  · intro tag htag
    have hplain : Plain tag := by
      revert tag
      decide
    exact ⟨plain_tempName hplain _, by simp [toList_tempName]⟩

/-- The names and components inside expressions are plain. -/
theorem parts_spelled (hg : g.WellFormed) (ho : g.outputNode? = some output) :
    ∀ part ∈ (g.programFor output).parts, part.Spelled := by
  intro part hpart
  obtain ⟨earlier, hearlier, hfits⟩ := hg.parts_fit ho part hpart
  cases part with
  | param name =>
    obtain ⟨p, hp⟩ := hg.known ho name hpart
    obtain rfl : p.name = name := by simpa using List.find?_some hp
    rw [Expr.Spelled, hg.parameter_names.1 p (List.mem_of_find?_eq_some hp)]
    exact plain_paramName _
  | var name =>
    obtain ⟨_, htype⟩ | ⟨_, _, hparam, -⟩ := hfits
    · cases htype with
      | var hs hname => exact hname ▸ (statement_names g output _ (hearlier hs)).1
    · cases hparam
  | swizzle expr components =>
    obtain ⟨_, htype⟩ | ⟨_, _, hparam, -⟩ := hfits
    · cases htype with
      | swizzle hselection _ => exact ShaderType.plain_selections _ _ hselection
    · cases hparam
  | _ => trivial

/-- Where a helper takes a texture, there is one in the table. -/
theorem textures_ne_nil (hg : g.WellFormed) (ho : g.outputNode? = some output) :
    ∀ f ∈ (g.programFor output).features, f.takesTexture = true →
      (g.programFor output).parameters.textures ≠ [] := by
  intro f hf htakes
  rw [features_programFor] at hf
  obtain ⟨h, args, hcall, htakes⟩ : ∃ h args,
      .call h args ∈ (g.programFor output).parts ∧ h.takesTexture = true := by
    obtain ⟨h, hcalled, -, hled⟩ := Builtin.mem_closure.mp hf
    obtain ⟨args, hcall⟩ := Program.mem_called.mp hcalled
    exact ⟨h, args, hcall, Builtin.takesTexture_of_led hled htakes⟩
  obtain ⟨name, _, p, -, hp, htexture⟩ := hg.samplesTextures ho h args hcall htakes
  exact List.ne_nil_of_mem (List.mem_filter.mpr ⟨List.mem_of_find?_eq_some hp, htexture⟩)

/-- The source text of a well-formed graph, by its lines. -/
theorem exists_lines (hg : g.WellFormed) (ho : g.outputNode? = some output) (backend : Backend) :
    ∃ source body, backend.emit (g.programFor output) = .ok source ∧
      (∀ line ∈ body, backend.dialect.BodyLine line) ∧
      linesOf source = (backend.dialect.sourceLines (g.programFor output).parameters
        (g.programFor output).features body).map String.toList := by
  obtain ⟨source, hsource⟩ := hg.exists_source ho backend
  obtain ⟨body, hbody, rfl⟩ := backend.dialect_spellsPlain.emit (statement_names g output)
    (hg.parts_spelled ho) hsource
  refine ⟨_, body, hsource, hbody, linesOf_join ?_⟩
  exact Backend.oneLine_sourceLines hg.parameter_names.1 (feature_helpers g output) hbody

end WellFormed

/-- A graph with an output node has a designated one. -/
theorem exists_outputNode (ho : ∃ node ∈ g.nodes, node.type = .output) :
    ∃ output, g.outputNode? = some output := by
  obtain ⟨node, hn, htype⟩ := ho
  refine Option.ne_none_iff_exists'.mp ?_
  intro hnone
  exact outputNode?_eq_none_iff.mp hnone node hn htype

/-- **Helpers are defined completely, minimally and in order.** Every reachable graph with an output
node has a program whose helpers are the least set that has all it calls, in whatever part of an
expression, and is closed under what helpers call. Every backend writes a source text for it that
defines each of these helpers once and no others, behind the helpers that its text names and the
samplers that it uses, and in front of the main function. -/
theorem generateCode_helpers (hg : g.Reachable) (ho : ∃ node ∈ g.nodes, node.type = .output) :
    ∃ program, g.generateCode.1 = .ok program ∧ program.features.Sublist Builtin.helpers ∧
      IsLeast {needed | program.Supplied needed} {f | f ∈ program.features} ∧
      ∀ backend : Backend, ∃ source, backend.emit program = .ok source ∧
        backend.Defines program.features (linesOf source) := by
  have hwell := hg.consistent.toWellFormed
  obtain ⟨output, houtput⟩ := exists_outputNode ho
  have hfeatures := features_programFor g output
  have hordered : (g.programFor output).features.Sublist Builtin.helpers := by
    rw [hfeatures]
    exact Builtin.closure_sublist _
  have hclosed : ∀ f ∈ (g.programFor output).features, ∀ h ∈ f.dependencies,
      h ∈ (g.programFor output).features := by
    rw [hfeatures]
    exact fun f hf h hh => Builtin.closure_dependencies hf hh
  have hleast : IsLeast {needed | (g.programFor output).Supplied needed}
      {f | f ∈ (g.programFor output).features} := by
    rw [hfeatures]
    exact (g.programFor output).isLeast_closure
  refine ⟨g.programFor output, hg.consistent.generateCode_eq houtput, hordered, hleast,
    fun backend => ?_⟩
  obtain ⟨source, body, hsource, hbody, hlines⟩ := hwell.exists_lines houtput backend
  refine ⟨source, hsource, ?_⟩
  rw [hlines]
  exact Backend.defines_sourceLines hwell.parameter_names.1 hordered hclosed
    (hwell.textures_ne_nil houtput) hbody

/-- Noise in color goes through curves: two helpers are called, and two more by these. -/
theorem generateCode_helpers_curves :
    let g := ofCalls [.add .noiseTexture ⟨0, 0⟩, .add .rgbCurves ⟨0, 0⟩, .add .output ⟨0, 0⟩,
      .connect ⟨1, 4⟩ ⟨2, 2⟩, .connect ⟨2, 3⟩ ⟨3, 0⟩]
    g.Reachable ∧ (∃ node ∈ g.nodes, node.type = .output) ∧
      ∃ program, g.generateCode.1 = .ok program ∧
        program.features = [.noise, .noiseColor, .sampleRamp, .rgbCurves] ∧
        program.features.Sublist Builtin.helpers ∧
        IsLeast {needed | program.Supplied needed} {f | f ∈ program.features} ∧
        ∀ backend : Backend, ∃ source, backend.emit program = .ok source ∧
          backend.Defines program.features (linesOf source) := by
  intro g
  have hg : g.Reachable := reachable_ofCalls _ (by decide)
  have ho : ∃ node ∈ g.nodes, node.type = .output := by decide +kernel
  have hfeatures : g.generateCode.1.toOption.map Program.features =
      some [.noise, .noiseColor, .sampleRamp, .rgbCurves] := by decide +kernel
  obtain ⟨program, hprogram, hdefined⟩ := generateCode_helpers hg ho
  rw [hprogram] at hfeatures
  exact ⟨hg, ho, program, hprogram, Option.some.inj hfeatures, hdefined⟩

/-- **Bindings are consistent.** Every reachable graph with an output node has a program, and every
backend writes a source text for it that binds to `0`, `1` and so on, in the order in which they
stand, the block of parameters, if any parameter is no texture, and the textures, if there are any,
behind the samplers that the language needs for them. The block has the other parameters as members,
in table order and with the types of their values, and every parameter is declared once. -/
theorem generateCode_bindings (hg : g.Reachable) (ho : ∃ node ∈ g.nodes, node.type = .output) :
    ∃ program, g.generateCode.1 = .ok program ∧
      ∀ backend : Backend, ∃ source, backend.emit program = .ok source ∧
        backend.Declares program.parameters (linesOf source) := by
  have hwell := hg.consistent.toWellFormed
  obtain ⟨output, houtput⟩ := exists_outputNode ho
  refine ⟨g.programFor output, hg.consistent.generateCode_eq houtput, fun backend => ?_⟩
  obtain ⟨source, body, hsource, hbody, hlines⟩ := hwell.exists_lines houtput backend
  refine ⟨source, hsource, ?_⟩
  rw [hlines]
  exact Backend.declares_sourceLines hwell.parameter_names.1 hwell.parameter_names.2
    (feature_helpers g output) hbody

/-- A ramp gives the color: its factor and the alpha are members of the block, and the ramp is a
texture. -/
theorem generateCode_bindings_ramp :
    let g := ofCalls [.add .colorRamp ⟨0, 0⟩, .add .output ⟨0, 0⟩, .connect ⟨1, 2⟩ ⟨2, 0⟩]
    g.Reachable ∧ (∃ node ∈ g.nodes, node.type = .output) ∧
      ∃ program, g.generateCode.1 = .ok program ∧
        program.parameters.uniforms.map Parameter.name = ["p_n1_1", "p_n2_1"] ∧
        program.parameters.textures.map Parameter.name = ["p_n1_0"] ∧
        ∀ backend : Backend, ∃ source, backend.emit program = .ok source ∧
          backend.Declares program.parameters (linesOf source) := by
  intro g
  have hg : g.Reachable := reachable_ofCalls _ (by decide)
  have ho : ∃ node ∈ g.nodes, node.type = .output := by decide +kernel
  have hnames : g.generateCode.1.toOption.map (fun program =>
      (program.parameters.uniforms.map Parameter.name,
        program.parameters.textures.map Parameter.name)) =
      some (["p_n1_1", "p_n2_1"], ["p_n1_0"]) := by decide +kernel
  obtain ⟨program, hprogram, hdeclared⟩ := generateCode_bindings hg ho
  rw [hprogram] at hnames
  obtain ⟨huniforms, htextures⟩ := Prod.ext_iff.mp (Option.some.inj hnames)
  exact ⟨hg, ho, program, hprogram, huniforms, htextures, hdeclared⟩

end Graph

end ShaderGraph
