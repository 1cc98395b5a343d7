import Mathlib.Tactic.IntervalCases
import ShaderGraph.Proofs.Lowering.Inputs
import ShaderGraph.Proofs.Lowering.Meaning

/-!
# The statements of one node

Running the statements of a node binds each of its outputs to the value that direct evaluation
gives it, provided that the expressions it reads have the values of its inputs and do not depend on
the names that belong to the node itself. Nothing else is bound, and nothing that was bound changes.
There is one case for each of the seventeen types, and these fall into few shapes: outputs bound one
beside the other, a clamped value, a sample taken apart.
-/

set_option autoImplicit false

namespace ShaderGraph

variable {V : Type} {I : Interpretation V} {table : ParameterTable} {node : NodeId}
  {env env' : Bindings V}

/-! ## Bindings of one node -/

/-- Whether two bindings differ at names that belong to a node only. -/
def SameOutside (node : NodeId) (env env' : Bindings V) : Prop :=
  ∀ name, ¬BelongsTo node name → env' name = env name

namespace SameOutside

/-- Bindings differ from themselves nowhere. -/
theorem refl (env : Bindings V) : SameOutside node env env := fun _ _ => rfl

/-- Two changes at names of one node make a change at names of that node. -/
theorem trans {env'' : Bindings V} (h : SameOutside node env env')
    (h' : SameOutside node env' env'') : SameOutside node env env'' :=
  fun name hname => (h' name hname).trans (h name hname)

/-- Binding a name that belongs to the node changes nothing outside of it. -/
theorem update {name : String} (h : SameOutside node env env') (hname : BelongsTo node name)
    (v : Option V) : SameOutside node env (Function.update env' name v) := by
  intro other hother
  have hne : other ≠ name := by
    rintro rfl
    exact hother hname
  rw [Function.update_of_ne hne]
  exact h other hother

end SameOutside

/-- Whether no name that belongs to a node is bound. -/
def Fresh (node : NodeId) (env : Bindings V) : Prop := ∀ name, BelongsTo node name → env name = none

/-- Whether an expression has a value whatever is bound to the names of a node. -/
def Steady (I : Interpretation V) (table : ParameterTable) (node : NodeId) (env : Bindings V)
    (expr : Expr) (v : V) : Prop :=
  ∀ env', SameOutside node env env' → expr.eval? I table env' = some v

/-- An expression with a steady value has it. -/
theorem Steady.eval {expr : Expr} {v : V} (h : Steady I table node env expr v) :
    expr.eval? I table env = some v := h env (.refl env)

/-- A steady value stays steady when names of the node are bound. -/
theorem Steady.mono {expr : Expr} {v : V} (h : Steady I table node env expr v)
    (henv : SameOutside node env env') : Steady I table node env' expr v :=
  fun env'' henv'' => h env'' (henv.trans henv'')

/-! ## Running statements -/

/-- A statement runs exactly if its name is new and its expression has a value. -/
theorem Statement.run?_eq_some_iff {s : Statement} : s.run? I table env = some env' ↔
    env s.name = none ∧
      ∃ v, s.expr.eval? I table env = some v ∧ env' = Function.update env s.name (some v) := by
  unfold Statement.run?
  cases hname : env s.name with
  | none => simp [eq_comm]
  | some v => simp

namespace Program

/-- Statements run one after the other, and one that fails ends the run. -/
theorem runAll?_cons (s : Statement) (rest : List Statement) :
    runAll? I table env (s :: rest) =
      (s.run? I table env).bind fun env => runAll? I table env rest :=
  List.foldlM_cons

/-- Running statements one after the other. -/
theorem runAll?_append (first second : List Statement) :
    runAll? I table env (first ++ second) =
      (runAll? I table env first).bind fun env => runAll? I table env second :=
  List.foldlM_append

/-- What is bound stays bound to the same value. -/
theorem runAll?_keeps {statements : List Statement} {name : String} {v : V}
    (hrun : runAll? I table env statements = some env') (hname : env name = some v) :
    env' name = some v := by
  induction statements generalizing env with
  | nil =>
    obtain rfl : env = env' := Option.some.inj hrun
    exact hname
  | cons s rest ih =>
    rw [runAll?_cons] at hrun
    obtain ⟨env₁, hs, hrest⟩ := Option.bind_eq_some_iff.mp hrun
    obtain ⟨hnew, w, -, rfl⟩ := Statement.run?_eq_some_iff.mp hs
    refine ih hrest ?_
    rwa [Function.update_of_ne (fun heq => by simp [heq, hnew] at hname)]

/-- Statements that run have distinct names, none of which was bound before. -/
theorem runAll?_names {statements : List Statement}
    (hrun : runAll? I table env statements = some env') :
    (statements.map Statement.name).Nodup ∧ ∀ s ∈ statements, env s.name = none := by
  induction statements generalizing env with
  | nil => exact ⟨List.nodup_nil, List.forall_mem_nil _⟩
  | cons s rest ih =>
    rw [runAll?_cons] at hrun
    obtain ⟨env₁, hs, hrest⟩ := Option.bind_eq_some_iff.mp hrun
    obtain ⟨hnew, v, -, rfl⟩ := Statement.run?_eq_some_iff.mp hs
    obtain ⟨hnodup, hunbound⟩ := ih hrest
    have hne : ∀ t ∈ rest, t.name ≠ s.name := by
      intro t ht heq
      have hbound := hunbound t ht
      rw [heq, Function.update_self] at hbound
      exact absurd hbound (by simp)
    constructor
    · rw [List.map_cons, List.nodup_cons]
      refine ⟨?_, hnodup⟩
      intro hmem
      obtain ⟨t, ht, heq⟩ := List.mem_map.mp hmem
      exact hne t ht heq
    · intro t ht
      rcases List.mem_cons.mp ht with rfl | ht
      · exact hnew
      · have hbound := hunbound t ht
        rwa [Function.update_of_ne (hne t ht)] at hbound

end Program

/-- Whether running statements binds the outputs of a node at some indices to some values, and
besides them only names that belong to the node. -/
def Binds (I : Interpretation V) (table : ParameterTable) (node : NodeId) (env : Bindings V)
    (statements : List Statement) (outputs : List (Nat × V)) : Prop :=
  ∃ env', Program.runAll? I table env statements = some env' ∧ SameOutside node env env' ∧
    ∀ o ∈ outputs, env' (varName ⟨node, o.1⟩) = some o.2

namespace Binds

variable {index : Nat} {type : ShaderType} {expr : Expr} {v : V} {rest : List Statement}
  {outputs : List (Nat × V)}

/-- No statements bind no outputs. -/
theorem nil : Binds I table node env [] [] := ⟨env, rfl, .refl env, by simp⟩

/-- A statement for an output binds it. -/
theorem output (hnew : env (varName ⟨node, index⟩) = none)
    (hv : expr.eval? I table env = some v)
    (hrest : Binds I table node (Function.update env (varName ⟨node, index⟩) (some v)) rest
      outputs) :
    Binds I table node env (Template.output node index type expr :: rest)
      ((index, v) :: outputs) := by
  obtain ⟨env', hrun, hsame, hout⟩ := hrest
  refine ⟨env', ?_, ?_, ?_⟩
  · have hs : (Template.output node index type expr).run? I table env =
        some (Function.update env (varName ⟨node, index⟩) (some v)) :=
      Statement.run?_eq_some_iff.mpr ⟨hnew, v, hv, rfl⟩
    rw [Program.runAll?_cons, hs]
    exact hrun
  · exact ((SameOutside.refl env).update .output _).trans hsame
  · intro o ho
    rcases List.mem_cons.mp ho with rfl | ho
    · exact Program.runAll?_keeps hrun (by simp)
    · exact hout o ho

/-- A statement for an intermediate value binds no output. -/
theorem temp {tag : String} (hnew : env (tempName node tag) = none)
    (hv : expr.eval? I table env = some v)
    (hrest : Binds I table node (Function.update env (tempName node tag) (some v)) rest outputs) :
    Binds I table node env (Template.temp node tag type expr :: rest) outputs := by
  obtain ⟨env', hrun, hsame, hout⟩ := hrest
  refine ⟨env', ?_, ?_, hout⟩
  · have hs : (Template.temp node tag type expr).run? I table env =
        some (Function.update env (tempName node tag) (some v)) :=
      Statement.run?_eq_some_iff.mpr ⟨hnew, v, hv, rfl⟩
    rw [Program.runAll?_cons, hs]
    exact hrun
  · exact ((SameOutside.refl env).update .temp _).trans hsame

/-- Outputs bound side by side to expressions with steady values have these values. -/
theorem outputs_of_steady (rows : List (Nat × ShaderType × Expr × V))
    (hd : (rows.map Prod.fst).Nodup)
    (hnew : ∀ row ∈ rows, env (varName ⟨node, row.1⟩) = none)
    (hsteady : ∀ row ∈ rows, Steady I table node env row.2.2.1 row.2.2.2) :
    Binds I table node env (rows.map fun row => Template.output node row.1 row.2.1 row.2.2.1)
      (rows.map fun row => (row.1, row.2.2.2)) := by
  induction rows generalizing env with
  | nil => exact .nil
  | cons row rows ih =>
    obtain ⟨index, type, expr, v⟩ := row
    rw [List.map_cons, List.nodup_cons] at hd
    have hsame : SameOutside node env (Function.update env (varName ⟨node, index⟩) (some v)) :=
      (SameOutside.refl env).update .output _
    refine .output (hnew _ List.mem_cons_self) (hsteady _ List.mem_cons_self).eval (ih hd.2 ?_ ?_)
    · intro row hrow
      have hne : varName ⟨node, row.1⟩ ≠ varName ⟨node, index⟩ := by
        intro heq
        have hindex : row.1 = index := congrArg SlotId.index (varName_injective heq)
        exact hd.1 (List.mem_map.mpr ⟨row, hrow, hindex⟩)
      rw [Function.update_of_ne hne]
      exact hnew row (List.mem_cons_of_mem _ hrow)
    · exact fun row hrow => (hsteady row (List.mem_cons_of_mem _ hrow)).mono hsame

/-- A clamped value is bound to the output. -/
theorem clamped {clamp value : Expr} {c : V} (hfresh : Fresh node env)
    (hclamp : Steady I table node env clamp c) (hvalue : Steady I table node env value v) :
    Binds I table node env (Template.clamped node index type clamp value)
      [(index, I.clamped c v)] := by
  have hraw : BelongsTo node (tempName node "raw") := .temp
  refine .temp (hfresh _ hraw) hvalue.eval (.output ?_ ?_ .nil)
  · rw [Function.update_of_ne tempName_ne_varName.symm]
    exact hfresh _ .output
  · simp [Expr.eval?, Expr.evalAll?, hclamp _ ((SameOutside.refl env).update hraw _),
      Interpretation.clamped]

/-- Color and alpha of a sample are bound to two outputs. -/
theorem sampled {sample : Expr} {tag : String} (hfresh : Fresh node env)
    (hsample : Steady I table node env sample v) :
    Binds I table node env (Template.sampled node index tag sample)
      [(index, I.swizzle v "xyz"), (index + 1, I.swizzle v "w")] := by
  refine .temp (hfresh _ .temp) hsample.eval
    (.output ?_ ?_ (.output ?_ ?_ .nil))
  · rw [Function.update_of_ne tempName_ne_varName.symm]
    exact hfresh _ .output
  · simp [Expr.eval?]
  · have hne : varName ⟨node, index + 1⟩ ≠ varName ⟨node, index⟩ := by
      simp [varName_injective.eq_iff]
    rw [Function.update_of_ne hne, Function.update_of_ne tempName_ne_varName.symm]
    exact hfresh _ .output
  · simp [Expr.eval?, Function.update_of_ne tempName_ne_varName]

end Binds

/-! ## Operations -/

/-- The operation of a math node is the one that its label names. -/
theorem steady_math {operation : Nat} (hop : operation < NodeType.mathOperations.length)
    {a b : Expr} {va vb : V} (ha : Steady I table node env a va)
    (hb : Steady I table node env b vb) :
    ∃ label v, NodeType.mathOperations[operation]? = some label ∧ I.math? label va vb = some v ∧
      Steady I table node env (Template.math operation a b) v := by
  change operation < 10 at hop
  interval_cases operation <;> refine ⟨_, _, rfl, rfl, fun env' henv => ?_⟩ <;>
    simp [Template.math, Expr.eval?, Expr.evalAll?, ha env' henv, hb env' henv]

/-- Vector and number of a vector math node are those that its label names. -/
theorem steady_vectorMath {operation : Nat}
    (hop : operation < NodeType.vectorMathOperations.length) {a b : Expr} {va vb : V}
    (ha : Steady I table node env a va) (hb : Steady I table node env b vb) :
    ∃ label v w, NodeType.vectorMathOperations[operation]? = some label ∧
      I.vectorMath? label va vb = some v ∧ I.vectorMeasure? label va vb = some w ∧
      Steady I table node env (Template.vectorMath operation a b).1 v ∧
      Steady I table node env (Template.vectorMath operation a b).2 w := by
  change operation < 7 at hop
  interval_cases operation <;>
    refine ⟨_, _, _, rfl, rfl, rfl, fun env' henv => ?_, fun env' henv => ?_⟩ <;>
    simp [Template.vectorMath, Expr.eval?, Expr.evalAll?, Expr.splat, Interpretation.splat,
      ha env' henv, hb env' henv]

/-- The blend mode of a mixing node is the one that its label names. -/
theorem steady_blended {mode : Nat} (hmode : mode < NodeType.blendModes.length) {a b : Expr}
    {va vb : V} (ha : Steady I table node env a va) (hb : Steady I table node env b vb) :
    ∃ label v, NodeType.blendModes[mode]? = some label ∧ I.blend? label va vb = some v ∧
      Steady I table node env (Template.blended mode a b) v := by
  change mode < 6 at hmode
  interval_cases mode <;> refine ⟨_, _, rfl, rfl, fun env' henv => ?_⟩ <;>
    simp [Template.blended, Expr.eval?, Expr.evalAll?, Expr.splat, Interpretation.splat,
      ha env' henv, hb env' henv]

/-- The filter of an image node is the one that its label names. -/
theorem steady_sample {filter : Nat} (hfilter : filter < NodeType.imageFilters.length)
    {image uv : Expr} {vi vu : V} (hi : Steady I table node env image vi)
    (hu : Steady I table node env uv vu) :
    ∃ label v, NodeType.imageFilters[filter]? = some label ∧ I.sample? label vi vu = some v ∧
      Steady I table node env
        (.call (if filter = 1 then .imageClosest else .imageLinear) [image, uv]) v := by
  change filter < 2 at hfilter
  interval_cases filter <;> refine ⟨_, _, rfl, rfl, fun env' henv => ?_⟩ <;>
    simp [Expr.eval?, Expr.evalAll?, hi env' henv, hu env' henv]

/-! ## Nodes -/

/-- The selected option of a slot is one of its options, and the label is that option's. -/
theorem Node.Valid.label?_eq {node : Node} (hn : node.Valid) {index : Nat} {decl : SlotDecl}
    (hdecl : node.type.slots[index]? = some decl) (henum : decl.slotType = .enum) :
    node.option index < decl.options.length ∧
      node.label? index = decl.options[node.option index]? := by
  obtain ⟨value, hvalue, hholds⟩ := hn.exists_value hdecl
  have htype : value.slotType = .enum := hholds.type_eq ▸ henum
  cases value with
  | enum option =>
    have hoption : node.option index = option := by
      simp [Node.option, hvalue, SlotValue.asEnum?]
    refine ⟨hoption ▸ hholds.option_lt option rfl, ?_⟩
    simp [label?, hvalue, SlotValue.asEnum?, decl?, hdecl, hoption]
  | _ => exact absurd htype (by simp [SlotValue.slotType])

/-- **Running the statements of a node binds its outputs to the values of direct evaluation.** The
inputs may be given in several ways, as long as all of them agree on the slots that hold values. -/
theorem binds_statements {ι : Type} {type : NodeType} {option : Nat → Nat}
    {label : Nat → Option String} {read : Nat → Expr} (input : ι → Nat → Option V)
    (hfresh : Fresh node env)
    (hlabel : ∀ index decl, type.slots[index]? = some decl → decl.slotType = .enum →
      option index < decl.options.length ∧ label index = decl.options[option index]?)
    (hread : ∀ index ∈ type.valueIndices,
      ∃ v, (∀ i, input i index = some v) ∧ Steady I table node env (read index) v) :
    ∃ outputs, Binds I table node env
        (Template.statements node type option (type.inputIndices.map read)) outputs ∧
      (∀ index ∈ type.outputIndices, index ∈ outputs.map Prod.fst) ∧
      ∀ o ∈ outputs, ∀ i, I.output? type label (input i) o.1 = some o.2 := by
  have hnew : ∀ index, env (varName ⟨node, index⟩) = none := fun _ => hfresh _ .output
  cases type with
  | value | rgb | vector =>
    obtain ⟨v, hv, sv⟩ := hread 0 (by decide)
    exact ⟨_, .output (hnew 1) sv.eval .nil, fun _ h => h, List.forall_mem_singleton.mpr hv⟩
  | textureCoordinate =>
    refine ⟨_, Binds.outputs_of_steady
      [(0, .vec3, .input .generated, I.input .generated),
        (1, .vec3, .input .normal, I.input .normal), (2, .vec3, .input .uv, I.input .uv)]
      (by simp) (fun row _ => hnew row.1) ?_, fun _ h => h, ?_⟩
    · simp [Steady, Expr.eval?]
    · refine List.forall_mem_cons.mpr ⟨fun i => ?_, List.forall_mem_cons.mpr ⟨fun i => ?_,
        List.forall_mem_singleton.mpr fun i => ?_⟩⟩
      · simp [Interpretation.output?]
      · simp [Interpretation.output?]
      · simp [Interpretation.output?]
  | math =>
    obtain ⟨c, hc, sc⟩ := hread 1 (by decide)
    obtain ⟨a, ha, sa⟩ := hread 2 (by decide)
    obtain ⟨b, hb, sb⟩ := hread 3 (by decide)
    obtain ⟨hoption, hlabel⟩ := hlabel 0 _ rfl rfl
    obtain ⟨operation, v, hoperation, hv, sv⟩ := steady_math hoption sa sb
    refine ⟨_, .clamped hfresh sc sv, fun _ h => h, ?_⟩
    refine List.forall_mem_singleton.mpr fun i => ?_
    simp [Interpretation.output?, hc, ha, hb, hlabel.trans hoperation, hv]
  | vectorMath =>
    obtain ⟨a, ha, sa⟩ := hread 1 (by decide)
    obtain ⟨b, hb, sb⟩ := hread 2 (by decide)
    obtain ⟨hoption, hlabel⟩ := hlabel 0 _ rfl rfl
    obtain ⟨operation, v, w, hoperation, hv, hw, sv, sw⟩ := steady_vectorMath hoption sa sb
    refine ⟨_, .outputs_of_steady [(3, .vec3, _, v), (4, .float, _, w)] (by simp)
      (fun row _ => hnew row.1) ?_, fun _ h => h, ?_⟩
    · simpa using ⟨sv, sw⟩
    · refine List.forall_mem_cons.mpr ⟨fun i => ?_, List.forall_mem_singleton.mpr fun i => ?_⟩
      · simp [Interpretation.output?, ha, hb, hlabel.trans hoperation, hv]
      · simp [Interpretation.output?, ha, hb, hlabel.trans hoperation, hw]
  | mixRgb =>
    obtain ⟨c, hc, sc⟩ := hread 1 (by decide)
    obtain ⟨f, hf, sf⟩ := hread 2 (by decide)
    obtain ⟨a, ha, sa⟩ := hread 3 (by decide)
    obtain ⟨b, hb, sb⟩ := hread 4 (by decide)
    obtain ⟨hoption, hlabel⟩ := hlabel 0 _ rfl rfl
    obtain ⟨mode, v, hmode, hv, sv⟩ := steady_blended hoption sa sb
    have smix : Steady I table node env
        (.call .mix [read 3, Template.blended (option 0) (read 3) (read 4), read 2])
        (I.call .mix [a, v, f]) := by
      intro env' henv
      simp [Expr.eval?, Expr.evalAll?, sa env' henv, sv env' henv, sf env' henv]
    refine ⟨_, .clamped hfresh sc smix, fun _ h => h, ?_⟩
    refine List.forall_mem_singleton.mpr fun i => ?_
    simp [Interpretation.output?, hc, hf, ha, hb, hlabel.trans hmode, hv]
  | invert =>
    obtain ⟨f, hf, sf⟩ := hread 0 (by decide)
    obtain ⟨c, hc, sc⟩ := hread 1 (by decide)
    have sout : (Expr.call .mix [read 1, .binary .sub (.splat 1.0) (read 1), read 0]).eval? I table
        env = some (I.call .mix [c, I.binary .sub (I.splat 1.0) c, f]) := by
      simp [Expr.eval?, Expr.evalAll?, Expr.splat, Interpretation.splat, sf.eval, sc.eval]
    refine ⟨_, .output (hnew 2) sout .nil, fun _ h => h, ?_⟩
    refine List.forall_mem_singleton.mpr fun i => ?_
    simp [Interpretation.output?, hf, hc]
  | separateRgb =>
    obtain ⟨c, hc, sc⟩ := hread 0 (by decide)
    have schannel : ∀ channel, Steady I table node env (.swizzle (read 0) channel)
        (I.swizzle c channel) := by
      intro channel env' henv
      simp [Expr.eval?, sc env' henv]
    refine ⟨_, .outputs_of_steady [(1, .float, _, I.swizzle c "x"), (2, .float, _, I.swizzle c "y"),
      (3, .float, _, I.swizzle c "z")] (by simp) (fun row _ => hnew row.1) ?_, fun _ h => h, ?_⟩
    · simpa using ⟨schannel "x", schannel "y", schannel "z"⟩
    · refine List.forall_mem_cons.mpr ⟨fun i => ?_, List.forall_mem_cons.mpr ⟨fun i => ?_,
        List.forall_mem_singleton.mpr fun i => ?_⟩⟩
      · simp [Interpretation.output?, hc]
      · simp [Interpretation.output?, hc]
      · simp [Interpretation.output?, hc]
  | combineRgb =>
    obtain ⟨r, hr, sr⟩ := hread 0 (by decide)
    obtain ⟨x, hx, sx⟩ := hread 1 (by decide)
    obtain ⟨b, hb, sb⟩ := hread 2 (by decide)
    have sout : (Expr.construct .vec3 [read 0, read 1, read 2]).eval? I table env =
        some (I.construct .vec3 [r, x, b]) := by
      simp [Expr.eval?, Expr.evalAll?, sr.eval, sx.eval, sb.eval]
    refine ⟨_, .output (hnew 3) sout .nil, fun _ h => h, ?_⟩
    refine List.forall_mem_singleton.mpr fun i => ?_
    simp [Interpretation.output?, hr, hx, hb]
  | colorRamp =>
    obtain ⟨l, hl, sl⟩ := hread 0 (by decide)
    obtain ⟨f, hf, sf⟩ := hread 1 (by decide)
    have ssample : Steady I table node env (.call .sampleRamp [read 0, read 1])
        (I.call .sampleRamp [l, f]) := by
      intro env' henv
      simp [Expr.eval?, Expr.evalAll?, sl env' henv, sf env' henv]
    refine ⟨_, .sampled hfresh ssample, fun _ h => h, ?_⟩
    refine List.forall_mem_cons.mpr ⟨fun i => ?_, List.forall_mem_singleton.mpr fun i => ?_⟩
    · simp [Interpretation.output?, hl, hf]
    · simp [Interpretation.output?, hl, hf]
  | rgbCurves | vectorCurves =>
    obtain ⟨l, hl, sl⟩ := hread 0 (by decide)
    obtain ⟨f, hf, sf⟩ := hread 1 (by decide)
    obtain ⟨c, hc, sc⟩ := hread 2 (by decide)
    have scurves : ∀ curves, (Expr.call curves [read 0, read 2, read 1]).eval? I table env =
        some (I.call curves [l, c, f]) := by
      intro curves
      simp [Expr.eval?, Expr.evalAll?, sl.eval, sf.eval, sc.eval]
    refine ⟨_, .output (hnew 3) (scurves _) .nil, fun _ h => h, ?_⟩
    refine List.forall_mem_singleton.mpr fun i => ?_
    simp [Interpretation.output?, hl, hf, hc]
  | imageTexture =>
    obtain ⟨m, hm, sm⟩ := hread 0 (by decide)
    obtain ⟨u, hu, su⟩ := hread 2 (by decide)
    obtain ⟨hoption, hlabel⟩ := hlabel 1 _ rfl rfl
    obtain ⟨filter, v, hfilter, hv, sv⟩ := steady_sample hoption sm su
    refine ⟨_, .sampled hfresh sv, fun _ h => h, ?_⟩
    refine List.forall_mem_cons.mpr ⟨fun i => ?_, List.forall_mem_singleton.mpr fun i => ?_⟩
    · simp [Interpretation.output?, hm, hu, hlabel.trans hfilter, hv]
    · simp [Interpretation.output?, hm, hu, hlabel.trans hfilter, hv]
  | noiseTexture =>
    obtain ⟨p, hp, sp⟩ := hread 0 (by decide)
    obtain ⟨s, hs, ss⟩ := hread 1 (by decide)
    obtain ⟨o, ho, so⟩ := hread 2 (by decide)
    have snoise : ∀ f, Steady I table node env (.call f [read 0, read 1, read 2])
        (I.call f [p, s, o]) := by
      intro f env' henv
      simp [Expr.eval?, Expr.evalAll?, sp env' henv, ss env' henv, so env' henv]
    refine ⟨_, .outputs_of_steady [(3, .float, _, I.call .noise [p, s, o]),
      (4, .vec3, _, I.call .noiseColor [p, s, o])] (by simp) (fun row _ => hnew row.1) ?_,
      fun _ h => h, ?_⟩
    · simpa using ⟨snoise .noise, snoise .noiseColor⟩
    · refine List.forall_mem_cons.mpr ⟨fun i => ?_, List.forall_mem_singleton.mpr fun i => ?_⟩
      · simp [Interpretation.output?, hp, hs, ho]
      · simp [Interpretation.output?, hp, hs, ho]
  | checkerTexture =>
    obtain ⟨p, hp, sp⟩ := hread 0 (by decide)
    obtain ⟨a, ha, sa⟩ := hread 1 (by decide)
    obtain ⟨b, hb, sb⟩ := hread 2 (by decide)
    obtain ⟨s, hs, ss⟩ := hread 3 (by decide)
    have smask : (Expr.call .checker [read 0, read 3]).eval? I table env =
        some (I.call .checker [p, s]) := by
      simp [Expr.eval?, Expr.evalAll?, sp.eval, ss.eval]
    -- the color reads the mask back from the variable that was just bound
    have hsame : SameOutside node env (Function.update env (varName ⟨node, 5⟩)
        (some (I.call .checker [p, s]))) := (SameOutside.refl env).update .output _
    have hcolor : Function.update env (varName ⟨node, 5⟩) (some (I.call .checker [p, s]))
        (varName ⟨node, 4⟩) = none := by
      rw [Function.update_of_ne (by simp [varName_injective.eq_iff])]
      exact hnew 4
    have scolor : (Expr.call .mix [read 2, read 1, .var (varName ⟨node, 5⟩)]).eval? I table
        (Function.update env (varName ⟨node, 5⟩) (some (I.call .checker [p, s]))) =
        some (I.call .mix [b, a, I.call .checker [p, s]]) := by
      simp [Expr.eval?, Expr.evalAll?, sa _ hsame, sb _ hsame]
    refine ⟨_, .output (hnew 5) smask (.output hcolor scolor .nil), ?_, ?_⟩
    · intro index hindex
      simpa [or_comm] using (show index ∈ [4, 5] from hindex)
    · refine List.forall_mem_cons.mpr ⟨fun i => ?_, List.forall_mem_singleton.mpr fun i => ?_⟩
      · simp [Interpretation.output?, hp, hs]
      · simp [Interpretation.output?, hp, ha, hb, hs]
  | output => exact ⟨[], .nil, fun _ h => h, by simp⟩

end ShaderGraph
