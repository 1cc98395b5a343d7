import Mathlib.Data.List.Basic
import ShaderGraph.Backend
import ShaderGraph.Proofs.Dialect.Numbering

/-!
# The text follows from the layout

What a backend writes depends on the parameter table through its layout alone: the names, the slots
and the kinds of the values. Every table is therefore written like the one that has the same layout
and holds nothing but zeros, and tables of one layout are written alike.
-/

set_option autoImplicit false

namespace ShaderGraph

/-! ## Layouts -/

/-- The empty value of a kind. -/
def ParameterValue.zero : ParameterValue → ParameterValue
  | bool _ => bool false
  | int _ => int 0
  | float _ => float 0.0
  | vec3 _ => vec3 (Vec3.splat 0.0)
  | lut _ => lut []
  | image _ => image none

/-- Two values are of one kind if they have the same empty value. -/
theorem ParameterValue.sameKind_iff {v w : ParameterValue} :
    v.sameKind w = true ↔ v.zero = w.zero := by
  cases v <;> cases w <;> simp [sameKind, zero]

/-- A value keeps its kind when it is set to nought. -/
theorem ParameterValue.isTexture_zero (v : ParameterValue) : v.zero.isTexture = v.isTexture := by
  cases v <;> rfl

/-- The parameter without its value. -/
def Parameter.layout (p : Parameter) : Parameter := { p with value := p.value.zero }

/-- The table without its values. -/
def ParameterTable.layout (table : ParameterTable) : ParameterTable :=
  ⟨table.entries.map Parameter.layout⟩

/-- The resource without the values of its parameters. -/
def Resource.layout : Resource → Resource
  | uniforms members => uniforms (members.map Parameter.layout)
  | sampler name => sampler name
  | texture p => texture p.layout

namespace ParameterTable

variable {a b table : ParameterTable}

/-- Two tables have the same layout exactly if they are equal without their values. -/
theorem sameLayout_iff : a.sameLayout b = true ↔ a.layout = b.layout := by
  obtain ⟨ps⟩ := a
  obtain ⟨qs⟩ := b
  simp only [layout, mk.injEq]
  induction ps generalizing qs with
  | nil => cases qs <;> simp [sameLayout]
  | cons p ps ih =>
    cases qs with
    | nil => simp [sameLayout]
    | cons q qs =>
      rw [List.map_cons, List.map_cons, List.cons.injEq, ← ih qs]
      have hhead : p.layout = q.layout ↔
          p.name = q.name ∧ p.slot = q.slot ∧ p.value.sameKind q.value = true := by
        simp [Parameter.layout, ParameterValue.sameKind_iff]
      simp only [hhead, sameLayout, List.length_cons, List.zip_cons_cons, List.all_cons,
        Bool.and_eq_true, decide_eq_true_eq, Nat.add_right_cancel_iff, and_assoc]
      tauto

/-- A name finds the parameter without its value. -/
theorem get?_layout (table : ParameterTable) (name : String) :
    table.layout.get? name = (table.get? name).map Parameter.layout := by
  rw [get?, layout, List.find?_map]
  rfl

end ParameterTable

/-! ## Dialects -/

/-- Whether a dialect spells parameters and resources by their layout. -/
structure Dialect.SeesLayout (d : Dialect) : Prop where
  parameter : ∀ p : Parameter, d.parameter p.layout = d.parameter p
  declare : ∀ binding resource, d.declare binding resource.layout = d.declare binding resource

namespace Dialect.SeesLayout

variable {d : Dialect} {table : ParameterTable}

mutual

/-- An expression is written by the layout of the table. -/
theorem writeExpr (hd : d.SeesLayout) (table : ParameterTable) :
    (expr : Expr) → d.writeExpr table.layout expr = d.writeExpr table expr
  | .bool _ | .int _ | .float _ | .var _ | .input _ => rfl
  | .param name => by
    rw [Dialect.writeExpr, Dialect.writeExpr, table.get?_layout]
    cases table.get? name with
    | none => rfl
    | some p => exact congrArg Except.ok (hd.parameter p)
  | .construct type args => by
    rw [Dialect.writeExpr, Dialect.writeExpr, hd.writeExprs table args]
  | .convert type expr => by
    rw [Dialect.writeExpr, Dialect.writeExpr, hd.writeExpr table expr]
  | .swizzle expr components => by
    rw [Dialect.writeExpr, Dialect.writeExpr, hd.writeExpr table expr]
  | .binary op lhs rhs => by
    rw [Dialect.writeExpr, Dialect.writeExpr, hd.writeExpr table lhs, hd.writeExpr table rhs]
  | .call function args => by
    rw [Dialect.writeExpr, Dialect.writeExpr, hd.writeExprs table args]
  | .select cond onTrue onFalse => by
    rw [Dialect.writeExpr, Dialect.writeExpr, hd.writeExpr table cond, hd.writeExpr table onTrue,
      hd.writeExpr table onFalse]

/-- A dialect that sees only the layout writes lists of expressions from the layout alone. -/
theorem writeExprs (hd : d.SeesLayout) (table : ParameterTable) :
    (exprs : List Expr) → d.writeExprs table.layout exprs = d.writeExprs table exprs
  | [] => rfl
  | expr :: rest => by
    rw [Dialect.writeExprs, Dialect.writeExprs, hd.writeExpr table expr, hd.writeExprs table rest]

end

/-- A texture argument is checked by the layout of the table. -/
theorem textureFault?_layout (table : ParameterTable) (expr : Expr) :
    expr.textureFault? table.layout = expr.textureFault? table := by
  cases expr with
  | call function args =>
    simp only [Expr.textureFault?]
    split_ifs
    · rfl
    · split
      · rename_i name _
        rw [table.get?_layout]
        cases table.get? name with
        | none => rfl
        | some p => simp [Parameter.layout, ParameterValue.isTexture_zero]
      · rfl
  | _ => rfl

/-- The resources of the layout are the layouts of the resources. -/
theorem resources_layout (d : Dialect) (table : ParameterTable) :
    d.resources table.layout = (d.resources table).map Resource.layout := by
  have hfilter : ∀ kind : Bool → Bool,
      table.layout.entries.filter (fun p => kind p.value.isTexture) =
        (table.entries.filter fun p => kind p.value.isTexture).map Parameter.layout := by
    intro kind
    rw [ParameterTable.layout, List.filter_map]
    simp [Function.comp_def, Parameter.layout, ParameterValue.isTexture_zero]
  have htextures := hfilter id
  have huniforms := hfilter not
  simp only [id] at htextures
  simp only [Dialect.resources, htextures, huniforms, List.isEmpty_map, List.map_append]
  congr 1
  · split_ifs <;> rfl
  · split_ifs
    · rfl
    · simp [Function.comp_def, Resource.layout]

/-- The resources are declared by the layout of the table. -/
theorem resourceLines (hd : d.SeesLayout) (table : ParameterTable) :
    d.resourceLines table.layout = d.resourceLines table := by
  simp only [resourceLines_eq, resources_layout, List.zipIdx_map, List.flatMap_map]
  exact List.flatMap_congr fun entry _ => hd.declare entry.2 entry.1

/-- The text of a program is written by the layout of its table. -/
theorem emit (hd : d.SeesLayout) (program : Program) :
    d.emit { program with parameters := program.parameters.layout } = d.emit program := by
  have hfault : Program.textureFault? { program with parameters := program.parameters.layout } =
      program.textureFault? := by
    unfold Program.textureFault?
    congr 1
    funext expr
    exact textureFault?_layout _ expr
  have hmain : d.mainLines { program with parameters := program.parameters.layout } =
      d.mainLines program := by
    have hline : d.statementLine program.parameters.layout =
        d.statementLine program.parameters := by
      funext s
      rw [statementLine, hd.writeExpr, statementLine]
    simp only [mainLines, hline, hd.writeExpr]
  simp only [Dialect.emit, hfault, hmain, hd.resourceLines]

/-- Programs that differ in the values of their parameters only have the same text. -/
theorem emit_eq (hd : d.SeesLayout) {program : Program}
    (hsame : program.parameters.sameLayout table = true) :
    d.emit { program with parameters := table } = d.emit program := by
  rw [← hd.emit program, ParameterTable.sameLayout_iff.mp hsame]
  exact (hd.emit { program with parameters := table }).symm

end Dialect.SeesLayout

/-! ## Backends -/

/-- Nothing in WGSL depends on the values of parameters. -/
theorem Wgsl.dialect_seesLayout : Wgsl.dialect.SeesLayout where
  parameter p := by
    obtain ⟨name, slot, value⟩ := p
    cases value <;> rfl
  declare binding resource := by
    have huniform : ∀ v : ParameterValue, uniformType v.zero = uniformType v := by
      intro v
      cases v <;> rfl
    cases resource with
    | uniforms members =>
      simp [Wgsl.dialect, Wgsl.declare, Resource.layout, Parameter.layout, huniform,
        Function.comp_def]
    | sampler name => rfl
    | texture p => rfl

/-- Nothing in GLSL depends on the values of parameters. -/
theorem Glsl.dialect_seesLayout : Glsl.dialect.SeesLayout where
  parameter p := by
    obtain ⟨name, slot, value⟩ := p
    cases value <;> rfl
  declare binding resource := by
    have huniform : ∀ v : ParameterValue, uniformType v.zero = uniformType v := by
      intro v
      cases v <;> rfl
    cases resource with
    | uniforms members =>
      simp [Glsl.dialect, Glsl.declare, Resource.layout, Parameter.layout, huniform,
        Function.comp_def]
    | sampler name => rfl
    | texture p => rfl

/-- Every backend writes by layout. -/
theorem Backend.dialect_seesLayout (backend : Backend) : backend.dialect.SeesLayout := by
  cases backend with
  | wgsl => exact Wgsl.dialect_seesLayout
  | glsl => exact Glsl.dialect_seesLayout

/-- A table is put into a program exactly if its layout is that of the program's own. -/
theorem Program.refresh?_eq (program : Program) (table : ParameterTable) :
    program.refresh? table = if program.parameters.sameLayout table then
      some { program with parameters := table } else none := by
  unfold refresh? refresh
  split_ifs <;> rfl

/-- **The source of a program does not depend on the values of its parameters.** A table of the
same layout takes the place of the program's own, and whatever the program is, every backend then
writes the same text or refuses for the same reason. -/
theorem Backend.emit_of_sameLayout (backend : Backend) (program : Program) (table : ParameterTable)
    (hsame : program.parameters.sameLayout table = true) :
    program.refresh? table = some { program with parameters := table } ∧
      backend.emit { program with parameters := table } = backend.emit program :=
  ⟨(program.refresh?_eq table).trans (if_pos hsame), backend.dialect_seesLayout.emit_eq hsame⟩

/-- Another ramp, factor and switch: a program that is written, and one that reads the switch as a
texture and is refused. -/
theorem Backend.emit_of_sameLayout_ramp :
    let switch (on : Bool) : Parameter := ⟨"p_n1_1", ⟨1, 1⟩, .bool on⟩
    let before : ParameterTable :=
      ⟨[switch false, ⟨"p_n2_0", ⟨2, 0⟩, .lut []⟩, ⟨"p_n2_1", ⟨2, 1⟩, .float 0.5⟩]⟩
    let after : ParameterTable :=
      ⟨[switch true, ⟨"p_n2_0", ⟨2, 0⟩, .lut [⟨1.0, 0.5, 0.25, 1.0⟩]⟩,
        ⟨"p_n2_1", ⟨2, 1⟩, .float 2.0⟩]⟩
    let sampling (texture : String) : Program :=
      ⟨[⟨2, "v_n2", .vec4, .call .sampleRamp [.param texture, .param "p_n2_1"]⟩], before,
        .swizzle (.var "v_n2") "xyz", .select (.param "p_n1_1") (.float 1.0) (.float 0.5),
        [.sampleRamp]⟩
    before.sameLayout after = true ∧
      (∃ source, wgsl.emit (sampling "p_n2_0") = .ok source ∧
        wgsl.emit { sampling "p_n2_0" with parameters := after } = .ok source) ∧
      glsl.emit (sampling "p_n1_1") = .error (.parameterKind "p_n1_1") ∧
      glsl.emit { sampling "p_n1_1" with parameters := after } =
        .error (.parameterKind "p_n1_1") := by
  intro switch before after sampling
  have hsame : before.sameLayout after = true := by decide
  have hwritten : wgsl.emit (sampling "p_n2_0") = .ok _ := rfl
  have hrefused : glsl.emit (sampling "p_n1_1") = .error (.parameterKind "p_n1_1") := by decide
  exact ⟨hsame, ⟨_, hwritten, (emit_of_sameLayout wgsl _ after hsame).2.trans hwritten⟩, hrefused,
    (emit_of_sameLayout glsl _ after hsame).2.trans hrefused⟩

end ShaderGraph
