import Mathlib.Data.List.Nodup
import ShaderGraph.Program

/-!
# Types of shader expressions

Which expressions have a type, and which one, given the parameters that they may read and the
statements that come before. A parameter has the type that its value has in the parameter block; a
texture has none, so no rule but that for the functions which sample a texture accepts one, and as
the first argument only. A variable has the type that its statement declares. What the operations
take and give is listed in tables, one for each kind of operation.
-/

set_option autoImplicit false

namespace ShaderGraph

/-! ## What the operations take and give -/

namespace ShaderType

/-- The conversions: from a type to another. -/
def conversions : List (ShaderType × ShaderType) :=
  [(.int, .float), (.float, .int), (.float, .vec3)]

/-- The components that can be selected of a value, and the type of the selection. -/
def selections : ShaderType → List (String × ShaderType)
  | vec3 => [("x", .float), ("y", .float), ("z", .float), ("xyz", .vec3)]
  | vec4 => [("x", .float), ("y", .float), ("z", .float), ("w", .float), ("xyz", .vec3)]
  | bool | int | float => []

/-- The types that the operators compute with. -/
def operands : List ShaderType := [.float, .vec3]

end ShaderType

namespace Builtin

/-- The types of the arguments, except for a texture, and of the result. Functions that treat all
components alike take numbers or vectors. -/
def signatures : Builtin → List (List ShaderType × ShaderType)
  | pow | min | max => [([.float, .float], .float), ([.vec3, .vec3], .vec3)]
  | sin | cos | abs | saturate => [([.float], .float), ([.vec3], .vec3)]
  | mix => [([.vec3, .vec3, .float], .vec3)]
  | cross => [([.vec3, .vec3], .vec3)]
  | dot => [([.vec3, .vec3], .float)]
  | normalize => [([.vec3], .vec3)]
  | length | luminance | average => [([.vec3], .float)]
  | noise => [([.vec3, .float, .int], .float)]
  | noiseColor => [([.vec3, .float, .int], .vec3)]
  | checker => [([.vec3, .float], .float)]
  | sampleRamp => [([.float], .vec4)]
  | rgbCurves | vectorCurves => [([.vec3, .float], .vec3)]
  | imageLinear | imageClosest => [([.vec3], .vec4)]

/-- Whether the function samples textures of a value's kind. -/
def samples : Builtin → ParameterValue → Bool
  | sampleRamp, .lut _ | rgbCurves, .lut _ | vectorCurves, .lut _ => true
  | imageLinear, .image _ | imageClosest, .image _ => true
  | _, _ => false

/-- The arguments determine the type of the result. -/
theorem signatures_unique (function : Builtin) :
    ∀ a ∈ function.signatures, ∀ b ∈ function.signatures, a.1 = b.1 → a.2 = b.2 := by
  cases function <;> decide

end Builtin

/-- The components selected from a value determine the type of the selection. -/
theorem ShaderType.selections_unique (type : ShaderType) :
    ∀ a ∈ type.selections, ∀ b ∈ type.selections, a.1 = b.1 → a.2 = b.2 := by
  cases type <;> decide

/-! ## Typing rules -/

mutual

/-- An expression has a type, where a table holds the parameters and some statements come before. -/
inductive HasType (table : ParameterTable) (earlier : List Statement) : Expr → ShaderType → Prop
  | bool (v : Bool) : HasType table earlier (.bool v) .bool
  | int (v : Int32) : HasType table earlier (.int v) .int
  | float (v : Binary32) : HasType table earlier (.float v) .float
  | param {name : String} {p : Parameter} {type : ShaderType} (hp : table.get? name = some p)
    (htype : p.value.uniformType? = some type) : HasType table earlier (.param name) type
  | var {name : String} {s : Statement} (hs : s ∈ earlier) (hname : s.name = name) :
    HasType table earlier (.var name) s.type
  | input (which : ShaderInput) : HasType table earlier (.input which) .vec3
  | construct {x y z : Expr} (hargs : HaveTypes table earlier [x, y, z] [.float, .float, .float]) :
    HasType table earlier (.construct .vec3 [x, y, z]) .vec3
  | convert {expr : Expr} {source dest : ShaderType}
    (hconversion : (source, dest) ∈ ShaderType.conversions)
    (hexpr : HasType table earlier expr source) : HasType table earlier (.convert dest expr) dest
  | swizzle {expr : Expr} {components : String} {source type : ShaderType}
    (hselection : (components, type) ∈ source.selections)
    (hexpr : HasType table earlier expr source) :
    HasType table earlier (.swizzle expr components) type
  | binary {op : BinaryOp} {lhs rhs : Expr} {type : ShaderType} (htype : type ∈ ShaderType.operands)
    (hlhs : HasType table earlier lhs type) (hrhs : HasType table earlier rhs type) :
    HasType table earlier (.binary op lhs rhs) type
  | call {function : Builtin} {args : List Expr} {types : List ShaderType} {type : ShaderType}
    (htexture : function.takesTexture = false) (hsignature : (types, type) ∈ function.signatures)
    (hargs : HaveTypes table earlier args types) : HasType table earlier (.call function args) type
  | sample {function : Builtin} {name : String} {p : Parameter} {args : List Expr}
    {types : List ShaderType} {type : ShaderType} (hp : table.get? name = some p)
    (htexture : function.samples p.value = true) (hsignature : (types, type) ∈ function.signatures)
    (hargs : HaveTypes table earlier args types) :
    HasType table earlier (.call function (.param name :: args)) type
  | select {cond onTrue onFalse : Expr} {type : ShaderType}
      (hcond : HasType table earlier cond .bool)
    (htrue : HasType table earlier onTrue type) (hfalse : HasType table earlier onFalse type) :
    HasType table earlier (.select cond onTrue onFalse) type

/-- The expressions of a list have the types of a list, one by one. -/
inductive HaveTypes (table : ParameterTable) (earlier : List Statement) :
    List Expr → List ShaderType → Prop
  | nil : HaveTypes table earlier [] []
  | cons {expr : Expr} {type : ShaderType} {exprs : List Expr} {types : List ShaderType}
    (hexpr : HasType table earlier expr type) (hexprs : HaveTypes table earlier exprs types) :
    HaveTypes table earlier (expr :: exprs) (type :: types)

end

variable {table table' : ParameterTable} {earlier earlier' : List Statement} {expr a b c : Expr}
  {type : ShaderType}

/-- A function that samples a texture takes one. -/
theorem Builtin.takesTexture_of_samples {function : Builtin} {value : ParameterValue}
    (h : function.samples value = true) : function.takesTexture = true := by
  cases function <;> first | rfl | simp [samples] at h

namespace HaveTypes

/-- The type of a single expression. -/
theorem one (ha : HasType table earlier a type) : HaveTypes table earlier [a] [type] :=
  .cons ha .nil

/-- The types of two expressions. -/
theorem two {u v : ShaderType} (ha : HasType table earlier a u) (hb : HasType table earlier b v) :
    HaveTypes table earlier [a, b] [u, v] := .cons ha (.one hb)

/-- The types of three expressions. -/
theorem three {u v w : ShaderType} (ha : HasType table earlier a u) (hb : HasType table earlier b v)
    (hc : HasType table earlier c w) : HaveTypes table earlier [a, b, c] [u, v, w] :=
  .cons ha (.two hb hc)

end HaveTypes

/-! ## More parameters and more statements -/

mutual

/-- A type is kept where more parameters are bound and more statements come before. -/
theorem HasType.mono (htable : ∀ name p, table.get? name = some p → table'.get? name = some p)
    (hearlier : earlier ⊆ earlier') :
    ∀ {expr : Expr} {type : ShaderType}, HasType table earlier expr type →
      HasType table' earlier' expr type
  | _, _, .bool v => .bool v
  | _, _, .int v => .int v
  | _, _, .float v => .float v
  | _, _, .param hp htype => .param (htable _ _ hp) htype
  | _, _, .var hs hname => .var (hearlier hs) hname
  | _, _, .input which => .input which
  | _, _, .construct hargs => .construct (hargs.mono htable hearlier)
  | _, _, .convert hconversion hexpr => .convert hconversion (hexpr.mono htable hearlier)
  | _, _, .swizzle hselection hexpr => .swizzle hselection (hexpr.mono htable hearlier)
  | _, _, .binary htype hlhs hrhs =>
    .binary htype (hlhs.mono htable hearlier) (hrhs.mono htable hearlier)
  | _, _, .call htexture hsignature hargs => .call htexture hsignature (hargs.mono htable hearlier)
  | _, _, .sample hp htexture hsignature hargs =>
    .sample (htable _ _ hp) htexture hsignature (hargs.mono htable hearlier)
  | _, _, .select hcond htrue hfalse => .select (hcond.mono htable hearlier)
    (htrue.mono htable hearlier) (hfalse.mono htable hearlier)

/-- More parameters and more earlier statements leave the types of a list as they are. -/
theorem HaveTypes.mono (htable : ∀ name p, table.get? name = some p → table'.get? name = some p)
    (hearlier : earlier ⊆ earlier') :
    ∀ {exprs : List Expr} {types : List ShaderType}, HaveTypes table earlier exprs types →
      HaveTypes table' earlier' exprs types
  | _, _, .nil => .nil
  | _, _, .cons hexpr hexprs => .cons (hexpr.mono htable hearlier) (hexprs.mono htable hearlier)

end

/-- More earlier statements leave the type of an expression as it is. -/
theorem HasType.weaken (h : HasType table earlier expr type) (more : List Statement) :
    HasType table (earlier ++ more) expr type :=
  h.mono (fun _ _ hp => hp) (List.subset_append_left earlier more)

/-! ## One type only -/

mutual

/-- Where no two statements have the same name, an expression has one type at most. -/
theorem HasType.unique (hd : (earlier.map Statement.name).Nodup) :
    ∀ {expr : Expr} {type type' : ShaderType}, HasType table earlier expr type →
      HasType table earlier expr type' → type = type'
  | .bool _, _, _, .bool _, .bool _ => rfl
  | .int _, _, _, .int _, .int _ => rfl
  | .float _, _, _, .float _, .float _ => rfl
  | .param _, _, _, .param hp htype, .param hp' htype' => by
    obtain rfl := Option.some.inj (hp.symm.trans hp')
    exact Option.some.inj (htype.symm.trans htype')
  | .var _, _, _, .var hs hname, .var hs' hname' => by
    rw [List.inj_on_of_nodup_map hd hs hs' (hname.trans hname'.symm)]
  | .input _, _, _, .input _, .input _ => rfl
  | .construct _ _, _, _, .construct _, .construct _ => rfl
  | .convert _ _, _, _, .convert _ _, .convert _ _ => rfl
  | .swizzle _ _, _, _, .swizzle hselection hexpr, .swizzle hselection' hexpr' => by
    obtain rfl := hexpr.unique hd hexpr'
    exact ShaderType.selections_unique _ _ hselection _ hselection' rfl
  | .binary _ _ _, _, _, .binary _ hlhs _, .binary _ hlhs' _ => hlhs.unique hd hlhs'
  | .call _ _, _, _, .call _ hsignature hargs, .call _ hsignature' hargs' => by
    have htypes := hargs.unique hd hargs'
    exact Builtin.signatures_unique _ _ hsignature _ hsignature' htypes
  | .call _ _, _, _, .call htexture _ _, .sample _ hsamples _ _ => by
    rw [Builtin.takesTexture_of_samples hsamples] at htexture
    exact absurd htexture (by decide)
  | .call _ _, _, _, .sample _ hsamples _ _, .call htexture _ _ => by
    rw [Builtin.takesTexture_of_samples hsamples] at htexture
    exact absurd htexture (by decide)
  | .call _ _, _, _, .sample _ _ hsignature hargs, .sample _ _ hsignature' hargs' => by
    have htypes := hargs.unique hd hargs'
    exact Builtin.signatures_unique _ _ hsignature _ hsignature' htypes
  | .select _ _ _, _, _, .select _ htrue _, .select _ htrue' _ => htrue.unique hd htrue'

/-- Where names are declared once, the expressions of a list have one type each at most. -/
theorem HaveTypes.unique (hd : (earlier.map Statement.name).Nodup) :
    ∀ {exprs : List Expr} {types types' : List ShaderType}, HaveTypes table earlier exprs types →
      HaveTypes table earlier exprs types' → types = types'
  | _, _, _, .nil, .nil => rfl
  | _, _, _, .cons hexpr hexprs, .cons hexpr' hexprs' => by
    rw [hexpr.unique hd hexpr', hexprs.unique hd hexprs']

end

/-! ## Parts of typed expressions -/

/-- Whether an expression can stand inside a typed one: it has a type, or it names a texture. -/
def Expr.Fits (table : ParameterTable) (earlier : List Statement) (part : Expr) : Prop :=
  (∃ type, HasType table earlier part type) ∨
    ∃ name p, part = .param name ∧ table.get? name = some p ∧ p.value.isTexture = true

/-- An expression with a type fits the table and the earlier statements. -/
theorem HasType.fits (h : HasType table earlier expr type) : expr.Fits table earlier :=
  Or.inl ⟨type, h⟩

/-- What is sampled is a texture. -/
theorem Builtin.isTexture_of_samples {function : Builtin} {value : ParameterValue}
    (h : function.samples value = true) : value.isTexture = true := by
  cases value with
  | lut | image => rfl
  | bool | int | float | vec3 => cases function <;> exact absurd h Bool.false_ne_true

mutual

/-- All parts of a typed expression fit. -/
theorem HasType.parts_fit : ∀ {expr : Expr} {type : ShaderType}, HasType table earlier expr type →
    ∀ part ∈ expr.parts, part.Fits table earlier
  | _, _, .bool v => List.forall_mem_singleton.mpr (HasType.bool v).fits
  | _, _, .int v => List.forall_mem_singleton.mpr (HasType.int v).fits
  | _, _, .float v => List.forall_mem_singleton.mpr (HasType.float v).fits
  | _, _, .param hp htype => List.forall_mem_singleton.mpr (HasType.param hp htype).fits
  | _, _, .var hs hname => List.forall_mem_singleton.mpr (HasType.var hs hname).fits
  | _, _, .input which => List.forall_mem_singleton.mpr (HasType.input which).fits
  | _, _, .construct hargs =>
    List.forall_mem_cons.mpr ⟨(HasType.construct hargs).fits, hargs.parts_fit⟩
  | _, _, .convert hconversion hexpr =>
    List.forall_mem_cons.mpr ⟨(HasType.convert hconversion hexpr).fits, hexpr.parts_fit⟩
  | _, _, .swizzle hselection hexpr =>
    List.forall_mem_cons.mpr ⟨(HasType.swizzle hselection hexpr).fits, hexpr.parts_fit⟩
  | _, _, .binary htype hlhs hrhs =>
    List.forall_mem_cons.mpr ⟨(HasType.binary htype hlhs hrhs).fits,
      List.forall_mem_append.mpr ⟨hlhs.parts_fit, hrhs.parts_fit⟩⟩
  | _, _, .call htexture hsignature hargs =>
    List.forall_mem_cons.mpr ⟨(HasType.call htexture hsignature hargs).fits, hargs.parts_fit⟩
  | _, _, .sample hp hsamples hsignature hargs =>
    List.forall_mem_cons.mpr ⟨(HasType.sample hp hsamples hsignature hargs).fits,
      List.forall_mem_cons.mpr
        ⟨Or.inr ⟨_, _, rfl, hp, Builtin.isTexture_of_samples hsamples⟩, hargs.parts_fit⟩⟩
  | _, _, .select hcond htrue hfalse =>
    List.forall_mem_cons.mpr ⟨(HasType.select hcond htrue hfalse).fits,
      List.forall_mem_append.mpr
        ⟨List.forall_mem_append.mpr ⟨hcond.parts_fit, htrue.parts_fit⟩, hfalse.parts_fit⟩⟩

/-- All parts of expressions with types fit. -/
theorem HaveTypes.parts_fit : ∀ {exprs : List Expr} {types : List ShaderType},
    HaveTypes table earlier exprs types →
      ∀ part ∈ Expr.partsOfAll exprs, part.Fits table earlier
  | _, _, .nil => List.forall_mem_nil _
  | _, _, .cons hexpr hexprs => List.forall_mem_append.mpr ⟨hexpr.parts_fit, hexprs.parts_fit⟩

end

/-- A variable inside a typed expression is one of an earlier statement. -/
theorem HasType.var_mem {name : String} (h : HasType table earlier expr type)
    (hname : .var name ∈ expr.parts) : name ∈ earlier.map Statement.name := by
  obtain ⟨_, hvar⟩ | ⟨_, _, hparam, -⟩ := h.parts_fit _ hname
  · cases hvar with
    | var hs hname => exact hname ▸ List.mem_map_of_mem hs
  · cases hparam

/-- A parameter inside a typed expression is in the table. -/
theorem HasType.param_mem {name : String} (h : HasType table earlier expr type)
    (hname : .param name ∈ expr.parts) : ∃ p, table.get? name = some p := by
  obtain ⟨_, hparam⟩ | ⟨_, p, hparam, hp, -⟩ := h.parts_fit _ hname
  · cases hparam with
    | param hp _ => exact ⟨_, hp⟩
  · cases hparam
    exact ⟨p, hp⟩

/-! ## Statements -/

/-- Whether each statement has the type it declares after `earlier` and those before it, with the
parameters from the table of its node. -/
def WellTyped (tables : NodeId → ParameterTable) : List Statement → List Statement → Prop
  | _, [] => True
  | earlier, s :: rest =>
    HasType (tables s.node) earlier s.expr s.type ∧ WellTyped tables (earlier ++ [s]) rest

namespace WellTyped

variable {tables : NodeId → ParameterTable}

/-- Two runs of statements are well typed one after the other, if the second is behind the first. -/
theorem append (first second : List Statement) (hfirst : WellTyped tables earlier first)
    (hsecond : WellTyped tables (earlier ++ first) second) :
    WellTyped tables earlier (first ++ second) := by
  induction first generalizing earlier with
  | nil => rwa [List.append_nil] at hsecond
  | cons s rest ih =>
    refine ⟨hfirst.1, ih hfirst.2 ?_⟩
    rwa [List.append_assoc, List.singleton_append]

/-- In a well-typed list every statement is typed by those before it. -/
theorem hasType {before after : List Statement} {s : Statement}
    (h : WellTyped tables earlier (before ++ s :: after)) :
    HasType (tables s.node) (earlier ++ before) s.expr s.type := by
  induction before generalizing earlier with
  | nil =>
    rw [List.append_nil]
    exact h.1
  | cons first before ih =>
    have hs := ih h.2
    rwa [List.append_assoc, List.singleton_append] at hs

end WellTyped

end ShaderGraph
