import ShaderGraph.Proofs.Lowering.Explicit
import ShaderGraph.Proofs.Program.Typing

/-!
# Types of the statements of one node

Every slot type that makes a shader value has a shader type, and a conversion leads from a type to
any that it can feed. If each input slot of a node reads an expression of its type, or a texture,
then the statements of the node have the types that they declare, whatever its type and options are,
and they declare each output slot with its type.
-/

set_option autoImplicit false

namespace ShaderGraph

variable {table : ParameterTable} {tables : NodeId → ParameterTable}
  {earlier : List Statement} {a b : Expr} {type : ShaderType}

namespace SlotType

/-- The type that values of a slot have in a shader; options and textures have none. -/
def shaderType? : SlotType → Option ShaderType
  | bool => some .bool
  | int => some .int
  | float => some .float
  | vector | color => some .vec3
  | enum | colorRamp | rgbCurve | vectorCurve | image => none

/-- Whether a function samples the values of a slot. -/
def sampledBy : SlotType → Builtin → Bool
  | colorRamp, .sampleRamp | rgbCurve, .rgbCurves | vectorCurve, .vectorCurves => true
  | image, .imageLinear | image, .imageClosest => true
  | _, _ => false

end SlotType

/-- Whether an expression can be read from a slot of a type: it has the type of the slot's values,
or names a texture. -/
structure Readable (table : ParameterTable) (earlier : List Statement) (slot : SlotType)
    (expr : Expr) : Prop where
  value : ∀ type, slot.shaderType? = some type → HasType table earlier expr type
  texture : ∀ function, slot.sampledBy function = true →
    ∃ name p, expr = .param name ∧ table.get? name = some p ∧ function.samples p.value = true

/-! ## Operations -/

namespace HasType

/-- A vector of one literal in all components has the type of vectors. -/
theorem splat (v : Binary32) : HasType table earlier (.splat v) .vec3 :=
  .convert (show (ShaderType.float, ShaderType.vec3) ∈ ShaderType.conversions by decide) (.float v)

/-- The variable of an output that has just been declared. -/
theorem output {node : NodeId} {index : Nat} :
    HasType table (earlier ++ [Template.output node index type a]) (.var (varName ⟨node, index⟩))
      type :=
  .var (List.mem_append_right _ List.mem_cons_self) rfl

/-- The variable of an intermediate value that has just been declared. -/
theorem temp {node : NodeId} {tag : String} :
    HasType table (earlier ++ [Template.temp node tag type a]) (.var (tempName node tag)) type :=
  .var (List.mem_append_right _ List.mem_cons_self) rfl

/-- A conversion between slot types, of which one can feed the other, has the type of the other. -/
theorem convertExpr {source dest : SlotType} {u v : ShaderType} (ha : HasType table earlier a u)
    (hsource : source.shaderType? = some u) (hdest : dest.shaderType? = some v)
    (hfeed : source.canFeed dest = true) :
    HasType table earlier (convertExpr a source dest) v := by
  have hwiden : ∀ {expr : Expr}, HasType table earlier expr .float →
      HasType table earlier (.convert .vec3 expr) .vec3 := fun hexpr => .convert (by decide) hexpr
  cases source <;> cases dest <;> try exact absurd hfeed (by decide)
  all_goals
    obtain rfl := Option.some.inj hsource
    obtain rfl := Option.some.inj hdest
  case int.float => exact .convert (by decide) ha
  case float.int => exact .convert (by decide) ha
  case float.vector | float.color => exact hwiden ha
  case int.vector | int.color => exact hwiden (.convert (by decide) ha)
  case vector.float | color.float => exact .call rfl (by decide) (.one ha)
  all_goals exact ha

/-- Every operation makes a number of two numbers. -/
theorem math (operation : Nat) (ha : HasType table earlier a .float)
    (hb : HasType table earlier b .float) :
    HasType table earlier (Template.math operation a b) .float := by
  unfold Template.math
  split
  case h_1 | h_2 | h_3 | h_10 => exact .binary (by decide) ha hb
  case h_4 | h_5 | h_6 => exact .call rfl (by decide) (.two ha hb)
  case h_7 | h_8 | h_9 => exact .call rfl (by decide) (.one ha)

/-- Every operation makes a vector and a number of two vectors. -/
theorem vectorMath (operation : Nat) (ha : HasType table earlier a .vec3)
    (hb : HasType table earlier b .vec3) :
    HasType table earlier (Template.vectorMath operation a b).1 .vec3 ∧
      HasType table earlier (Template.vectorMath operation a b).2 .float := by
  unfold Template.vectorMath
  split
  case h_1 | h_2 | h_7 => exact ⟨.binary (by decide) ha hb, .float _⟩
  case h_3 => exact ⟨.call rfl (by decide) (.two ha hb), .float _⟩
  case h_4 => exact ⟨splat _, .call rfl (by decide) (.two ha hb)⟩
  case h_5 => exact ⟨.call rfl (by decide) (.one ha), .float _⟩
  case h_6 => exact ⟨splat _, .call rfl (by decide) (.one ha)⟩

/-- Every mode of blending makes a color of two colors. -/
theorem blended (mode : Nat) (ha : HasType table earlier a .vec3)
    (hb : HasType table earlier b .vec3) :
    HasType table earlier (Template.blended mode a b) .vec3 := by
  have hvec : ShaderType.vec3 ∈ ShaderType.operands := by decide
  have inverse : ∀ {x : Expr}, HasType table earlier x .vec3 →
      HasType table earlier (.binary .sub (.splat 1.0) x) .vec3 :=
    fun hx => .binary hvec (splat _) hx
  unfold Template.blended
  split
  case h_1 | h_2 | h_4 => exact .binary hvec ha hb
  case h_3 => exact inverse (.binary hvec (inverse ha) (inverse hb))
  case h_5 => exact .call rfl (by decide) (.one (.binary hvec ha hb))
  case h_6 => exact hb

end HasType

/-- A function that samples a slot's values takes what is read from the slot. -/
theorem Readable.sample {slot : SlotType} {image : Expr} {function : Builtin} {args : List Expr}
    {types : List ShaderType} (himage : Readable table earlier slot image)
    (hslot : slot.sampledBy function = true) (hsignature : (types, type) ∈ function.signatures)
    (hargs : HaveTypes table earlier args types) :
    HasType table earlier (.call function (image :: args)) type := by
  obtain ⟨name, p, rfl, hp, hsamples⟩ := himage.texture function hslot
  exact .sample hp hsamples hsignature hargs

/-! ## Templates -/

namespace WellTyped

variable {node : NodeId} {index : Nat} {rest : List Statement}

/-- An output declared with the type of its expression keeps the rest well typed. -/
theorem output (hexpr : HasType (tables node) earlier a type)
    (hrest : WellTyped tables (earlier ++ [Template.output node index type a]) rest) :
    WellTyped tables earlier (Template.output node index type a :: rest) := ⟨hexpr, hrest⟩

/-- An intermediate value declared with the type of its expression keeps the rest well typed. -/
theorem temp {tag : String} (hexpr : HasType (tables node) earlier a type)
    (hrest : WellTyped tables (earlier ++ [Template.temp node tag type a]) rest) :
    WellTyped tables earlier (Template.temp node tag type a :: rest) := ⟨hexpr, hrest⟩

/-- A clamped value has the type of the value. -/
theorem clamped {clamp value : Expr}
    (htype : ([type], type) ∈ Builtin.saturate.signatures)
    (hclamp : HasType (tables node) earlier clamp .bool)
    (hvalue : HasType (tables node) earlier value type) :
    WellTyped tables earlier (Template.clamped node index type clamp value) := by
  refine .temp hvalue (.output ?_ trivial)
  exact .select (hclamp.weaken _) (.call rfl htype (.one .temp)) .temp

/-- A sample has four components, its color three and its alpha one. -/
theorem sampled {tag : String} {sample : Expr}
    (hsample : HasType (tables node) earlier sample .vec4) :
    WellTyped tables earlier (Template.sampled node index tag sample) := by
  refine .temp hsample (.output ?_ (.output ?_ trivial))
  · exact .swizzle (by decide) .temp
  · exact .swizzle (by decide) (HasType.temp.weaken _)

/-- **The statements of a node are well typed** if each input slot reads what can be read from a
slot of its type. -/
theorem statements {nodeType : NodeType} {option : Nat → Nat} {read : Nat → Expr}
    (hread : ∀ index decl, nodeType.slots[index]? = some decl → decl.isInput = true →
      Readable (tables node) earlier decl.slotType (read index)) :
    WellTyped tables earlier
      (Template.statements node nodeType option (nodeType.inputIndices.map read)) := by
  cases nodeType with
  | value | rgb | vector => exact .output ((hread 0 _ rfl rfl).value _ rfl) trivial
  | textureCoordinate => exact .output (.input _) (.output (.input _) (.output (.input _) trivial))
  | math =>
    have hclamp := (hread 1 _ rfl rfl).value _ rfl
    have ha := (hread 2 _ rfl rfl).value _ rfl
    have hb := (hread 3 _ rfl rfl).value _ rfl
    exact clamped (by decide) hclamp (.math (option 0) ha hb)
  | vectorMath =>
    have ha := (hread 1 _ rfl rfl).value _ rfl
    have hb := (hread 2 _ rfl rfl).value _ rfl
    obtain ⟨hvector, hvalue⟩ := HasType.vectorMath (option 0) ha hb
    exact .output hvector (.output (hvalue.weaken _) trivial)
  | mixRgb =>
    have hclamp := (hread 1 _ rfl rfl).value _ rfl
    have hfac := (hread 2 _ rfl rfl).value _ rfl
    have ha := (hread 3 _ rfl rfl).value _ rfl
    have hb := (hread 4 _ rfl rfl).value _ rfl
    have hblended := HasType.blended (option 0) ha hb
    exact clamped (by decide) hclamp (.call rfl (by decide) (.three ha hblended hfac))
  | invert =>
    have hfac := (hread 0 _ rfl rfl).value _ rfl
    have hcolor := (hread 1 _ rfl rfl).value _ rfl
    have hinverse : HasType (tables node) earlier (.binary .sub (.splat 1.0) (read 1)) .vec3 :=
      .binary (by decide) (.splat 1.0) hcolor
    exact .output (.call rfl (by decide) (.three hcolor hinverse hfac)) trivial
  | separateRgb =>
    have hcolor := (hread 0 _ rfl rfl).value _ rfl
    refine .output ?_ (.output ?_ (.output ?_ trivial))
    · exact .swizzle (by decide) hcolor
    · exact .swizzle (by decide) (hcolor.weaken _)
    · exact .swizzle (by decide) ((hcolor.weaken _).weaken _)
  | combineRgb =>
    have hr := (hread 0 _ rfl rfl).value _ rfl
    have hg := (hread 1 _ rfl rfl).value _ rfl
    have hb := (hread 2 _ rfl rfl).value _ rfl
    exact .output (.construct (.three hr hg hb)) trivial
  | colorRamp =>
    have hfac := (hread 1 _ rfl rfl).value _ rfl
    exact sampled ((hread 0 _ rfl rfl).sample rfl (by decide) (.one hfac))
  | rgbCurves | vectorCurves =>
    have hfac := (hread 1 _ rfl rfl).value _ rfl
    have hcolor := (hread 2 _ rfl rfl).value _ rfl
    exact .output ((hread 0 _ rfl rfl).sample rfl (by decide) (.two hcolor hfac)) trivial
  | imageTexture =>
    have huv := (hread 2 _ rfl rfl).value _ rfl
    have himage := hread 0 _ rfl rfl
    refine sampled ?_
    by_cases hfilter : option 1 = 1
    · rw [if_pos hfilter]
      exact himage.sample rfl (by decide) (.one huv)
    · rw [if_neg hfilter]
      exact himage.sample rfl (by decide) (.one huv)
  | noiseTexture =>
    have hposition := (hread 0 _ rfl rfl).value _ rfl
    have hscale := (hread 1 _ rfl rfl).value _ rfl
    have hoctaves := (hread 2 _ rfl rfl).value _ rfl
    have hargs := HaveTypes.three hposition hscale hoctaves
    refine .output ?_ (.output ?_ trivial)
    · exact .call rfl (by decide) hargs
    · exact .call rfl (by decide) (hargs.mono (fun _ _ hp => hp) (List.subset_append_left _ _))
  | checkerTexture =>
    have hposition := (hread 0 _ rfl rfl).value _ rfl
    have hfirst := (hread 1 _ rfl rfl).value _ rfl
    have hsecond := (hread 2 _ rfl rfl).value _ rfl
    have hscale := (hread 3 _ rfl rfl).value _ rfl
    refine .output ?_ (.output ?_ trivial)
    · exact .call rfl (by decide) (.two hposition hscale)
    -- the color reads the mask, which has just been declared
    · exact .call rfl (by decide) (.three (hsecond.weaken _) (hfirst.weaken _) .output)
  | output => exact trivial

end WellTyped

/-- Whether a statement declares the variable of an output slot with the type of its values. -/
def Declares (statements : List Statement) (slot : SlotId) (slotType : SlotType) : Prop :=
  ∃ s ∈ statements, s.name = varName slot ∧ slotType.shaderType? = some s.type

/-- The statements of a node declare all its output slots. -/
theorem Template.declares_outputs (node : NodeId) (nodeType : NodeType) (option : Nat → Nat)
    (read : Nat → Expr) : ∀ index ∈ nodeType.outputIndices,
      ∃ decl, nodeType.slots[index]? = some decl ∧
        Declares (Template.statements node nodeType option (nodeType.inputIndices.map read))
          ⟨node, index⟩ decl.slotType := by
  have first : ∀ {s : Statement} {rest : List Statement}, s ∈ s :: rest := List.mem_cons_self
  have second : ∀ {s t : Statement} {rest : List Statement}, t ∈ s :: t :: rest := by simp
  have third : ∀ {s t u : Statement}, u ∈ [s, t, u] := by simp
  cases nodeType with
  | value | rgb | vector => exact List.forall_mem_singleton.mpr ⟨_, rfl, _, first, rfl, rfl⟩
  | textureCoordinate | separateRgb =>
    refine List.forall_mem_cons.mpr ⟨?_, List.forall_mem_cons.mpr ⟨?_,
      List.forall_mem_singleton.mpr ?_⟩⟩
    · exact ⟨_, rfl, _, first, rfl, rfl⟩
    · exact ⟨_, rfl, _, second, rfl, rfl⟩
    · exact ⟨_, rfl, _, third, rfl, rfl⟩
  | math | mixRgb => exact List.forall_mem_singleton.mpr ⟨_, rfl, _, second, rfl, rfl⟩
  | invert | combineRgb | rgbCurves | vectorCurves =>
    exact List.forall_mem_singleton.mpr ⟨_, rfl, _, first, rfl, rfl⟩
  | vectorMath | noiseTexture =>
    refine List.forall_mem_cons.mpr ⟨?_, List.forall_mem_singleton.mpr ?_⟩
    · exact ⟨_, rfl, _, first, rfl, rfl⟩
    · exact ⟨_, rfl, _, second, rfl, rfl⟩
  | colorRamp | imageTexture =>
    refine List.forall_mem_cons.mpr ⟨?_, List.forall_mem_singleton.mpr ?_⟩
    · exact ⟨_, rfl, _, second, rfl, rfl⟩
    · exact ⟨_, rfl, _, third, rfl, rfl⟩
  | checkerTexture =>
    -- the mask comes first, for the color reads it
    refine List.forall_mem_cons.mpr ⟨?_, List.forall_mem_singleton.mpr ?_⟩
    · exact ⟨_, rfl, _, second, rfl, rfl⟩
    · exact ⟨_, rfl, _, first, rfl, rfl⟩
  | output => exact List.forall_mem_nil _

end ShaderGraph
