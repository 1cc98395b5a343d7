import ShaderGraph.Proofs.Dialect.Decoding
import ShaderGraph.Proofs.Refusal

/-!
# The text of an expression is unambiguous

Where names have the form that lowering gives them, no two expressions have the same text in a
language, except that a vector made of a single expression is written as a conversion is. Types play
no part in it: the brackets alone keep the operands, arguments and conditions of an expression
apart, also where an expression has no type at all.
-/

set_option autoImplicit false

namespace ShaderGraph

/-! ## Names -/

/-- Whether what an expression itself brings in cannot be taken for something else: a number is one,
a name is that of a parameter, an output or an intermediate value, whose tag is a word, and
components are letters. -/
def Expr.Legible : Expr → Prop
  | .float v => v.isNaN = false
  | .param name => ∃ slot, name = paramName slot
  | .var name => (∃ slot, name = varName slot) ∨
    ∃ node, ∃ tag : Word, name = tempName node tag.text
  | .swizzle _ components => ∀ c ∈ components.toList, c.isAlpha = true
  | _ => True

/-- Decimal digits do not end a word. -/
theorem unmarked_toDigits (n : Nat) : Unmarked (Nat.toDigits 10 n) := fun c hc =>
  isMark_of_isDigit (Binary32.isDigit_toDigits n c hc)

/-- The letter of a kind of name, the number of a node and what tells names of the node apart. -/
theorem unmarked_name {c : Char} (hc : isMark c = false) (node : NodeId) {rest : List Char}
    (hrest : Unmarked rest) :
    Unmarked (c :: '_' :: 'n' :: (Nat.toDigits 10 node ++ '_' :: rest)) := by
  have hunderscore : isMark '_' = false := by decide
  have hn : isMark 'n' = false := by decide
  simp only [Unmarked, List.forall_mem_cons, List.forall_mem_append]
  exact ⟨hc, hunderscore, hn, unmarked_toDigits node, hunderscore, hrest⟩

/-- The name of a parameter as a word. -/
def Word.param (slot : SlotId) : Word where
  text := paramName slot
  unmarked := by
    rw [toList_paramName]
    exact unmarked_name (by decide) slot.node (unmarked_toDigits slot.index)

/-- The name of an output or of an intermediate value is read as that variable. -/
theorem shows_var {name : String} (h : Expr.Legible (.var name)) : Shows name (.var name) := by
  rcases h with ⟨slot, rfl⟩ | ⟨node, tag, rfl⟩
  · have hchars := toList_varName slot
    let word : Word := ⟨varName slot, by
      rw [hchars]
      exact unmarked_name (by decide) slot.node (unmarked_toDigits slot.index)⟩
    exact word.shows (Word.expr?_var (Or.inl rfl) hchars)
  · have hchars := toList_tempName node tag.text
    let word : Word := ⟨tempName node tag.text, by
      rw [hchars]
      exact unmarked_name (by decide) node tag.unmarked⟩
    exact word.shows (Word.expr?_var (Or.inr rfl) hchars)

/-- A texture is called by its name. -/
theorem shows_texture (slot : SlotId) : Shows (paramName slot) (.param (paramName slot)) :=
  (Word.param slot).shows (Word.expr?_param (toList_paramName slot))

/-- The word in front of the members of the parameters. -/
def Word.params : Word := ⟨"params", by decide⟩

/-- Behind the word for the parameters, the name of a parameter is read as that parameter. -/
theorem Word.member?_param (slot : SlotId) :
    Word.params.member? (.param slot) = some (.param (paramName slot)) := by
  have hhead : (Word.param slot).chars.head?.any Char.isDigit = false := by
    rw [show (Word.param slot).chars = (paramName slot).toList from rfl, toList_paramName]
    rfl
  rw [member?, hhead]
  rfl

/-- Any other parameter is a member of the parameters. -/
theorem shows_member (slot : SlotId) :
    Shows ("params." ++ paramName slot) (.param (paramName slot)) := by
  refine ⟨.word .params [.param slot], ?_, ?_⟩
  · simp [Phrase.chars, selectionChars, Word.chars, Word.params, Word.param]
  · simp [Phrase.read?, Word.read?, Word.member?_param, Expr.selected]

/-- A Boolean is compared with nought where there are no Booleans among the parameters. -/
theorem shows_flag (slot : SlotId) :
    Shows ("(params." ++ paramName slot ++ " != 0u)") (.param (paramName slot)) := by
  let nought : Phrase := .word ⟨"0u", by decide⟩ []
  have hnought : nought.read? = none := rfl
  refine ⟨.group .empty (.word .params [.param slot])
    (.cons (.spaced ⟨"!=", by decide⟩) nought .nil) [], ?_, ?_⟩
  · simp [Phrase.chars, Phrases.chars, Separator.chars, selectionChars, Word.chars, Word.params,
      Word.param, Word.empty, nought]
  · have hmember : (Phrase.word .params [.param slot]).read? = some (.param (paramName slot)) := by
      simp [Phrase.read?, Word.read?, Word.member?_param, Expr.selected]
    rw [Phrase.read?, hmember, Phrases.reads, hnought]
    rfl

/-! ## Languages -/

/-- Whether the text of each form of expression is read as that form, given that the texts of its
parts are read as they should. -/
structure Dialect.Legible (d : Dialect) : Prop where
  parameter : ∀ (p : Parameter) (slot : SlotId), p.name = paramName slot →
    Shows (d.parameter p) (.param p.name)
  input : ∀ which, Shows (d.input which) (.input which)
  apply : ∀ type {texts : List String} {args : List Expr}, List.Forall₂ Shows texts args →
    Shows (d.typeName type ++ "(" ++ ", ".intercalate texts ++ ")") (.applied type args)
  call : ∀ function {texts : List String} {args : List Expr}, List.Forall₂ Shows texts args →
    Shows (d.call function texts) (.call function args)
  select : ∀ {condition left right : String} {cond onTrue onFalse : Expr}, Shows condition cond →
    Shows left onTrue → Shows right onFalse →
    Shows (d.select condition left right) (.select cond onTrue onFalse)

namespace Dialect.Legible

variable {d : Dialect} {table : ParameterTable}

mutual

/-- **The text of an expression is read as the expression**, up to what is written alike. -/
theorem shows (hd : d.Legible) : (expr : Expr) → (∀ part ∈ expr.parts, part.Legible) →
    {text : String} → d.writeExpr table expr = .ok text → Shows text expr.merged
  | .bool v, _, _, h => by
    obtain rfl := Except.ok.inj h
    exact shows_bool v
  | .int v, _, _, h => by
    obtain rfl := Except.ok.inj h
    exact shows_int v
  | .float v, hparts, _, h => by
    obtain rfl := Except.ok.inj h
    exact shows_float (hparts _ List.mem_cons_self)
  | .param name, hparts, _, h => by
    obtain ⟨slot, hslot⟩ : Expr.Legible (.param name) := hparts _ List.mem_cons_self
    rw [Dialect.writeExpr] at h
    cases hp : table.get? name with
    | none => simp [hp] at h
    | some p =>
      rw [hp] at h
      obtain rfl := Except.ok.inj h
      obtain rfl : p.name = name := by simpa using List.find?_some hp
      exact hd.parameter p slot hslot
  | .var name, hparts, _, h => by
    obtain rfl := Except.ok.inj h
    exact shows_var (hparts _ List.mem_cons_self)
  | .input which, _, _, h => by
    obtain rfl := Except.ok.inj h
    exact hd.input which
  | .construct type args, hparts, _, h => by
    obtain ⟨texts, htexts, h⟩ := bind_eq_ok_iff.mp h
    obtain rfl := Except.ok.inj h
    exact hd.apply type (hd.showsAll args (List.forall_mem_cons.mp hparts).2 htexts)
  | .convert type expr, hparts, _, h => by
    obtain ⟨text, htext, h⟩ := bind_eq_ok_iff.mp h
    obtain rfl := Except.ok.inj h
    have hexpr := hd.shows expr (List.forall_mem_cons.mp hparts).2 htext
    have happlied := hd.apply type (.cons hexpr .nil)
    rwa [String.intercalate_singleton] at happlied
  | .swizzle expr components, hparts, _, h => by
    obtain ⟨text, htext, h⟩ := bind_eq_ok_iff.mp h
    obtain rfl := Except.ok.inj h
    obtain ⟨hletters, hparts⟩ := List.forall_mem_cons.mp hparts
    exact (hd.shows expr hparts htext).swizzle hletters
  | .binary op lhs rhs, hparts, _, h => by
    obtain ⟨left, hleft, h⟩ := bind_eq_ok_iff.mp h
    obtain ⟨right, hright, h⟩ := bind_eq_ok_iff.mp h
    obtain rfl := Except.ok.inj h
    obtain ⟨hlhs, hrhs⟩ := List.forall_mem_append.mp (List.forall_mem_cons.mp hparts).2
    exact (hd.shows lhs hlhs hleft).binary (hd.shows rhs hrhs hright) op
  | .call function args, hparts, _, h => by
    obtain ⟨texts, htexts, h⟩ := bind_eq_ok_iff.mp h
    obtain rfl := Except.ok.inj h
    exact hd.call function (hd.showsAll args (List.forall_mem_cons.mp hparts).2 htexts)
  | .select cond onTrue onFalse, hparts, _, h => by
    obtain ⟨condition, hcondition, h⟩ := bind_eq_ok_iff.mp h
    obtain ⟨left, hleft, h⟩ := bind_eq_ok_iff.mp h
    obtain ⟨right, hright, h⟩ := bind_eq_ok_iff.mp h
    obtain rfl := Except.ok.inj h
    obtain ⟨hfirst, hfalse⟩ := List.forall_mem_append.mp (List.forall_mem_cons.mp hparts).2
    obtain ⟨hcond, htrue⟩ := List.forall_mem_append.mp hfirst
    exact hd.select (hd.shows cond hcond hcondition) (hd.shows onTrue htrue hleft)
      (hd.shows onFalse hfalse hright)

/-- The texts of legible expressions are read as these expressions, one by one. -/
theorem showsAll (hd : d.Legible) : (exprs : List Expr) →
    (∀ part ∈ Expr.partsOfAll exprs, part.Legible) → {texts : List String} →
    d.writeExprs table exprs = .ok texts → List.Forall₂ Shows texts (Expr.mergedAll exprs)
  | [], _, _, h => by
    obtain rfl := Except.ok.inj h
    exact .nil
  | expr :: rest, hparts, _, h => by
    obtain ⟨text, htext, h⟩ := bind_eq_ok_iff.mp h
    obtain ⟨texts, htexts, h⟩ := bind_eq_ok_iff.mp h
    obtain rfl := Except.ok.inj h
    obtain ⟨hexpr, hrest⟩ := List.forall_mem_append.mp hparts
    exact .cons (hd.shows expr hexpr htext) (hd.showsAll rest hrest htexts)

end

end Dialect.Legible

/-! ## The names of types and functions -/

namespace ShaderType

/-- The name of a type in either language. -/
def IsName (name : String) (type : ShaderType) : Prop :=
  name = Wgsl.typeName type ∨ name = Glsl.typeName type

/-- A type is told from the functions and from the words for a choice. -/
theorem IsName.shows_apply {name : String} {type : ShaderType} (h : IsName name type)
    {texts : List String} {args : List Expr} (hargs : List.Forall₂ Shows texts args) :
    Shows (name ++ "(" ++ ", ".intercalate texts ++ ")") (.applied type args) := by
  have hword : Unmarked name.toList := by
    rcases h with rfl | rfl <;> cases type <;> decide
  have hne : name ≠ "" := by
    rcases h with rfl | rfl <;> cases type <;> decide
  refine ShaderGraph.shows_apply hword hne hargs ?_
  rcases h with rfl | rfl <;> cases type <;> rfl

end ShaderType

/-- A function applied to texts is read as a call on what the texts show. -/
theorem Builtin.shows_call (function : Builtin) {texts : List String} {args : List Expr}
    (hargs : List.Forall₂ Shows texts args) :
    Shows (function.functionName ++ "(" ++ ", ".intercalate texts ++ ")")
      (.call function args) := by
  have hword : Unmarked function.functionName.toList := by cases function <;> decide
  have hne : function.functionName ≠ "" := by cases function <;> decide
  refine shows_apply hword hne hargs ?_
  cases function <;> rfl

/-- Every form of expression is legible in WGSL. -/
theorem Wgsl.dialect_legible : Wgsl.dialect.Legible where
  parameter p slot hname := by
    obtain ⟨name, slot', value⟩ := p
    obtain rfl : name = paramName slot := hname
    cases value with
    | bool _ => exact shows_flag slot
    | lut _ | image _ => exact shows_texture slot
    | int _ | float _ | vec3 _ => exact shows_member slot
  input which := by
    cases which with
    | generated => exact ⟨.word ⟨"in", by decide⟩ [⟨"generated", by decide⟩], rfl, rfl⟩
    | normal => exact ⟨.word ⟨"in", by decide⟩ [⟨"normal", by decide⟩], rfl, rfl⟩
    | uv => exact ⟨.word ⟨"in", by decide⟩ [⟨"uv", by decide⟩], rfl, rfl⟩
  apply type _ _ hargs := ShaderType.IsName.shows_apply (Or.inl rfl) hargs
  call function _ _ hargs := function.shows_call hargs
  select {condition left right} _ _ _ hcond htrue hfalse := by
    have htext : "select(" ++ right ++ ", " ++ left ++ ", " ++ condition ++ ")" =
        "select" ++ "(" ++ ", ".intercalate [right, left, condition] ++ ")" := by
      simp [← String.toList_inj]
    change Shows ("select(" ++ right ++ ", " ++ left ++ ", " ++ condition ++ ")") _
    rw [htext]
    exact shows_apply (by decide) (by decide) (.cons hfalse (.cons htrue (.cons hcond .nil))) rfl

/-- Every form of expression is legible in GLSL. -/
theorem Glsl.dialect_legible : Glsl.dialect.Legible where
  parameter p slot hname := by
    obtain ⟨name, slot', value⟩ := p
    obtain rfl : name = paramName slot := hname
    cases value with
    | lut _ | image _ => exact shows_texture slot
    | bool _ | int _ | float _ | vec3 _ => exact shows_member slot
  input which := by
    cases which with
    | generated => exact ⟨.word ⟨"in_generated", by decide⟩ [], rfl, rfl⟩
    | normal => exact ⟨.word ⟨"in_normal", by decide⟩ [], rfl, rfl⟩
    | uv => exact ⟨.word ⟨"in_uv", by decide⟩ [], rfl, rfl⟩
  apply type _ _ hargs := ShaderType.IsName.shows_apply (Or.inr rfl) hargs
  call function texts args hargs := by
    by_cases hfunction : function = .saturate
    · subst hfunction
      -- the bounds are read as two more arguments, which clamping leaves out
      have hzero : Shows "0.0" (.float 0.0) := ⟨.word ⟨"0", by decide⟩ [⟨"0", by decide⟩], rfl, rfl⟩
      have hone : Shows "1.0" (.float 1.0) := ⟨.word ⟨"1", by decide⟩ [⟨"0", by decide⟩], rfl, rfl⟩
      have hclamp : appliedTo? "clamp" (args ++ [.float 0.0, .float 1.0]) =
          some (.call .saturate args) := by
        simp [appliedTo?]
      have hshows := shows_appliedTo (by decide) (by decide) hargs (.cons hzero (.cons hone .nil))
        hclamp
      have htext : Glsl.call .saturate texts = "clamp" ++ "(" ++ ", ".intercalate texts ++
          String.join (["0.0", "1.0"].map (", " ++ ·)) ++ ")" := by
        simp [Glsl.call, ← String.toList_inj]
      change Shows (Glsl.call .saturate texts) _
      rwa [htext]
    · have htext : Glsl.call function texts =
          function.functionName ++ "(" ++ ", ".intercalate texts ++ ")" := by
        cases function with
        | saturate => exact absurd rfl hfunction
        | _ => rfl
      change Shows (Glsl.call function texts) _
      rw [htext]
      exact function.shows_call hargs
  select hcond htrue hfalse := hcond.conditional htrue hfalse

/-- Every form of expression is legible in both languages. -/
theorem Backend.dialect_legible (backend : Backend) : backend.dialect.Legible := by
  cases backend with
  | wgsl => exact Wgsl.dialect_legible
  | glsl => exact Glsl.dialect_legible

/-! ## Equal texts -/

namespace Dialect

variable (d : Dialect) (table : ParameterTable)

/-- A vector made of a single expression is written as a conversion is. -/
theorem writeExpr_applied (type : ShaderType) (args : List Expr) :
    d.writeExpr table (.applied type args) = d.writeExpr table (.construct type args) := by
  match args with
  | [] => rfl
  | [expr] =>
    rw [Expr.applied, writeExpr, writeExpr, writeExprs, writeExprs]
    cases d.writeExpr table expr with
    | error _ => rfl
    | ok text =>
      change Except.ok (d.typeName type ++ "(" ++ text ++ ")") =
        Except.ok (d.typeName type ++ "(" ++ ", ".intercalate [text] ++ ")")
      rw [String.intercalate_singleton]
  | _ :: _ :: _ => rfl

mutual

/-- Taking vectors of one expression as conversions does not change the text. -/
theorem writeExpr_merged : (expr : Expr) → d.writeExpr table expr.merged = d.writeExpr table expr
  | .bool _ | .int _ | .float _ | .param _ | .var _ | .input _ => rfl
  | .construct type args => by
    rw [Expr.merged, writeExpr_applied, writeExpr, writeExpr, writeExprs_mergedAll args]
  | .convert type expr => by
    rw [Expr.merged, writeExpr, writeExpr, writeExpr_merged expr]
  | .swizzle expr components => by
    rw [Expr.merged, writeExpr, writeExpr, writeExpr_merged expr]
  | .binary op lhs rhs => by
    rw [Expr.merged, writeExpr, writeExpr, writeExpr_merged lhs, writeExpr_merged rhs]
  | .call function args => by
    rw [Expr.merged, writeExpr, writeExpr, writeExprs_mergedAll args]
  | .select cond onTrue onFalse => by
    rw [Expr.merged, writeExpr, writeExpr, writeExpr_merged cond, writeExpr_merged onTrue,
      writeExpr_merged onFalse]

/-- Taking vectors of one expression as conversions does not change the texts of a list. -/
theorem writeExprs_mergedAll : (exprs : List Expr) →
    d.writeExprs table (Expr.mergedAll exprs) = d.writeExprs table exprs
  | [] => rfl
  | expr :: rest => by
    rw [Expr.mergedAll, writeExprs, writeExprs, writeExpr_merged expr, writeExprs_mergedAll rest]

end

end Dialect

/-- **An expression is the only one with its text**, up to vectors made of a single expression,
which are written as conversions. -/
theorem Backend.writeExpr_unambiguous (backend : Backend) (table : ParameterTable) {a b : Expr}
    (ha : ∀ part ∈ a.parts, part.Legible) (hb : ∀ part ∈ b.parts, part.Legible) {text : String}
    (h : backend.dialect.writeExpr table a = .ok text) :
    backend.dialect.writeExpr table b = .ok text ↔ a.merged = b.merged := by
  have hlegible := backend.dialect_legible
  constructor
  · intro hsame
    exact (hlegible.shows a ha h).unique (hlegible.shows b hb hsame)
  · intro hmerged
    rw [← Dialect.writeExpr_merged, ← hmerged, Dialect.writeExpr_merged, h]

/-- A shade with every kind of bracket, in which `widen` makes a vector of a number. -/
def sampleShade (widen : Expr → Expr) : Expr :=
  let strength := .call .saturate [.param (paramName ⟨3, 1⟩)]
  let chosen := .select (.bool true) (.swizzle (.input .uv) "x") (.float (-2.5e-7))
  .binary .mul (widen (.binary .sub strength chosen)) (.call .noiseColor
    [.var (tempName 2 "raw"), .float 0.5, .int (-5)])

/-- The parameter of the shade. -/
def sampleParameters : ParameterTable := ⟨[⟨paramName ⟨3, 1⟩, ⟨3, 1⟩, .float 1.0⟩]⟩

/-- The shade is legible whatever makes the vector, if that is. -/
theorem sampleShade_legible {widen : Expr → Expr}
    (hparts : ∀ expr, (widen expr).parts = widen expr :: expr.parts)
    (hwiden : ∀ expr, (widen expr).Legible) :
    ∀ part ∈ (sampleShade widen).parts, part.Legible := by
  have hname : Expr.Legible (.param (paramName ⟨3, 1⟩)) := ⟨_, rfl⟩
  have hvar : Expr.Legible (.var (tempName 2 "raw")) := Or.inr ⟨2, ⟨"raw", by decide⟩, rfl⟩
  have hsmall : Expr.Legible (.float (-2.5e-7)) :=
    show Binary32.isNaN (-2.5e-7) = false by decide +kernel
  have hhalf : Expr.Legible (.float 0.5) := show Binary32.isNaN 0.5 = false by decide +kernel
  simp only [sampleShade, Expr.parts, Expr.partsOfAll, hparts, List.forall_mem_cons,
    List.forall_mem_append, hwiden, hname, hvar, hsmall, hhalf]
  simp [Expr.Legible]

/-- The same shade, widened by a conversion and by a vector made of one number. -/
theorem Backend.writeExpr_unambiguous_widened :
    let converted := sampleShade (.convert .vec3)
    let made := sampleShade fun expr => .construct .vec3 [expr]
    let text := "(vec3((clamp(params.p_n3_1, 0.0, 1.0) - (true ? in_uv.x : -2.5e-7)))" ++
      " * ns_noise_color(t_n2_raw, 0.5, (-5)))"
    (∀ part ∈ converted.parts, part.Legible) ∧ (∀ part ∈ made.parts, part.Legible) ∧
      Glsl.dialect.writeExpr sampleParameters converted = .ok text ∧
      (Glsl.dialect.writeExpr sampleParameters made = .ok text ↔
        converted.merged = made.merged) := by
  intro converted made text
  have hconverted : ∀ part ∈ converted.parts, part.Legible :=
    sampleShade_legible (fun _ => rfl) fun _ => trivial
  have hmade : ∀ part ∈ made.parts, part.Legible :=
    sampleShade_legible (fun expr => by simp [Expr.parts, Expr.partsOfAll]) fun _ => trivial
  have htext : Glsl.dialect.writeExpr sampleParameters converted = .ok text := by decide +kernel
  exact ⟨hconverted, hmade, htext,
    writeExpr_unambiguous .glsl sampleParameters hconverted hmade htext⟩

end ShaderGraph
