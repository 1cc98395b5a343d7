import ShaderGraph.Proofs.Notation.Number
import ShaderGraph.Proofs.Program.Typing
import ShaderGraph.Proofs.Refusal
import ShaderGraph.Backend

/-!
# The characters of an expression

Where names are plain, an expression is written with letters, digits and a few marks only, whatever
the dialect, the parameters and the numbers in it. So no text of an expression breaks a line, ends a
statement or opens a block.
-/

set_option autoImplicit false

namespace ShaderGraph

/-- Whether a character can stand in the text of an expression. -/
def isPlain (c : Char) : Bool := c.isAlphanum || "_.,:()<>=!?+-*/ ".toList.contains c

/-- Whether a text has only characters that can stand in an expression. -/
def Plain (text : String) : Prop := ∀ c ∈ text.toList, isPlain c = true

/-- The characters of a text are checked one by one. -/
instance (text : String) : Decidable (Plain text) := List.decidableBAll _ _

namespace Plain

variable {a b : String}

/-- Two plain texts make a plain text. -/
theorem append (ha : Plain a) (hb : Plain b) : Plain (a ++ b) := by
  intro c hc
  rw [String.toList_append] at hc
  rcases List.mem_append.mp hc with hc | hc
  · exact ha c hc
  · exact hb c hc

/-- Digits are plain. -/
theorem ofList {chars : List Char} (h : ∀ c ∈ chars, c.isDigit = true) :
    Plain (String.ofList chars) := by
  intro c hc
  rw [String.toList_ofList] at hc
  simp [isPlain, Char.isAlphanum, h c hc]

/-- Plain texts with a plain separator between them make a plain text. -/
theorem intercalate {separator : String} {texts : List String} (hseparator : Plain separator)
    (h : ∀ text ∈ texts, Plain text) : Plain (separator.intercalate texts) := by
  intro c hc
  rw [String.toList_intercalate] at hc
  induction texts with
  | nil => exact absurd hc List.not_mem_nil
  | cons text rest ih =>
    have htext := h text List.mem_cons_self
    cases rest with
    | nil => exact htext c (by simpa [List.intercalate] using hc)
    | cons next rest =>
      rw [List.map_cons, List.map_cons, List.intercalate_cons_cons, List.append_assoc] at hc
      rcases List.mem_append.mp hc with hc | hc
      · exact htext c hc
      rcases List.mem_append.mp hc with hc | hc
      · exact hseparator c hc
      · exact ih (fun text htext => h text (List.mem_cons_of_mem _ htext)) hc

/-- A character that is not plain does not occur in a plain text. -/
theorem not_mem (ha : Plain a) {c : Char} (hc : isPlain c = false) : c ∉ a.toList := by
  intro hmem
  rw [ha c hmem] at hc
  exact absurd hc (by decide)

end Plain

/-! ## Numbers -/

/-- The decimal text of a natural number is plain. -/
theorem plain_nat (n : Nat) : Plain (toString n) := by
  intro c hc
  have hdigit : c.isDigit = true := Binary32.isDigit_toDigits n c (by simpa using hc)
  simp [isPlain, Char.isAlphanum, hdigit]

/-- The decimal text of an integer is plain. -/
theorem plain_int (n : Int) : Plain (toString n) := by
  intro c hc
  rw [Binary32.toList_toString_int] at hc
  rcases List.mem_append.mp hc with hc | hc
  · have hsign : ∀ negative : Bool, (Binary32.signChars negative).all isPlain = true := by decide
    exact List.all_eq_true.mp (hsign _) c hc
  · simp [isPlain, Char.isAlphanum, Binary32.isDigit_toDigits _ c hc]

namespace Binary32.Layout

/-- Digits with zeros behind or before them, and a point. -/
theorem plain_writePositional (d : Decimal) : Plain (writePositional d) := by
  have hdigits := isDigit_toDigits d.digits
  unfold writePositional
  dsimp only
  split_ifs
  · refine .append (.ofList ?_) (by decide)
    exact List.forall_mem_append.mpr ⟨hdigits, isDigit_replicate_zero _⟩
  · refine .append (.append (.ofList ?_) (by decide)) (.ofList ?_)
    · exact fun c hc => hdigits c (List.mem_of_mem_take hc)
    · exact fun c hc => hdigits c (List.mem_of_mem_drop hc)
  · refine .append (by decide) (.ofList ?_)
    exact List.forall_mem_append.mpr ⟨isDigit_replicate_zero _, hdigits⟩

/-- A decimal with an exponent is written plainly. -/
theorem plain_writeScientific (plusSign : Bool) (d : Decimal) :
    Plain (writeScientific plusSign d) := by
  have hdigits := isDigit_toDigits d.digits
  have hfraction : Plain (String.ofList ((Nat.toDigits 10 d.digits).drop 1)) :=
    .ofList fun c hc => hdigits c (List.mem_of_mem_drop hc)
  have hwhole : Plain (String.ofList ((Nat.toDigits 10 d.digits).take 1)) :=
    .ofList fun c hc => hdigits c (List.mem_of_mem_take hc)
  unfold writeScientific
  dsimp only
  refine .append (.append (.append (.append hwhole ?_) (by decide)) ?_) (plain_int _)
  · split_ifs
    · decide
    · exact .append (by decide) hfraction
  · split_ifs <;> decide

/-- A number is written plainly in every layout. -/
theorem plain_write (layout : Layout) (x : Binary32) : Plain (layout.write x) := by
  have hdecimal : ∀ d, Plain (layout.writeDecimal d) := by
    intro d
    unfold writeDecimal
    dsimp only
    split
    · exact plain_writePositional d
    · split_ifs
      · exact plain_writePositional d
      · exact plain_writeScientific _ d
  unfold write
  split_ifs
  case pos | neg => decide
  all_goals first | decide | exact .append (by decide) (hdecimal _)

end Binary32.Layout

/-! ## Expressions -/

/-- Whether the name or the components that an expression itself brings in are plain. -/
def Expr.Spelled : Expr → Prop
  | .param name => Plain name
  | .var name => Plain name
  | .swizzle _ components => Plain components
  | _ => True

/-- Whether a dialect adds nothing but plain characters to an expression. -/
structure Dialect.SpellsPlain (d : Dialect) : Prop where
  typeName : ∀ type, Plain (d.typeName type)
  parameter : ∀ p : Parameter, Plain p.name → Plain (d.parameter p)
  input : ∀ which, Plain (d.input which)
  select : ∀ {cond onTrue onFalse}, Plain cond → Plain onTrue → Plain onFalse →
    Plain (d.select cond onTrue onFalse)
  call : ∀ function {args : List String}, (∀ arg ∈ args, Plain arg) → Plain (d.call function args)

namespace Dialect.SpellsPlain

variable {d : Dialect} {table : ParameterTable}

mutual

/-- **An expression is written with plain characters.** -/
theorem writeExpr (hd : d.SpellsPlain) : (expr : Expr) → (∀ part ∈ expr.parts, part.Spelled) →
    {text : String} → d.writeExpr table expr = .ok text → Plain text
  | .bool v, _, _, h => by
    obtain rfl := Except.ok.inj h
    cases v <;> decide
  | .int v, _, _, h => by
    obtain rfl := Except.ok.inj h
    split_ifs
    · exact .append (.append (by decide) (plain_int _)) (by decide)
    · exact plain_int _
  | .float v, _, _, h => by
    obtain rfl := Except.ok.inj h
    exact Binary32.Layout.plain_write _ v
  | .param name, hparts, _, h => by
    rw [Dialect.writeExpr] at h
    cases hp : table.get? name with
    | none => simp [hp] at h
    | some p =>
      rw [hp] at h
      obtain rfl := Except.ok.inj h
      have hname : p.name = name := by simpa using List.find?_some hp
      exact hd.parameter p (hname ▸ hparts _ List.mem_cons_self)
  | .var name, hparts, _, h => by
    obtain rfl := Except.ok.inj h
    exact hparts _ List.mem_cons_self
  | .input which, _, _, h => by
    obtain rfl := Except.ok.inj h
    exact hd.input which
  | .construct type args, hparts, _, h => by
    obtain ⟨texts, htexts, h⟩ := bind_eq_ok_iff.mp h
    obtain rfl := Except.ok.inj h
    have hargs := hd.writeExprs args (List.forall_mem_cons.mp hparts).2 htexts
    exact .append (.append (.append (hd.typeName type) (by decide))
      (.intercalate (by decide) hargs)) (by decide)
  | .convert type expr, hparts, _, h => by
    obtain ⟨text, htext, h⟩ := bind_eq_ok_iff.mp h
    obtain rfl := Except.ok.inj h
    have hexpr := hd.writeExpr expr (List.forall_mem_cons.mp hparts).2 htext
    exact .append (.append (.append (hd.typeName type) (by decide)) hexpr) (by decide)
  | .swizzle expr components, hparts, _, h => by
    obtain ⟨text, htext, h⟩ := bind_eq_ok_iff.mp h
    obtain rfl := Except.ok.inj h
    obtain ⟨hcomponents, hparts⟩ := List.forall_mem_cons.mp hparts
    exact .append (.append (hd.writeExpr expr hparts htext) (by decide)) hcomponents
  | .binary op lhs rhs, hparts, _, h => by
    obtain ⟨left, hleft, h⟩ := bind_eq_ok_iff.mp h
    obtain ⟨right, hright, h⟩ := bind_eq_ok_iff.mp h
    obtain rfl := Except.ok.inj h
    obtain ⟨hlhs, hrhs⟩ := List.forall_mem_append.mp (List.forall_mem_cons.mp hparts).2
    have hsymbol : Plain op.symbol := by cases op <;> decide
    exact .append (.append (.append (.append (.append (.append (by decide)
      (hd.writeExpr lhs hlhs hleft)) (by decide)) hsymbol) (by decide))
      (hd.writeExpr rhs hrhs hright)) (by decide)
  | .call function args, hparts, _, h => by
    obtain ⟨texts, htexts, h⟩ := bind_eq_ok_iff.mp h
    obtain rfl := Except.ok.inj h
    exact hd.call function (hd.writeExprs args (List.forall_mem_cons.mp hparts).2 htexts)
  | .select cond onTrue onFalse, hparts, _, h => by
    obtain ⟨condition, hcondition, h⟩ := bind_eq_ok_iff.mp h
    obtain ⟨left, hleft, h⟩ := bind_eq_ok_iff.mp h
    obtain ⟨right, hright, h⟩ := bind_eq_ok_iff.mp h
    obtain rfl := Except.ok.inj h
    obtain ⟨hfirst, hfalse⟩ := List.forall_mem_append.mp (List.forall_mem_cons.mp hparts).2
    obtain ⟨hcond, htrue⟩ := List.forall_mem_append.mp hfirst
    exact hd.select (hd.writeExpr cond hcond hcondition) (hd.writeExpr onTrue htrue hleft)
      (hd.writeExpr onFalse hfalse hright)

/-- The texts of expressions whose parts are spelled plainly are plain. -/
theorem writeExprs (hd : d.SpellsPlain) : (exprs : List Expr) →
    (∀ part ∈ Expr.partsOfAll exprs, part.Spelled) → {texts : List String} →
    d.writeExprs table exprs = .ok texts → ∀ text ∈ texts, Plain text
  | [], _, _, h => by
    obtain rfl := Except.ok.inj h
    exact List.forall_mem_nil _
  | expr :: rest, hparts, _, h => by
    obtain ⟨text, htext, h⟩ := bind_eq_ok_iff.mp h
    obtain ⟨texts, htexts, h⟩ := bind_eq_ok_iff.mp h
    obtain rfl := Except.ok.inj h
    obtain ⟨hexpr, hrest⟩ := List.forall_mem_append.mp hparts
    exact List.forall_mem_cons.mpr
      ⟨hd.writeExpr expr hexpr htext, hd.writeExprs rest hrest htexts⟩

end

end Dialect.SpellsPlain

/-- WGSL adds only plain characters to an expression. -/
theorem Wgsl.dialect_spellsPlain : Wgsl.dialect.SpellsPlain where
  typeName type := by cases type <;> decide
  parameter p hname := by
    obtain ⟨name, slot, value⟩ := p
    cases value with
    | bool _ => exact .append (.append (by decide) hname) (by decide)
    | lut _ | image _ => exact hname
    | int _ | float _ | vec3 _ => exact .append (by decide) hname
  input which := by cases which <;> decide
  select hcond htrue hfalse :=
    .append (.append (.append (.append (.append (.append (by decide) hfalse) (by decide)) htrue)
      (by decide)) hcond) (by decide)
  call function args hargs := by
    have hname : Plain function.functionName := by cases function <;> decide
    exact .append (.append (.append hname (by decide)) (.intercalate (by decide) hargs)) (by decide)

/-- GLSL adds only plain characters to an expression. -/
theorem Glsl.dialect_spellsPlain : Glsl.dialect.SpellsPlain where
  typeName type := by cases type <;> decide
  parameter p hname := by
    obtain ⟨name, slot, value⟩ := p
    cases value with
    | lut _ | image _ => exact hname
    | bool _ | int _ | float _ | vec3 _ => exact .append (by decide) hname
  input which := by cases which <;> decide
  select hcond htrue hfalse :=
    .append (.append (.append (.append (.append (.append (by decide) hcond) (by decide)) htrue)
      (by decide)) hfalse) (by decide)
  call function args hargs := by
    have hlist : Plain (", ".intercalate args) := .intercalate (by decide) hargs
    cases function with
    | saturate => exact .append (.append (by decide) hlist) (by decide)
    | _ => exact .append (.append (by decide) hlist) (by decide)

/-- Every backend adds nothing but plain characters to an expression. -/
theorem Backend.dialect_spellsPlain (backend : Backend) : backend.dialect.SpellsPlain := by
  cases backend with
  | wgsl => exact Wgsl.dialect_spellsPlain
  | glsl => exact Glsl.dialect_spellsPlain

end ShaderGraph
