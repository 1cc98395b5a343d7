import Mathlib.Data.List.Basic
import ShaderGraph.Backend
import ShaderGraph.Proofs.Refusal

/-!
# What the backends refuse

A program is refused for the first call that misuses a texture argument, where every expression is
visited before those inside it, and if there is none for the first parameter that is read but not in
the table. The dialect plays no part in that, so all backends refuse the same programs and give the
same reason. A texture that is read as a value is no reason to refuse a program.
-/

set_option autoImplicit false

namespace ShaderGraph

/-! ## Parameters that are read -/

namespace Expr

mutual

/-- Names of the parameters that an expression reads, in the order of evaluation: operands and
arguments from left to right, a condition before the values that it decides between. -/
def reads : Expr → List String
  | bool _ | int _ | float _ | var _ | input _ => []
  | param name => [name]
  | construct _ args => readsOfAll args
  | convert _ expr => expr.reads
  | swizzle expr _ => expr.reads
  | binary _ lhs rhs => lhs.reads ++ rhs.reads
  | call _ args => readsOfAll args
  | select cond onTrue onFalse => cond.reads ++ (onTrue.reads ++ onFalse.reads)

/-- The names read by the expressions of a list, one after the other. -/
def readsOfAll : List Expr → List String
  | [] => []
  | expr :: rest => expr.reads ++ readsOfAll rest

end

/-- The parameter that an expression names. -/
def param? : Expr → Option String
  | param name => some name
  | _ => none

mutual

/-- Names of the parameters that an expression reads as values: all but those that stand where a
function takes a texture. -/
def valueReads : Expr → List String
  | bool _ | int _ | float _ | var _ | input _ => []
  | param name => [name]
  | construct _ args => valueReadsOfAll args
  | convert _ expr => expr.valueReads
  | swizzle expr _ => expr.valueReads
  | binary _ lhs rhs => lhs.valueReads ++ rhs.valueReads
  | call function args =>
    if function.takesTexture then valueReadsOfTexture args else valueReadsOfAll args
  | select cond onTrue onFalse => cond.valueReads ++ (onTrue.valueReads ++ onFalse.valueReads)

/-- The names read as values by the expressions of a list. -/
def valueReadsOfAll : List Expr → List String
  | [] => []
  | expr :: rest => expr.valueReads ++ valueReadsOfAll rest

/-- The names read as values by arguments of which the first may name a texture. -/
def valueReadsOfTexture : List Expr → List String
  | [] => []
  | expr :: rest => (if expr.param?.isSome then [] else expr.valueReads) ++ valueReadsOfAll rest

end

mutual

/-- Evaluation comes to the parameters in the order in which they stand. -/
theorem reads_eq : (expr : Expr) → expr.reads = expr.parts.filterMap param?
  | .bool _ | .int _ | .float _ | .var _ | .input _ | .param _ => rfl
  | .construct _ args => readsOfAll_eq args
  | .convert _ expr => reads_eq expr
  | .swizzle expr _ => reads_eq expr
  | .binary _ lhs rhs => by
    rw [reads, reads_eq lhs, reads_eq rhs, ← List.filterMap_append]
    rfl
  | .call _ args => readsOfAll_eq args
  | .select cond onTrue onFalse => by
    rw [reads, reads_eq cond, reads_eq onTrue, reads_eq onFalse, ← List.filterMap_append,
      ← List.filterMap_append, ← List.append_assoc]
    rfl

/-- What the expressions of a list read are the parameters among their parts, in order. -/
theorem readsOfAll_eq : (exprs : List Expr) → readsOfAll exprs = (partsOfAll exprs).filterMap param?
  | [] => rfl
  | expr :: rest => by
    rw [readsOfAll, partsOfAll, reads_eq expr, readsOfAll_eq rest, List.filterMap_append]

end

mutual

/-- What stands inside a part of an expression stands inside the expression. -/
theorem parts_subset : (expr : Expr) → ∀ part ∈ expr.parts, part.parts ⊆ expr.parts
  | .bool _, _, h | .int _, _, h | .float _, _, h | .var _, _, h | .input _, _, h
  | .param _, _, h => by
    obtain rfl := List.mem_singleton.mp h
    exact List.Subset.refl _
  | .construct _ args, part, h => by
    rcases List.mem_cons.mp h with rfl | h
    · exact List.Subset.refl _
    · exact List.subset_cons_of_subset _ (partsOfAll_subset args part h)
  | .convert _ expr, part, h => by
    rcases List.mem_cons.mp h with rfl | h
    · exact List.Subset.refl _
    · exact List.subset_cons_of_subset _ (parts_subset expr part h)
  | .swizzle expr _, part, h => by
    rcases List.mem_cons.mp h with rfl | h
    · exact List.Subset.refl _
    · exact List.subset_cons_of_subset _ (parts_subset expr part h)
  | .binary _ lhs rhs, part, h => by
    rcases List.mem_cons.mp h with rfl | h
    · exact List.Subset.refl _
    · refine List.subset_cons_of_subset _ ?_
      rcases List.mem_append.mp h with h | h
      · exact List.subset_append_of_subset_left _ (parts_subset lhs part h)
      · exact List.subset_append_of_subset_right _ (parts_subset rhs part h)
  | .call _ args, part, h => by
    rcases List.mem_cons.mp h with rfl | h
    · exact List.Subset.refl _
    · exact List.subset_cons_of_subset _ (partsOfAll_subset args part h)
  | .select cond onTrue onFalse, part, h => by
    rcases List.mem_cons.mp h with rfl | h
    · exact List.Subset.refl _
    · refine List.subset_cons_of_subset _ ?_
      rcases List.mem_append.mp h with h | h
      · refine List.subset_append_of_subset_left _ ?_
        rcases List.mem_append.mp h with h | h
        · exact List.subset_append_of_subset_left _ (parts_subset cond part h)
        · exact List.subset_append_of_subset_right _ (parts_subset onTrue part h)
      · exact List.subset_append_of_subset_right _ (parts_subset onFalse part h)

/-- The parts of a part of some expressions are parts of them. -/
theorem partsOfAll_subset : (exprs : List Expr) → ∀ part ∈ partsOfAll exprs,
    part.parts ⊆ partsOfAll exprs
  | [], _, h => absurd h List.not_mem_nil
  | expr :: rest, part, h => by
    rcases List.mem_append.mp h with h | h
    · exact List.subset_append_of_subset_left _ (parts_subset expr part h)
    · exact List.subset_append_of_subset_right _ (partsOfAll_subset rest part h)

end

end Expr

namespace Program

/-- Names of the parameters that a program reads, in the order of evaluation. -/
def reads (program : Program) : List String := program.expressions.flatMap Expr.reads

/-- Names of the parameters that a program reads as values. -/
def valueReads (program : Program) : List String := program.expressions.flatMap Expr.valueReads

/-- A program reads a name exactly if the parameter of that name is among its parts. -/
theorem mem_reads_iff {program : Program} {name : String} :
    name ∈ program.reads ↔ .param name ∈ program.parts := by
  have hparam : ∀ part : Expr, part.param? = some name ↔ part = .param name := by
    intro part
    cases part <;> simp [Expr.param?]
  simp [reads, parts, Expr.reads_eq, hparam]

end Program

/-! ## The first error -/

/-- The error that comes up where a parameter is read that is not in the table. -/
def ParameterTable.missing? (table : ParameterTable) (name : String) : Option EmitError :=
  if table.contains name then none else some (.unknownParameter name)

/-- Nothing is missing exactly if the table has an entry of the name. -/
theorem ParameterTable.missing?_eq_none_iff {table : ParameterTable} {name : String} :
    table.missing? name = none ↔ ∃ p, table.get? name = some p := by
  rw [missing?, contains]
  cases table.get? name <;> simp

namespace Dialect

variable (d : Dialect) (table : ParameterTable)

mutual

/-- An expression cannot be written because of the first parameter it reads that is not there. -/
theorem refusal?_writeExpr : (expr : Expr) →
    refusal? (d.writeExpr table expr) = expr.reads.findSome? table.missing?
  | .bool _ | .int _ | .float _ | .var _ | .input _ => rfl
  | .param name => by
    rw [writeExpr, Expr.reads, List.findSome?_singleton, ParameterTable.missing?,
      ParameterTable.contains]
    cases table.get? name <;> rfl
  | .construct _ args => by
    rw [writeExpr, refusal?_bind_ok fun _ => rfl, refusal?_writeExprs args, Expr.reads]
  | .convert _ expr => by
    rw [writeExpr, refusal?_bind_ok fun _ => rfl, refusal?_writeExpr expr, Expr.reads]
  | .swizzle expr _ => by
    rw [writeExpr, refusal?_bind_ok fun _ => rfl, refusal?_writeExpr expr, Expr.reads]
  | .binary _ lhs rhs => by
    rw [writeExpr, refusal?_bind fun _ => refusal?_bind_ok fun _ => rfl, refusal?_writeExpr lhs,
      refusal?_writeExpr rhs, Expr.reads, List.findSome?_append]
  | .call _ args => by
    rw [writeExpr, refusal?_bind_ok fun _ => rfl, refusal?_writeExprs args, Expr.reads]
  | .select cond onTrue onFalse => by
    rw [writeExpr, refusal?_bind fun _ => refusal?_bind fun _ => refusal?_bind_ok fun _ => rfl,
      refusal?_writeExpr cond, refusal?_writeExpr onTrue, refusal?_writeExpr onFalse, Expr.reads,
      List.findSome?_append, List.findSome?_append]

/-- Writing a list of expressions fails on the first name read in it that is missing. -/
theorem refusal?_writeExprs : (exprs : List Expr) →
    refusal? (d.writeExprs table exprs) = (Expr.readsOfAll exprs).findSome? table.missing?
  | [] => rfl
  | expr :: rest => by
    rw [writeExprs, refusal?_bind fun _ => refusal?_bind_ok fun _ => rfl, refusal?_writeExpr expr,
      refusal?_writeExprs rest, Expr.readsOfAll, List.findSome?_append]

end

/-- The main function cannot be written because of the first parameter read that is not there. -/
theorem refusal?_mainLines (program : Program) :
    refusal? (d.mainLines program) = program.reads.findSome? program.parameters.missing? := by
  have hstatements : refusal? (program.statements.mapM (d.statementLine program.parameters)) =
      ((program.statements.map Statement.expr).flatMap Expr.reads).findSome?
        program.parameters.missing? := by
    rw [refusal?_mapM]
    induction program.statements with
    | nil => rfl
    | cons s rest ih =>
      rw [List.findSome?_cons, statementLine, refusal?_map, refusal?_writeExpr, ih, List.map_cons,
        List.flatMap_cons, List.findSome?_append]
      cases s.expr.reads.findSome? program.parameters.missing? <;> rfl
  rw [mainLines, refusal?_bind fun _ => refusal?_bind fun _ => refusal?_bind_ok fun _ => rfl,
    hstatements, refusal?_writeExpr, refusal?_writeExpr, Program.reads, Program.expressions,
    List.flatMap_append, List.findSome?_append, List.flatMap_cons, List.flatMap_singleton,
    List.findSome?_append]

/-- **The first error of a program**, the same in all dialects: that of the texture arguments, and
if they are in order that of the parameters read. -/
theorem refusal?_emit (program : Program) :
    refusal? (d.emit program) =
      program.textureFault?.or (program.reads.findSome? program.parameters.missing?) := by
  rw [emit]
  cases program.textureFault? with
  | some fault => rfl
  | none =>
    rw [refusal?_bind_ok fun _ => rfl, refusal?_mainLines, Option.none_or]

end Dialect

/-! ## Misused texture arguments -/

/-- Whether an expression calls a function that takes a texture but does not name one first, and
with which error. -/
inductive Expr.Misuses (table : ParameterTable) : Expr → EmitError → Prop
  /-- The parameter is no texture. -/
  | value {function : Builtin} {name : String} {args : List Expr} {p : Parameter}
    (htakes : function.takesTexture = true) (hp : table.get? name = some p)
    (hkind : p.value.isTexture = false) :
    Misuses table (.call function (.param name :: args)) (.parameterKind name)
  /-- The parameter is not there. -/
  | unknown {function : Builtin} {name : String} {args : List Expr}
    (htakes : function.takesTexture = true) (hp : table.get? name = none) :
    Misuses table (.call function (.param name :: args)) (.unknownParameter name)
  /-- There is no first argument, or it is no parameter; the error names the function. -/
  | other {function : Builtin} {args : List Expr} (htakes : function.takesTexture = true)
    (hargs : ∀ name rest, args ≠ .param name :: rest) :
    Misuses table (.call function args) (.parameterKind function.functionName)

/-- The check of one call finds exactly the misuse described above. -/
theorem Expr.textureFault?_eq_some_iff {table : ParameterTable} {part : Expr} {e : EmitError} :
    part.textureFault? table = some e ↔ part.Misuses table e := by
  constructor
  · intro h
    cases part with
    | call function args =>
      rw [textureFault?] at h
      split_ifs at h with htakes
      have htakes : function.takesTexture = true := by simpa using htakes
      split at h
      case h_1 name hhead =>
        obtain ⟨rest, rfl⟩ := List.head?_eq_some_iff.mp hhead
        cases hp : table.get? name with
        | none =>
          rw [hp] at h
          obtain rfl := Option.some.inj h
          exact .unknown htakes hp
        | some p =>
          rw [hp] at h
          cases hkind : p.value.isTexture with
          | true => simp [hkind] at h
          | false =>
            obtain rfl : EmitError.parameterKind name = e := by simpa [hkind] using h
            exact .value htakes hp hkind
      case h_2 hhead =>
        obtain rfl := Option.some.inj h
        refine .other htakes ?_
        rintro name rest rfl
        exact hhead name rfl
    | _ => exact absurd h (by simp [textureFault?])
  · intro h
    cases h with
    | value htakes hp hkind => simp [textureFault?, htakes, hp, hkind]
    | unknown htakes hp => simp [textureFault?, htakes, hp]
    | @other function args htakes hargs =>
      rw [textureFault?, htakes]
      cases args with
      | nil => rfl
      | cons first rest =>
        cases first with
        | param name => exact absurd rfl (hargs name rest)
        | _ => rfl

/-- A call that gives a texture where one is taken misuses none. -/
theorem Expr.textureFault?_eq_none_iff {table : ParameterTable} {part : Expr} :
    part.textureFault? table = none ↔ ∀ function args, part = .call function args →
      function.takesTexture = true →
        ∃ name rest p, args = .param name :: rest ∧ table.get? name = some p ∧
          p.value.isTexture = true := by
  constructor
  · rintro h function args rfl htakes
    have hno : ∀ e, ¬Misuses table (.call function args) e := by
      intro e he
      rw [textureFault?_eq_some_iff.mpr he] at h
      exact absurd h (by simp)
    by_cases hargs : ∀ name rest, args ≠ .param name :: rest
    · exact absurd (.other htakes hargs) (hno _)
    · push Not at hargs
      obtain ⟨name, rest, rfl⟩ := hargs
      cases hp : table.get? name with
      | none => exact absurd (.unknown htakes hp) (hno _)
      | some p =>
        cases hkind : p.value.isTexture with
        | false => exact absurd (.value htakes hp hkind) (hno _)
        | true => exact ⟨name, rest, p, rfl, hp, hkind⟩
  · intro h
    rw [Option.eq_none_iff_forall_ne_some]
    intro e he
    cases textureFault?_eq_some_iff.mp he with
    | value htakes hp hkind =>
      obtain ⟨_, _, p, hargs, hp', hkind'⟩ := h _ _ rfl htakes
      cases hargs
      obtain rfl := Option.some.inj (hp.symm.trans hp')
      rw [hkind] at hkind'
      exact absurd hkind' (by decide)
    | unknown htakes hp =>
      obtain ⟨_, _, p, hargs, hp', -⟩ := h _ _ rfl htakes
      cases hargs
      rw [hp] at hp'
      exact absurd hp' (by simp)
    | other htakes hargs =>
      obtain ⟨name, rest, _, rfl, -⟩ := h _ _ rfl htakes
      exact hargs name rest rfl

/-! ## Refusals -/

namespace Program

/-- Whether all parameters that a program reads are in its table. -/
def Known (program : Program) : Prop :=
  ∀ name, .param name ∈ program.parts → ∃ p, program.parameters.get? name = some p

/-- Whether every call of a function that takes a texture names a texture first. -/
def SamplesTextures (program : Program) : Prop :=
  ∀ function args, .call function args ∈ program.parts → function.takesTexture = true →
    ∃ name rest p, args = .param name :: rest ∧ program.parameters.get? name = some p ∧
      p.value.isTexture = true

/-- Whether no texture is read as a value. -/
def ReadsValues (program : Program) : Prop :=
  ∀ name ∈ program.valueReads, ∀ p, program.parameters.get? name = some p →
    p.value.isTexture = false

/-- The error that stands first in a program: of a call that misuses a texture argument while none
before it does, or, if no call does, of a parameter that is read and not there while all read before
it are. -/
inductive FirstFault (program : Program) : EmitError → Prop
  | call {before after : List Expr} {call : Expr} {e : EmitError}
    (hsplit : program.parts = before ++ call :: after)
    (hcall : call.Misuses program.parameters e)
    (hbefore : ∀ part ∈ before, ∀ e', ¬part.Misuses program.parameters e') : FirstFault program e
  | parameter {before after : List String} {name : String}
    (hcalls : ∀ part ∈ program.parts, ∀ e, ¬part.Misuses program.parameters e)
    (hsplit : program.reads = before ++ name :: after)
    (hname : program.parameters.get? name = none)
    (hbefore : ∀ other ∈ before, ∃ p, program.parameters.get? other = some p) :
    FirstFault program (.unknownParameter name)

variable {program : Program}

/-- All names that a program reads are known exactly if none of them is missing. -/
theorem known_iff :
    program.Known ↔ program.reads.findSome? program.parameters.missing? = none := by
  simp only [Known, List.findSome?_eq_none_iff, ParameterTable.missing?_eq_none_iff,
    mem_reads_iff]

/-- Every texture function has its texture exactly if the check finds no fault. -/
theorem samplesTextures_iff : program.SamplesTextures ↔ program.textureFault? = none := by
  simp only [SamplesTextures, textureFault?, List.findSome?_eq_none_iff,
    Expr.textureFault?_eq_none_iff]
  constructor
  · rintro h part hpart function args rfl
    exact h function args hpart
  · intro h function args hcall
    exact h _ hcall function args rfl

/-- Where all parameters are there, none that is missing stands first. -/
theorem Known.not_firstFault (hknown : program.Known) {name : String} :
    ¬program.FirstFault (.unknownParameter name) := by
  intro h
  cases h with
  | @call before after call _ hsplit hcall _ =>
    cases hcall with
    | @unknown function _ args htakes hp =>
      obtain ⟨expr, hexpr, hcall⟩ := List.mem_flatMap.mp
        (show Expr.call function (.param name :: args) ∈ program.parts by simp [hsplit])
      have harg : .param name ∈ (Expr.call function (.param name :: args)).parts := by
        simp [Expr.parts, Expr.partsOfAll]
      obtain ⟨p, hp'⟩ := hknown name
        (List.mem_flatMap.mpr ⟨expr, hexpr, expr.parts_subset _ hcall harg⟩)
      exact absurd (hp.symm.trans hp') (by simp)
  | parameter _ hsplit hname _ =>
    obtain ⟨p, hp⟩ := hknown name (mem_reads_iff.mp (by simp [hsplit]))
    exact absurd (hname.symm.trans hp) (by simp)

/-- An expression is no misuse exactly if the check passes it. -/
theorem not_misuses_iff {part : Expr} {table : ParameterTable} :
    (∀ e, ¬part.Misuses table e) ↔ part.textureFault? table = none := by
  simp only [← Expr.textureFault?_eq_some_iff, Option.eq_none_iff_forall_ne_some, ne_eq]

/-- The first error is that of the texture arguments, or else that of the parameters. -/
theorem firstFault_iff {e : EmitError} :
    program.FirstFault e ↔
      program.textureFault?.or (program.reads.findSome? program.parameters.missing?) = some e := by
  rw [Option.or_eq_some_iff]
  constructor
  · intro h
    cases h with
    | call hsplit hcall hbefore =>
      refine Or.inl (List.findSome?_eq_some_iff.mpr ⟨_, _, _, hsplit, ?_, ?_⟩)
      · exact Expr.textureFault?_eq_some_iff.mpr hcall
      · exact fun part hpart => not_misuses_iff.mp (hbefore part hpart)
    | parameter hcalls hsplit hname hbefore =>
      refine Or.inr ⟨List.findSome?_eq_none_iff.mpr fun part hpart =>
        not_misuses_iff.mp (hcalls part hpart),
        List.findSome?_eq_some_iff.mpr ⟨_, _, _, hsplit, ?_, ?_⟩⟩
      · simp [ParameterTable.missing?, ParameterTable.contains, hname]
      · exact fun other hother => ParameterTable.missing?_eq_none_iff.mpr (hbefore other hother)
  · rintro (h | ⟨hnone, h⟩)
    · obtain ⟨before, call, after, hsplit, hcall, hbefore⟩ := List.findSome?_eq_some_iff.mp h
      exact .call hsplit (Expr.textureFault?_eq_some_iff.mp hcall)
        fun part hpart => not_misuses_iff.mpr (hbefore part hpart)
    · obtain ⟨before, name, after, hsplit, hname, hbefore⟩ := List.findSome?_eq_some_iff.mp h
      have hcalls := List.findSome?_eq_none_iff.mp hnone
      rw [ParameterTable.missing?] at hname
      split_ifs at hname with hcontains
      obtain rfl := Option.some.inj hname
      refine .parameter (fun part hpart => not_misuses_iff.mpr (hcalls part hpart)) hsplit ?_
        fun other hother => ParameterTable.missing?_eq_none_iff.mp (hbefore other hother)
      simpa [ParameterTable.contains] using hcontains

end Program

namespace Backend

variable (backend : Backend) (program : Program)

/-- The fault of a texture argument comes before any missing name, in both languages. -/
theorem refusal?_emit : refusal? (backend.emit program) =
    program.textureFault?.or (program.reads.findSome? program.parameters.missing?) :=
  backend.dialect.refusal?_emit program

/-- **All backends refuse the same programs, for the same reason.** Either both write a program, or
both give the same error, and an error is given exactly if it is the one that stands first. -/
theorem refused_alike :
    ((∃ source source', wgsl.emit program = .ok source ∧ glsl.emit program = .ok source') ∨
      ∃ e, wgsl.emit program = .error e ∧ glsl.emit program = .error e) ∧
    ∀ (backend : Backend) (e : EmitError),
      backend.emit program = .error e ↔ program.FirstFault e := by
  have hfirst : ∀ (backend : Backend) (e : EmitError),
      backend.emit program = .error e ↔ program.FirstFault e := by
    intro backend e
    rw [← refusal?_eq_some_iff, refusal?_emit, Program.firstFault_iff]
  refine ⟨?_, hfirst⟩
  cases hw : wgsl.emit program with
  | error e =>
    have hg : glsl.emit program = .error e := (hfirst glsl e).mpr ((hfirst wgsl e).mp hw)
    exact Or.inr ⟨e, rfl, hg⟩
  | ok source =>
    cases hg : glsl.emit program with
    | ok source' => exact Or.inl ⟨source, source', rfl, rfl⟩
    | error e =>
      have hw' : wgsl.emit program = .error e := (hfirst wgsl e).mpr ((hfirst glsl e).mp hg)
      exact absurd (hw.symm.trans hw') (by simp)

/-- **What a backend writes.** It writes a program exactly if all parameters that are read are in
the table and every function that takes a texture is given one. Where all parameters are there, the
refusal of a program is one for the kind of a parameter. Textures that are read as values are not
among the reasons. -/
theorem emit_accepts :
    ((∃ source, backend.emit program = .ok source) ↔
      program.Known ∧ program.SamplesTextures) ∧
    (program.Known →
      ((∃ name, backend.emit program = .error (.parameterKind name)) ↔
        ¬program.SamplesTextures)) := by
  have haccepts : (∃ source, backend.emit program = .ok source) ↔
      program.Known ∧ program.SamplesTextures := by
    rw [← refusal?_eq_none_iff, refusal?_emit, Option.or_eq_none_iff, and_comm,
      Program.known_iff, Program.samplesTextures_iff]
  refine ⟨haccepts, fun hknown => ?_⟩
  constructor
  · rintro ⟨name, hname⟩ hsamples
    obtain ⟨source, hsource⟩ := haccepts.mpr ⟨hknown, hsamples⟩
    rw [hname] at hsource
    exact absurd hsource (by simp)
  · intro hsamples
    cases hemit : backend.emit program with
    | ok source => exact absurd (haccepts.mp ⟨source, hemit⟩).2 hsamples
    | error e =>
      have hfirst : program.FirstFault e := by
        rw [Program.firstFault_iff, ← refusal?_emit, refusal?_eq_some_iff]
        exact hemit
      cases e with
      | unknownParameter name => exact absurd hfirst hknown.not_firstFault
      | parameterKind name => exact ⟨name, rfl⟩

/-- A switch where a ramp is sampled: all parameters are there, and the kind of one is wrong. -/
theorem emit_accepts_switch :
    let program : Program :=
      ⟨[], ⟨[⟨"p_n1_1", ⟨1, 1⟩, .bool true⟩]⟩, .splat 0.0,
        .swizzle (.call .sampleRamp [.param "p_n1_1", .float 0.5]) "w", [.sampleRamp]⟩
    program.Known ∧ ¬program.SamplesTextures ∧
      ∃ name, glsl.emit program = .error (.parameterKind name) := by
  intro program
  have hknown : program.Known := by
    intro name hname
    obtain rfl : name = "p_n1_1" := by
      simpa [program, Program.parts, Program.expressions, Expr.splat, Expr.parts, Expr.partsOfAll]
        using hname
    exact ⟨_, rfl⟩
  have hsamples : ¬program.SamplesTextures := by
    rw [Program.samplesTextures_iff]
    decide
  exact ⟨hknown, hsamples, ((emit_accepts glsl program).2 hknown).mpr hsamples⟩

/-- A lookup table stands for alpha. It is no value, and yet both backends write the program. -/
theorem emit_texture_as_value :
    let program : Program :=
      ⟨[], ⟨[⟨"p_n1_0", ⟨1, 0⟩, .lut [⟨0.0, 0.0, 0.0, 1.0⟩]⟩]⟩, .splat 0.0, .param "p_n1_0", []⟩
    ¬program.ReadsValues ∧ ∀ backend : Backend,
      (∃ source, backend.emit program = .ok source) ∧
      ¬((∃ source, backend.emit program = .ok source) ↔
        program.Known ∧ program.SamplesTextures ∧ program.ReadsValues) := by
  intro program
  have hreads : ¬program.ReadsValues := by
    intro h
    have htexture := h "p_n1_0" (by decide) _ rfl
    exact absurd htexture (by decide)
  have hwritten : ∀ backend : Backend, ∃ source, backend.emit program = .ok source := by
    intro backend
    cases backend with
    | wgsl => exact ⟨_, rfl⟩
    | glsl => exact ⟨_, rfl⟩
  exact ⟨hreads, fun backend => ⟨hwritten backend, fun h => hreads (h.mp (hwritten backend)).2.2⟩⟩

end Backend

end ShaderGraph
