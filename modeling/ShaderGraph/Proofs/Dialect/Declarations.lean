import ShaderGraph.Proofs.Binary32.Text
import ShaderGraph.Proofs.Dialect.Reading
import ShaderGraph.Proofs.Lowering.Names

/-!
# What declarations say

The lines of a source text that depend on the program: those of the main function, which declare
nothing, and those of the resources. Each resource is bound once, to the number it is given; a block
has one member for each of its parameters; and no line declares a parameter but its own.
-/

set_option autoImplicit false

namespace ShaderGraph

/-! ## Characters of lines -/

/-- A text ends like what stands last in it. -/
theorem getLast?_text {s t : String} {c : Char} (ht : t.toList.getLast? = some c) :
    (s ++ t).toList.getLast? = some c := by
  rw [String.toList_append, List.getLast?_append, ht, Option.some_or]

/-- A text that ends with a plain one has no other last character. -/
theorem getLast?_plain {s t : String} (ht : Plain t) (hne : t.toList ≠ []) {c : Char}
    (hc : isPlain c = false) : (s ++ t).toList.getLast? ≠ some c := by
  intro h
  rw [List.getLast?_eq_getLast_of_ne_nil hne |> getLast?_text] at h
  obtain rfl := Option.some.inj h
  exact ht.not_mem hc (List.getLast_mem hne)

/-- The label of a slot is two numbers and a point. -/
theorem plain_label (slot : SlotId) : Plain slot.label :=
  .append (.append (.append (by decide) (plain_nat _)) (by decide)) (plain_nat _)

/-- The name of a parameter has only characters that can stand in an expression. -/
theorem plain_paramName (slot : SlotId) : Plain (paramName slot) :=
  .append (.append (.append (by decide) (.append (by decide) (plain_nat _))) (by decide))
    (plain_nat _)

/-- The name of a parameter is a word. -/
theorem isWord_paramName (slot : SlotId) :
    ∀ c ∈ (paramName slot).toList, (c.isAlphanum || c == '_') = true := by
  intro c hc
  have hdigit : c.isDigit = true → (c.isAlphanum || c == '_') = true := by
    intro h
    simp [Char.isAlphanum, h]
  rw [toList_paramName] at hc
  simp only [List.mem_cons, List.mem_append] at hc
  rcases hc with rfl | rfl | rfl | hc | rfl | hc
  · decide
  · decide
  · decide
  · exact hdigit (Binary32.isDigit_toDigits _ c hc)
  · decide
  · exact hdigit (Binary32.isDigit_toDigits _ c hc)

/-- A label is never empty, so a comment that ends a line shows in its last character. -/
theorem label_ne_nil (slot : SlotId) : slot.label.toList ≠ [] := by
  simp [SlotId.label, NodeId.label]

/-- A line opens a block of parameters only if it ends in a brace. -/
theorem opensParams_eq_false {line : List Char} (h : line.getLast? ≠ some '\x7b') :
    opensParams line = false := by
  rw [opensParams, Bool.eq_false_iff, ne_eq, List.isSuffixOf_iff_suffix]
  rintro ⟨start, rfl⟩
  exact h (by simp)

/-- A line defines a helper only if it ends in a brace. -/
theorem Builtin.definedIn_eq_false {f : Builtin} {line : List Char}
    (h : line.getLast? ≠ some '\x7b') : f.definedIn line = false := by
  simp [definedIn, h]

/-- Where the name of a parameter ends, it is the name of no other. -/
theorem isPrefixOf_paramName (a b : SlotId) (stop : Char)
    (hstop : (stop.isAlphanum || stop == '_') = false) (rest : List Char) :
    ((paramName a).toList ++ [stop]).isPrefixOf ((paramName b).toList ++ stop :: rest) =
      (paramName b == paramName a) := by
  have hmem : ∀ slot, stop ∉ (paramName slot).toList := by
    intro slot hmem
    rw [isWord_paramName slot stop hmem] at hstop
    exact absurd hstop (by decide)
  rw [Bool.eq_iff_iff, List.isPrefixOf_iff_prefix, beq_iff_eq]
  constructor
  · rintro ⟨tail, htail⟩
    rw [List.append_assoc, List.singleton_append] at htail
    exact String.toList_inj.mp (append_separator_inj (hmem a) (hmem b) htail).1.symm
  · intro h
    exact ⟨rest, by simp [h]⟩

namespace Backend

variable {backend : Backend} {line : String}

/-! ## The lines of the main function -/

/-- A line of the main function's body ends in a semicolon. -/
theorem bodyLine_getLast? (h : backend.dialect.BodyLine line) :
    line.toList.getLast? = some ';' := by
  cases h with
  | statement => cases backend <;> exact getLast?_text (by decide)
  | result => cases backend <;> exact getLast?_text (by decide)

/-- A line of the body has no line break in it. -/
theorem bodyLine_oneLine (h : backend.dialect.BodyLine line) : '\n' ∉ line.toList := by
  have htype : ∀ type, '\n' ∉ (backend.dialect.typeName type).toList := fun type =>
    (backend.dialect_spellsPlain.typeName type).not_mem (by decide)
  cases h with
  | statement hname _ hvalue =>
    have hn := hname.not_mem (c := '\n') (by decide)
    have hv := hvalue.not_mem (c := '\n') (by decide)
    cases backend <;> simpa [dialect, Wgsl.dialect, Glsl.dialect, hn, hv] using htype _
  | result hcolor halpha =>
    have hc := hcolor.not_mem (c := '\n') (by decide)
    have ha := halpha.not_mem (c := '\n') (by decide)
    cases backend <;> simp [dialect, Wgsl.dialect, Glsl.dialect, hc, ha]

/-- No line of the body can be taken for a member of a block of parameters. -/
theorem bodyLine_member (h : backend.dialect.BodyLine line) : ∀ start ∈ backend.memberStarts,
    (start ++ "p").toList.isPrefixOf ("    " ++ line).toList = false := by
  cases h with
  | @statement name _ type _ hletter _ =>
    cases backend with
    | wgsl => simp [memberStarts, dialect, Wgsl.dialect, List.isPrefixOf]
    | glsl =>
      have hname : ∀ rest, ['p'].isPrefixOf (name.toList ++ ' ' :: rest) = false := by
        intro rest
        cases hn : name.toList with
        | nil => rfl
        | cons c _ =>
          have hc : 'p' ≠ c := by simpa [hn, eq_comm] using hletter
          simp [List.isPrefixOf, hc]
      cases type <;>
        simp [memberStarts, dialect, Glsl.dialect, Glsl.typeName, List.isPrefixOf, hname]
  | result =>
    cases backend <;> simp [memberStarts, dialect, Wgsl.dialect, Glsl.dialect, List.isPrefixOf]

/-- Nothing is declared in the main function. -/
theorem bodyLine_inert (h : backend.dialect.BodyLine line) :
    backend.inert ("    " ++ line).toList = true := by
  refine inert_iff.mpr ⟨?_, ?_, bodyLine_member h⟩
  · simpa using bodyLine_oneLine h
  · simp [binding?]

/-! ## Members -/

/-- The type of a member in a block of parameters, where WGSL has no Booleans. -/
def memberType : Backend → ShaderType → String
  | wgsl, .bool => "u32"
  | backend, type => backend.dialect.typeName type

/-- The line of a parameter in a block. -/
def memberLine (backend : Backend) (p : Parameter) (type : ShaderType) : String :=
  match backend with
  | wgsl => "    " ++ (p.name ++ ": " ++ wgsl.memberType type ++ ", // " ++ p.slot.label)
  | glsl => "    " ++ (glsl.memberType type ++ " " ++ p.name ++ "; // " ++ p.slot.label)

/-- The lines of the parameters that are not textures, with the types of their values. -/
def memberLines (backend : Backend) (ps : List Parameter) : List String :=
  ps.filterMap fun p => p.value.uniformType?.map (backend.memberLine p)

/-- The type of a member is written with characters that can stand in an expression. -/
theorem plain_memberType (type : ShaderType) : Plain (backend.memberType type) := by
  cases backend <;> cases type <;> decide

/-- A member line has no line break in it. -/
theorem memberLine_oneLine (p : Parameter) (hname : p.name = paramName p.slot) (type : ShaderType) :
    '\n' ∉ (backend.memberLine p type).toList := by
  have hn := (plain_paramName p.slot).not_mem (c := '\n') (by decide)
  have hl := (plain_label p.slot).not_mem (c := '\n') (by decide)
  have ht := fun backend : Backend =>
    (backend.plain_memberType type).not_mem (c := '\n') (by decide)
  cases backend <;> simp [memberLine, hname, hn, hl, ht]

/-- A member line ends in its label, not in a brace. -/
theorem memberLine_getLast? (p : Parameter) (type : ShaderType) :
    (backend.memberLine p type).toList.getLast? ≠ some '\x7b' := by
  have hlast : ∀ s t, (s ++ (t ++ p.slot.label)).toList.getLast? ≠ some '\x7b' := by
    intro s t
    rw [← String.append_assoc]
    exact getLast?_plain (plain_label _) (label_ne_nil _) (by decide)
  cases backend <;> exact hlast _ _

/-- A member line is indented. -/
theorem memberLine_head? (p : Parameter) (type : ShaderType) :
    (backend.memberLine p type).toList.head? = some ' ' := by
  cases backend <;> simp [memberLine]

/-- An indented line binds nothing. -/
theorem binding?_indented {line : List Char} (h : line.head? = some ' ') :
    backend.binding? line = none := if_pos h

/-- The line of a member declares that parameter and no other. -/
theorem declares_memberLine {p : Parameter} (hname : p.name = paramName p.slot) (type : ShaderType)
    (slot : SlotId) : backend.declares (paramName slot) (backend.memberLine p type).toList =
      (p.name == paramName slot) := by
  have hprefix := isPrefixOf_paramName slot p.slot
  rw [declares, binding?_indented (memberLine_head? p type), hname]
  cases backend with
  | wgsl =>
    simp [memberStarts, nameEnd, memberLine, List.isPrefixOf, hname, hprefix ':' (by decide)]
  | glsl =>
    cases type <;>
      simp [memberStarts, nameEnd, memberLine, memberType, dialect, Glsl.dialect, Glsl.typeName,
        List.isPrefixOf, hname, hprefix ';' (by decide)]

/-- What holds of all member lines, whatever the parameters. -/
structure MemberText (text : List (List Char)) : Prop where
  oneLine : ∀ line ∈ text, '\n' ∉ line
  head : ∀ line ∈ text, line.head? = some ' '
  last : ∀ line ∈ text, line.getLast? ≠ some '\x7b'

/-- The member lines of parameters with the names of their slots are all of the kind above. -/
theorem memberText (backend : Backend) {ps : List Parameter}
    (hnames : ∀ p ∈ ps, p.name = paramName p.slot) :
    MemberText ((backend.memberLines ps).map String.toList) := by
  have hline : ∀ line ∈ (backend.memberLines ps).map String.toList,
      ∃ p ∈ ps, ∃ type, line = (backend.memberLine p type).toList := by
    intro line hline
    obtain ⟨text, htext, rfl⟩ := List.mem_map.mp hline
    obtain ⟨p, hp, htext⟩ := List.mem_filterMap.mp htext
    obtain ⟨type, -, rfl⟩ := Option.map_eq_some_iff.mp htext
    exact ⟨p, hp, type, rfl⟩
  constructor
  · intro line hmem
    obtain ⟨p, hp, type, rfl⟩ := hline line hmem
    exact memberLine_oneLine p (hnames p hp) type
  · intro line hmem
    obtain ⟨p, hp, type, rfl⟩ := hline line hmem
    exact memberLine_head? p type
  · intro line hmem
    obtain ⟨p, hp, type, rfl⟩ := hline line hmem
    exact memberLine_getLast? p type

/-- A value that is no texture has a type in the block. -/
theorem exists_uniformType {v : ParameterValue} (h : v.isTexture = false) :
    ∃ type, v.uniformType? = some type := by
  rw [ParameterValue.isTexture, Option.isNone_eq_false_iff] at h
  exact Option.isSome_iff_exists.mp h

/-- The first parameter of the block has the first member line. -/
theorem memberLines_cons {p : Parameter} {rest : List Parameter} {type : ShaderType}
    (htype : p.value.uniformType? = some type) :
    backend.memberLines (p :: rest) = backend.memberLine p type :: backend.memberLines rest := by
  simp [memberLines, htype]

/-- Every member line declares its own parameter. -/
theorem countP_memberLines (backend : Backend) {ps : List Parameter}
    (hnames : ∀ p ∈ ps, p.name = paramName p.slot)
    (hvalues : ∀ p ∈ ps, p.value.isTexture = false) (slot : SlotId) :
    ((backend.memberLines ps).map String.toList).countP (backend.declares (paramName slot)) =
      ps.countP (·.name == paramName slot) := by
  induction ps with
  | nil => rfl
  | cons p rest ih =>
    obtain ⟨hname, hnames⟩ := List.forall_mem_cons.mp hnames
    obtain ⟨hvalue, hvalues⟩ := List.forall_mem_cons.mp hvalues
    obtain ⟨type, htype⟩ := exists_uniformType hvalue
    rw [memberLines_cons htype, List.map_cons, List.countP_cons, List.countP_cons,
      ih hnames hvalues, declares_memberLine hname]

/-! ## Resources -/

/-- How a line that binds the block of parameters goes on after the number. -/
def blockBinding : Backend → String
  | wgsl => ") var<uniform> params: Params;"
  | glsl => ") uniform Params \x7b"

/-- How a line that binds a sampler goes on after the number. -/
def samplerBinding (name : String) : String := ") var " ++ name ++ ": sampler;"

/-- How a line that binds a texture goes on after the number. -/
def textureBinding (backend : Backend) (p : Parameter) : String :=
  match backend with
  | wgsl => ") var " ++ p.name ++ ": texture_2d<f32>; // " ++ p.slot.label
  | glsl => ") uniform sampler2D " ++ p.name ++ "; // " ++ p.slot.label

/-- How the line that binds a resource goes on after the number. -/
def bound (backend : Backend) : Resource → String
  | .uniforms _ => backend.blockBinding
  | .sampler name => samplerBinding name
  | .texture p => backend.textureBinding p

/-- The members of the blocks of parameters that belong to a resource. -/
def blocksOf (backend : Backend) : Resource → List (List (List Char))
  | .uniforms members => [(backend.memberLines members).map String.toList]
  | .sampler _ | .texture _ => []

/-- The parameters that a resource declares. -/
def declaredBy : Resource → List Parameter
  | .uniforms members => members
  | .sampler _ => []
  | .texture p => [p]

/-- The resources that a table can give rise to. -/
inductive Binds (backend : Backend) : Resource → Prop
  | uniforms {members : List Parameter} (hnames : ∀ p ∈ members, p.name = paramName p.slot)
    (hvalues : ∀ p ∈ members, p.value.isTexture = false) : Binds backend (.uniforms members)
  | sampler {name : String} (hname : name ∈ backend.samplers) : Binds backend (.sampler name)
  | texture {p : Parameter} (hname : p.name = paramName p.slot) : Binds backend (.texture p)

/-- What the lines of a resource say. -/
structure ResourceText (backend : Backend) (binding : Nat) (r : Resource)
    (text : List (List Char)) : Prop where
  oneLine : ∀ line ∈ text, '\n' ∉ line
  undefined : ∀ f ∈ Builtin.helpers, ∀ line ∈ text, f.definedIn line = false
  notMain : backend.mainLine.toList ∉ text
  bound : text.filterMap backend.binding? = [(binding, (backend.bound r).toList)]
  blocks : ∀ rest, paramsBlocks (text ++ rest) = backend.blocksOf r ++ paramsBlocks rest
  declared : ∀ slot, text.countP (backend.declares (paramName slot)) =
    (declaredBy r).countP (·.name == paramName slot)

/-! ## Lines that bind something -/

/-- A line that binds something to a number, with what follows the number. -/
structure BindingLine (backend : Backend) (binding : Nat) (rest : String) (line : List Char) :
    Prop where
  oneLine : '\n' ∉ line
  undefined : ∀ f ∈ Builtin.helpers, f.definedIn line = false
  bound : backend.binding? line = some (binding, rest.toList)

/-- How the lines that bind something begin. -/
def bindingStarts : Backend → List String
  | wgsl => ["@group(0) @binding("]
  | glsl => ["layout(std140, set = 0, binding = ", "layout(set = 0, binding = "]

/-- What such a beginning says, whatever follows: it is not indented, the number comes next, and its
first word in front of a parenthesis names no helper. -/
theorem bindingStart {start : String} (hstart : start ∈ backend.bindingStarts) (tail : List Char) :
    '\n' ∉ start.toList ∧ (start.toList ++ tail).head? ≠ some ' ' ∧
      after? backend.bindingMark.toList (start.toList ++ tail) = some tail ∧
      ∃ word ∈ ["group", "layout"], (wordsIn (start.toList ++ tail)).find?
        (fun (_, stop) => stop == some '(') = some (word.toList, some '(') := by
  cases backend with
  | wgsl =>
    obtain rfl := List.mem_singleton.mp hstart
    refine ⟨by decide, by simp, ?_, "group", by decide, ?_⟩
    · simp [bindingMark, after?, List.isPrefixOf]
    · simp [wordsIn, wordsAfter]
  | glsl =>
    rcases List.mem_pair.mp hstart with rfl | rfl
    all_goals
      refine ⟨by decide, by simp, ?_, "layout", by decide, ?_⟩
      · simp [bindingMark, after?, List.isPrefixOf]
      · simp [wordsIn, wordsAfter]

/-- A number behind the beginning of such a line is what the following is bound to. -/
theorem bindingLine {start : String} (hstart : start ∈ backend.bindingStarts) (binding : Nat)
    {rest : String} (hone : '\n' ∉ rest.toList)
    (hrest : rest.toList.head?.any Char.isDigit = false) :
    backend.BindingLine binding rest (start ++ toString binding ++ rest).toList := by
  have hdigits : (toString binding).toList = Nat.toDigits 10 binding := by simp
  have hother : ∀ word ∈ ["group", "layout"], ∀ f ∈ Builtin.helpers,
      (some (word.toList, some '(') == some (f.functionName.toList, some '(')) = false := by decide
  have hstop : ∀ c ∈ rest.toList.head?, c.isDigit = false := by
    simpa [Option.any_eq_false] using hrest
  obtain ⟨htake, hdrop⟩ := Binary32.takeWhile_dropWhile_append
    (Binary32.isDigit_toDigits binding) hstop
  rw [String.toList_append, String.toList_append, List.append_assoc, hdigits]
  obtain ⟨hstartOne, hindent, hmark, word, hword, hfind⟩ :=
    bindingStart hstart (Nat.toDigits 10 binding ++ rest.toList)
  constructor
  · simp only [List.mem_append, not_or]
    exact ⟨hstartOne, hdigits ▸ (plain_nat binding).not_mem (by decide), hone⟩
  · intro f hf
    rw [Builtin.definedIn, hfind, hother word hword f hf, Bool.and_false]
  · rw [binding?, if_neg hindent, hmark, Option.map_some, htake, hdrop,
      Nat.ofDigitChars_ten_toDigits]

example : glsl.binding? "layout(set = 0, binding = 12) uniform sampler2D p_n1_0; // n1:0".toList =
    some (12, ") uniform sampler2D p_n1_0; // n1:0".toList) := by decide

/-- A line that binds something does not begin the main function. -/
theorem BindingLine.not_main {binding : Nat} {rest : String} {line : List Char}
    (h : backend.BindingLine binding rest line) : backend.mainLine.toList ≠ line := by
  have hmain : backend.binding? backend.mainLine.toList = none := by cases backend <;> decide
  rintro rfl
  rw [h.bound] at hmain
  exact absurd hmain (by simp)

/-- Members stand in indented lines, so a line that binds something declares nothing but that. -/
theorem BindingLine.declares {binding : Nat} {rest : String} {line : List Char}
    (h : backend.BindingLine binding rest line) (name : String) :
    backend.declares name line =
      (backend.textureStart ++ name ++ backend.nameEnd).toList.isPrefixOf rest.toList := by
  have hany : (backend.memberStarts.any fun start =>
      (start ++ name ++ backend.nameEnd).toList.isPrefixOf line) = false := by
    rw [List.any_eq_false]
    intro start hstart
    have hhead : start.toList.head? = some ' ' := by
      revert start
      cases backend <;> decide
    rw [List.isPrefixOf_iff_prefix]
    rintro ⟨tail, rfl⟩
    have hbound := h.bound
    rw [binding?_indented (by simp [hhead])] at hbound
    exact absurd hbound (by simp)
  rw [Backend.declares, hany, h.bound, Bool.false_or, Option.any_some]

/-- A line that binds nothing and does not begin like a member declares no parameter. -/
theorem declares_of_inert {line : List Char} (h : backend.inert line = true) (slot : SlotId) :
    backend.declares (paramName slot) line = false := by
  obtain ⟨-, hbinding, hmember⟩ := inert_iff.mp h
  have hany : (backend.memberStarts.any fun start =>
      (start ++ paramName slot ++ backend.nameEnd).toList.isPrefixOf line) = false := by
    rw [List.any_eq_false]
    intro start hstart
    have hother := hmember start hstart
    rw [Bool.eq_false_iff, ne_eq, List.isPrefixOf_iff_prefix] at hother
    rw [List.isPrefixOf_iff_prefix]
    rintro ⟨tail, rfl⟩
    exact hother (by simp [toList_paramName])
  rw [declares, hany, hbinding]
  rfl

/-! ## The text of a resource -/

/-- A resource that is bound in one line. -/
theorem resourceText_line {binding : Nat} {r : Resource} {line : String}
    (hline : backend.BindingLine binding (backend.bound r) line.toList)
    (hlast : line.toList.getLast? ≠ some '\x7b') (hblocks : backend.blocksOf r = [])
    (hdeclared : ∀ slot,
      (if (backend.textureStart ++ paramName slot ++ backend.nameEnd).toList.isPrefixOf
        (backend.bound r).toList then 1 else 0) =
          (declaredBy r).countP (·.name == paramName slot)) :
    backend.ResourceText binding r ([line].map String.toList) := by
  rw [List.map_singleton]
  constructor
  · exact List.forall_mem_singleton.mpr hline.oneLine
  · exact fun f hf => List.forall_mem_singleton.mpr (hline.undefined f hf)
  · exact fun hmem => hline.not_main (List.mem_singleton.mp hmem)
  · rw [List.filterMap_cons_some hline.bound, List.filterMap_nil]
  · intro rest
    rw [hblocks]
    exact paramsBlocks_append (List.forall_mem_singleton.mpr (opensParams_eq_false hlast)) rest
  · intro slot
    rw [List.countP_singleton, hline.declares, hdeclared]

/-- The block of parameters: its members stand between a head and a closing brace, and one of the
lines around them binds it. -/
theorem resourceText_block {members : List Parameter} {head line : List Char}
    {tail : List (List Char)} (before after : List (List Char)) {binding : Nat}
    (hnames : ∀ p ∈ members, p.name = paramName p.slot)
    (hvalues : ∀ p ∈ members, p.value.isTexture = false)
    (hline : backend.BindingLine binding backend.blockBinding line)
    (hframe : head :: tail = before ++ line :: after) (hfixed : backend.FixedText (before ++ after))
    (hopens : opensParams head = true) (hcloses : ∀ line ∈ tail, opensParams line = false)
    (hbrace : ∃ close more, tail = close :: more ∧ close.head? = some '\x7d')
    (hnothing : ∀ slot, backend.declares (paramName slot) line = false) :
    backend.ResourceText binding (.uniforms members)
      (head :: ((backend.memberLines members).map String.toList ++ tail)) := by
  have hmembers := backend.memberText hnames
  have hcount := backend.countP_memberLines hnames hvalues
  have hblocks : backend.blocksOf (.uniforms members) =
      [(backend.memberLines members).map String.toList] := rfl
  generalize (backend.memberLines members).map String.toList = text at hmembers hcount hblocks ⊢
  have hmem : ∀ other, other ∈ head :: (text ++ tail) →
      other ∈ text ∨ other = line ∨ other ∈ before ++ after := by
    intro other hother
    have hother : other ∈ text ∨ other ∈ head :: tail := by
      simp only [List.mem_cons, List.mem_append] at hother ⊢
      tauto
    rw [hframe] at hother
    simp only [List.mem_cons, List.mem_append] at hother ⊢
    tauto
  have hsilent : ∀ other ∈ before ++ after, backend.binding? other = none :=
    fun other hother => (inert_iff.mp (hfixed.inert other hother)).2.1
  constructor
  · intro other hother
    rcases hmem other hother with hother | rfl | hother
    · exact hmembers.oneLine other hother
    · exact hline.oneLine
    · exact (inert_iff.mp (hfixed.inert other hother)).1
  · intro f hf other hother
    rcases hmem other hother with hother | rfl | hother
    · exact Builtin.definedIn_eq_false (hmembers.last other hother)
    · exact hline.undefined f hf
    · exact hfixed.undefined f hf other hother
  · intro hother
    rcases hmem _ hother with hother | hother | hother
    · have hhead := hmembers.head _ hother
      cases backend <;> exact absurd hhead (by decide)
    · exact hline.not_main hother
    · exact hfixed.notMain hother
  · have hnone : text.filterMap backend.binding? = [] := by
      rw [List.filterMap_eq_nil_iff]
      exact fun other hother => binding?_indented (hmembers.head other hother)
    rw [List.forall_mem_append, ← List.filterMap_eq_nil_iff, ← List.filterMap_eq_nil_iff] at hsilent
    rw [List.filterMap_cons, List.filterMap_append, hnone, List.nil_append, ← List.filterMap_cons,
      hframe, List.filterMap_append, List.filterMap_cons_some hline.bound, hsilent.1, hsilent.2]
    rfl
  · intro rest
    have hquiet : ∀ other ∈ text ++ tail, opensParams other = false :=
      List.forall_mem_append.mpr
        ⟨fun other hother => opensParams_eq_false (hmembers.last other hother), hcloses⟩
    have hinside : ∀ other ∈ text, (other.head? != some '\x7d') = true := by
      intro other hother
      rw [hmembers.head other hother]
      decide
    obtain ⟨close, more, rfl, hclose⟩ := hbrace
    have hend : (close :: (more ++ rest)).takeWhile (·.head? != some '\x7d') = [] := by
      simp [hclose]
    rw [hblocks, List.cons_append, paramsBlocks, if_pos hopens, paramsBlocks_append hquiet,
      List.append_assoc, List.takeWhile_append_of_pos hinside, List.cons_append, hend,
      List.append_nil]
    rfl
  · intro slot
    have hnone : (head :: tail).countP (backend.declares (paramName slot)) = 0 := by
      rw [hframe, List.countP_eq_zero]
      intro other hother
      have hother : other = line ∨ other ∈ before ++ after := by
        simp only [List.mem_cons, List.mem_append] at hother ⊢
        tauto
      rcases hother with rfl | hother
      · simp [hnothing slot]
      · simp [declares_of_inert (hfixed.inert other hother) slot]
    rw [List.countP_cons] at hnone
    rw [declaredBy, ← hcount, List.countP_cons, List.countP_append]
    omega

/-- The lines of a block are those of its members, if each line is written for the type of its
value. -/
theorem memberLines_eq {members : List Parameter} {line : Parameter → String}
    (hvalues : ∀ p ∈ members, p.value.isTexture = false)
    (hline : ∀ p type, p.value.uniformType? = some type →
      "    " ++ line p = backend.memberLine p type) :
    (members.map line).map ("    " ++ ·) = backend.memberLines members := by
  induction members with
  | nil => rfl
  | cons p rest ih =>
    obtain ⟨hvalue, hvalues⟩ := List.forall_mem_cons.mp hvalues
    obtain ⟨type, htype⟩ := exists_uniformType hvalue
    rw [List.map_cons, List.map_cons, ih hvalues, hline p type htype, memberLines_cons htype]

end Backend

open Backend

/-- A text shows as itself. -/
theorem toString_text (s : String) : toString s = s := rfl

/-! ## Declarations as they are written -/

/-- The block in WGSL: a structure with the members, an empty line and the binding. -/
theorem Wgsl.declare_uniforms (binding : Nat) {members : List Parameter}
    (hvalues : ∀ p ∈ members, p.value.isTexture = false) :
    Wgsl.declare binding (.uniforms members) =
      "struct Params \x7b" :: (wgsl.memberLines members ++
        ["\x7d", "", "@group(0) @binding(" ++ toString binding ++ wgsl.blockBinding]) := by
  have hline : ∀ (p : Parameter) type, p.value.uniformType? = some type →
      "    " ++ (p.name ++ ": " ++ uniformType p.value ++ ", // " ++ p.slot.label) =
        wgsl.memberLine p type := by
    rintro ⟨name, slot, value⟩ type htype
    cases value with
    | lut | image => cases htype
    | _ =>
      obtain rfl := Option.some.inj htype
      rfl
  rw [declare, block, memberLines_eq hvalues hline]
  simp [blockBinding, toString_text, String.append_assoc]

/-- The block in GLSL: the binding opens it, and the members follow. -/
theorem Glsl.declare_uniforms (binding : Nat) {members : List Parameter}
    (hvalues : ∀ p ∈ members, p.value.isTexture = false) :
    Glsl.declare binding (.uniforms members) =
      ("layout(std140, set = 0, binding = " ++ toString binding ++ glsl.blockBinding) ::
        (glsl.memberLines members ++ ["\x7d params;"]) := by
  have hline : ∀ (p : Parameter) type, p.value.uniformType? = some type →
      "    " ++ (uniformType p.value ++ " " ++ p.name ++ "; // " ++ p.slot.label) =
        glsl.memberLine p type := by
    rintro ⟨name, slot, value⟩ type htype
    cases value with
    | lut | image => cases htype
    | _ =>
      obtain rfl := Option.some.inj htype
      rfl
  rw [declare, block, memberLines_eq hvalues hline]
  simp [blockBinding, toString_text, String.append_assoc]

/-- A sampler takes one line in WGSL. -/
theorem Wgsl.declare_sampler (binding : Nat) (name : String) :
    Wgsl.declare binding (.sampler name) =
      ["@group(0) @binding(" ++ toString binding ++ samplerBinding name] := by
  simp only [declare, samplerBinding, toString_text, String.append_assoc]

/-- A texture takes one line in WGSL. -/
theorem Wgsl.declare_texture (binding : Nat) (p : Parameter) :
    Wgsl.declare binding (.texture p) =
      ["@group(0) @binding(" ++ toString binding ++ wgsl.textureBinding p] := by
  unfold textureBinding
  simp only [declare, toString_text, String.append_assoc]

/-- A texture takes one line in GLSL. -/
theorem Glsl.declare_texture (binding : Nat) (p : Parameter) :
    Glsl.declare binding (.texture p) =
      ["layout(set = 0, binding = " ++ toString binding ++ glsl.textureBinding p] := by
  unfold textureBinding
  simp only [declare, toString_text, String.append_assoc]

namespace Backend

variable {backend : Backend}

/-- The line of a sampler says that the sampler is bound, and nothing else. -/
theorem samplerText (binding : Nat) {name : String} (hname : name ∈ samplerNames) :
    wgsl.ResourceText binding (.sampler name)
      ((Wgsl.declare binding (.sampler name)).map String.toList) := by
  have hone : '\n' ∉ name.toList := by
    revert name
    decide
  have hletter : name.toList.head? = some 'n' := by
    revert name
    decide
  obtain ⟨rest, hrest⟩ := List.head?_eq_some_iff.mp hletter
  rw [Wgsl.declare_sampler]
  refine resourceText_line (bindingLine (by decide) binding ?_ ?_) ?_ rfl ?_
  · simp [bound, samplerBinding, hone]
  · simp [bound, samplerBinding]
  · rw [samplerBinding, ← String.append_assoc, getLast?_text (c := ';') (by decide)]
    decide
  · intro slot
    simp [textureStart, bound, samplerBinding, hrest, toList_paramName, List.isPrefixOf, declaredBy]

/-- The line of a texture binds it and declares its parameter, and says nothing else. -/
theorem textureText (binding : Nat) {p : Parameter} (hname : p.name = paramName p.slot) :
    backend.ResourceText binding (.texture p)
      ((backend.dialect.declare binding (.texture p)).map String.toList) := by
  have hlabel := (plain_label p.slot).not_mem (c := '\n') (by decide)
  have hn := (plain_paramName p.slot).not_mem (c := '\n') (by decide)
  have hlast : ∀ s, (s ++ backend.textureBinding p).toList.getLast? ≠ some '\x7b' := by
    intro s
    unfold textureBinding
    cases backend <;>
    · dsimp only
      rw [← String.append_assoc]
      exact getLast?_plain (plain_label _) (label_ne_nil _) (by decide)
  have hdeclared := fun slot => isPrefixOf_paramName slot p.slot
  cases backend
  case' wgsl =>
    change wgsl.ResourceText binding (.texture p)
      ((Wgsl.declare binding (.texture p)).map String.toList)
    rw [Wgsl.declare_texture]
  case' glsl =>
    change glsl.ResourceText binding (.texture p)
      ((Glsl.declare binding (.texture p)).map String.toList)
    rw [Glsl.declare_texture]
  all_goals
    refine resourceText_line (bindingLine (by decide) binding ?_ ?_) (hlast _) rfl ?_
    all_goals unfold bound textureBinding
    · simp [hname, hn, hlabel]
    · simp
    · intro slot
      simp [textureStart, nameEnd, hname, hdeclared slot ':' (by decide),
        hdeclared slot ';' (by decide), List.isPrefixOf, declaredBy, List.countP_singleton]

/-- The lines of a block bind it, open one block with the member lines, and declare each member. -/
theorem uniformsText (binding : Nat) {members : List Parameter}
    (hnames : ∀ p ∈ members, p.name = paramName p.slot)
    (hvalues : ∀ p ∈ members, p.value.isTexture = false) :
    backend.ResourceText binding (.uniforms members)
      ((backend.dialect.declare binding (.uniforms members)).map String.toList) := by
  cases backend with
  | wgsl =>
    have hline : wgsl.BindingLine binding wgsl.blockBinding
        ("@group(0) @binding(" ++ toString binding ++ wgsl.blockBinding).toList :=
      bindingLine (by decide) binding (by decide) (by decide)
    have hlast : ("@group(0) @binding(" ++ toString binding ++ wgsl.blockBinding).toList.getLast? =
        some ';' := getLast?_text (by decide)
    change wgsl.ResourceText binding (.uniforms members)
      ((Wgsl.declare binding (.uniforms members)).map String.toList)
    rw [Wgsl.declare_uniforms binding hvalues, List.map_cons, List.map_append]
    refine resourceText_block ["struct Params \x7b".toList, "\x7d".toList, []] [] hnames hvalues
      hline rfl (by decide) (by decide) ?_ ⟨_, _, rfl, by decide⟩ ?_
    · have hquiet := opensParams_eq_false (ne_of_eq_of_ne hlast (by decide))
      exact List.forall_mem_cons.mpr ⟨by decide, List.forall_mem_cons.mpr ⟨by decide,
        List.forall_mem_singleton.mpr hquiet⟩⟩
    · intro slot
      rw [hline.declares]
      simp [textureStart, blockBinding, List.isPrefixOf]
  | glsl =>
    have hline : glsl.BindingLine binding glsl.blockBinding
        ("layout(std140, set = 0, binding = " ++ toString binding ++ glsl.blockBinding).toList :=
      bindingLine (by decide) binding (by decide) (by decide)
    change glsl.ResourceText binding (.uniforms members)
      ((Glsl.declare binding (.uniforms members)).map String.toList)
    rw [Glsl.declare_uniforms binding hvalues, List.map_cons, List.map_append]
    refine resourceText_block [] ["\x7d params;".toList] hnames hvalues hline rfl (by decide) ?_
      (by decide) ⟨_, _, rfl, by decide⟩ ?_
    · rw [opensParams, List.isSuffixOf_iff_suffix, String.toList_append]
      exact List.IsSuffix.trans (by decide) (List.suffix_append _ _)
    · intro slot
      rw [hline.declares]
      simp [textureStart, blockBinding, List.isPrefixOf]

/-- **What the lines of a resource say**, in every language. -/
theorem resourceText (binding : Nat) {r : Resource} (h : backend.Binds r) :
    backend.ResourceText binding r ((backend.dialect.declare binding r).map String.toList) := by
  cases h with
  | uniforms hnames hvalues => exact uniformsText binding hnames hvalues
  | sampler hname =>
    cases backend with
    | wgsl => exact samplerText binding hname
    | glsl => exact absurd hname List.not_mem_nil
  | texture hname => exact textureText binding hname

end Backend

end ShaderGraph
