import Mathlib.Data.List.Forall2
import ShaderGraph.Proofs.Dialect.Lines

/-!
# Reading source text

What the lines of a shader tell without its program: which helpers they define and call, where the
main function begins, which numbers are bound to what, and which parameters are declared. The text
of a language that is there in every shader, and that of its helpers, is read here once and for all.
-/

set_option autoImplicit false

namespace ShaderGraph

/-! ## Words -/

/-- The words of a line that goes on after some characters of a word, which come last to first; each
stands with the character that ends it. -/
def wordsAfter (word : List Char) : List Char → List (List Char × Option Char)
  | [] => [(word.reverse, none)]
  | c :: rest =>
    if c.isAlphanum || c == '_' then wordsAfter (c :: word) rest
    else (word.reverse, some c) :: wordsAfter [] rest

/-- The words of a line, each with the character that ends it. -/
def wordsIn (line : List Char) : List (List Char × Option Char) := wordsAfter [] line

/-- Whether a word is one of those of a line. -/
def occursIn (word : String) (line : List Char) : Bool :=
  (wordsIn line).any fun (other, _) => other == word.toList

/-! ## Functions -/

namespace Builtin

/-- The functions whose source a dialect has to provide, in declaration order. -/
def helpers : List Builtin := all.filter isHelper

/-- The list of helpers has exactly the functions that are helpers. -/
theorem mem_helpers {f : Builtin} : f ∈ helpers ↔ f.isHelper = true := by
  cases f <;> decide

/-- Whether a line names a function in front of a parenthesis. -/
def namedIn (f : Builtin) (line : List Char) : Bool :=
  (wordsIn line).contains (f.functionName.toList, some '(')

/-- Whether a line begins the definition of a function: it opens a block, and the function is the
first to be named in front of a parenthesis. -/
def definedIn (f : Builtin) (line : List Char) : Bool :=
  line.getLast? == some '\x7b' &&
    (wordsIn line).find? (fun (_, stop) => stop == some '(') ==
      some (f.functionName.toList, some '(')

end Builtin

/-- The names of the samplers. -/
def samplerNames : List String := ["ns_linear_sampler", "ns_nearest_sampler"]

/-! ## Resources -/

/-- What follows the first occurrence of some characters in a line. -/
def after? (mark : List Char) : List Char → Option (List Char)
  | [] => none
  | c :: rest =>
    if mark.isPrefixOf (c :: rest) then some ((c :: rest).drop mark.length) else after? mark rest

/-- Whether a line opens a block of parameters. -/
def opensParams (line : List Char) : Bool := "Params \x7b".toList.isSuffixOf line

/-- The members of each block of parameters: the lines before the brace that closes it. -/
def paramsBlocks : List (List Char) → List (List (List Char))
  | [] => []
  | line :: rest =>
    if opensParams line then rest.takeWhile (·.head? != some '\x7d') :: paramsBlocks rest
    else paramsBlocks rest

/-- Lines that open no block in front of a text do not change the blocks found in it. -/
theorem paramsBlocks_append {text : List (List Char)} (h : ∀ line ∈ text, opensParams line = false)
    (rest : List (List Char)) : paramsBlocks (text ++ rest) = paramsBlocks rest := by
  induction text with
  | nil => rfl
  | cons line text ih =>
    obtain ⟨hline, htext⟩ := List.forall_mem_cons.mp h
    rw [List.cons_append, paramsBlocks, hline, ← ih htext]
    rfl

namespace Backend

/-- The samplers that are bound where there are textures: in GLSL, a texture comes with its own. -/
def samplers : Backend → List String
  | wgsl => samplerNames
  | glsl => []

/-- The samplers that a dialect declares are those read off its sources. -/
theorem dialect_samplers (backend : Backend) : backend.dialect.samplers = backend.samplers := by
  cases backend <;> rfl

/-- The line that begins the main function. -/
def mainLine : Backend → String
  | wgsl => "fn fs_main(in: FragmentInput) -> @location(0) vec4<f32> \x7b"
  | glsl => "void main() \x7b"

/-- What stands before a binding number. -/
def bindingMark : Backend → String
  | wgsl => "@binding("
  | glsl => "binding = "

/-- The binding number that a line gives and what follows it. Resources are bound outside of braces,
so nothing is bound in an indented line. -/
def binding? (backend : Backend) (line : List Char) : Option (Nat × List Char) :=
  if line.head? = some ' ' then none
  else (after? backend.bindingMark.toList line).map fun rest =>
    (Nat.ofDigitChars 10 (rest.takeWhile Char.isDigit) 0, rest.dropWhile Char.isDigit)

/-- What stands before the name of a parameter in a block. -/
def memberStarts : Backend → List String
  | wgsl => ["    "]
  | glsl => ["    bool ", "    int ", "    float ", "    vec3 ", "    vec4 "]

/-- What stands between the binding number and the name of a texture. -/
def textureStart : Backend → String
  | wgsl => ") var "
  | glsl => ") uniform sampler2D "

/-- What stands after the name of a parameter where it is declared. -/
def nameEnd : Backend → String
  | wgsl => ":"
  | glsl => ";"

/-- Whether a line declares a parameter of a name, as a member of a block or as a texture. -/
def declares (backend : Backend) (name : String) (line : List Char) : Bool :=
  (backend.memberStarts.any fun start =>
    (start ++ name ++ backend.nameEnd).toList.isPrefixOf line) ||
  (backend.binding? line).any fun (_, rest) =>
    (backend.textureStart ++ name ++ backend.nameEnd).toList.isPrefixOf rest

/-- Whether a line is one line, binds no resource and does not begin like a member of a block. -/
def inert (backend : Backend) (line : List Char) : Bool :=
  !line.contains '\n' && (backend.binding? line).isNone &&
    backend.memberStarts.all fun start => !(start ++ "p").toList.isPrefixOf line

/-- What it means that a line is inert, clause by clause. -/
theorem inert_iff {backend : Backend} {line : List Char} : backend.inert line = true ↔
    '\n' ∉ line ∧ backend.binding? line = none ∧
      ∀ start ∈ backend.memberStarts, (start ++ "p").toList.isPrefixOf line = false := by
  simp [inert, and_assoc]

/-! ## The text that is always there -/

/-- What fixed lines do not say: they bind nothing, declare no parameter, and define no function. -/
structure FixedText (backend : Backend) (text : List (List Char)) : Prop where
  inert : ∀ line ∈ text, backend.inert line = true
  undefined : ∀ f ∈ Builtin.helpers, ∀ line ∈ text, f.definedIn line = false
  notMain : backend.mainLine.toList ∉ text

/-- What the text of a helper says: it declares nothing, defines the helper, names no other but
those that the helper calls, and mentions samplers only where they are bound and only if the helper
takes a texture. -/
structure HelperText (backend : Backend) (f : Builtin) (text : List (List Char)) : Prop where
  inert : ∀ line ∈ text, backend.inert line = true
  unopened : ∀ line ∈ text, opensParams line = false
  defined : ∀ g ∈ Builtin.helpers, text.countP g.definedIn = if g = f then 1 else 0
  named : ∀ g ∈ Builtin.helpers, text.any g.namedIn = true → g = f ∨ g ∈ f.dependencies
  sampled : ∀ sampler ∈ samplerNames, text.any (occursIn sampler) = true →
    sampler ∈ backend.samplers ∧ f.takesTexture = true
  notMain : backend.mainLine.toList ∉ text

/-- Fixed lines are finitely many, so what they do not say can be looked up. -/
instance (backend : Backend) (text : List (List Char)) : Decidable (backend.FixedText text) :=
  decidable_of_iff (_ ∧ _ ∧ _) ⟨fun ⟨h₁, h₂, h₃⟩ => ⟨h₁, h₂, h₃⟩, fun ⟨h₁, h₂, h₃⟩ => ⟨h₁, h₂, h₃⟩⟩

/-- The lines of a helper are finitely many, so what they say can be looked up. -/
instance (backend : Backend) (f : Builtin) (text : List (List Char)) :
    Decidable (backend.HelperText f text) :=
  decidable_of_iff (_ ∧ _ ∧ _ ∧ _ ∧ _ ∧ _)
    ⟨fun ⟨h₁, h₂, h₃, h₄, h₅, h₆⟩ => ⟨h₁, h₂, h₃, h₄, h₅, h₆⟩,
      fun ⟨h₁, h₂, h₃, h₄, h₅, h₆⟩ => ⟨h₁, h₂, h₃, h₄, h₅, h₆⟩⟩

end Backend

namespace Wgsl

/-- What stands in every WGSL source neither binds nor declares nor defines anything. -/
theorem fixedTexts : ∃ text,
    Spells (dialect.opening ++ dialect.interface ++ dialect.mainHead.1) text ∧
      Backend.wgsl.FixedText text ∧ ∀ line ∈ text, opensParams line = false := by
  refine ⟨_, .append (.append (.cons (.cons .nil))
    (.cons (.block (.cons (.cons (.cons .nil)))))) (.cons .nil), ?_⟩
  decide +kernel

/-- The texts of all helpers are read at once, so that every name is spelled out only once. -/
theorem helperTexts : ∃ texts,
    List.Forall₂ (fun f text => Spells (dialect.helper f) text) Builtin.helpers texts ∧
      ∀ entry ∈ Builtin.helpers.zip texts, Backend.wgsl.HelperText entry.1 entry.2 := by
  refine ⟨_,
    .cons (.block (.cons .nil)) <|
    .cons (.block (.cons .nil)) <|
    .cons (.append (.append (.block (.cons .nil)) (.cons (.block
        (.cons (.cons (.cons (.cons (.cons_append (.cons_append (.cons_append (.cons .nil)))))))))))
        (.cons (.block (.append (.append (.cons (.cons (.cons (.cons (.cons .nil)))))
          (.block (.cons (.cons (.cons (.cons .nil)))))) (.cons .nil))))) <|
    .cons (.block (.cons (.cons (.cons (.cons (.cons .nil)))))) <|
    .cons (.block (.cons (.cons .nil))) <|
    .cons (.block (.cons (.cons (.cons .nil)))) <|
    .cons (.block (.cons (.cons (.cons (.cons (.cons (.cons (.cons (.cons (.cons (.cons (.cons
        .nil)))))))))))) <|
    .cons (.block (.cons (.cons (.cons (.cons (.cons (.cons (.cons .nil)))))))) <|
    .cons (.block (.cons .nil)) <|
    .cons (.block (.cons .nil)) <|
    .nil, ?_⟩
  decide +kernel

end Wgsl

namespace Glsl

/-- What stands in every GLSL source neither binds nor declares nor defines anything. -/
theorem fixedTexts : ∃ text,
    Spells (dialect.opening ++ dialect.interface ++ dialect.mainHead.1) text ∧
      Backend.glsl.FixedText text ∧ ∀ line ∈ text, opensParams line = false := by
  refine ⟨_, .append (.append
    (.cons (.cons (.cons (.cons (.cons (.cons (.cons (.cons .nil)))))))) .nil) .nil, ?_⟩
  decide +kernel

/-- The texts of all helpers are read at once, so that every name is spelled out only once. -/
theorem helperTexts : ∃ texts,
    List.Forall₂ (fun f text => Spells (dialect.helper f) text) Builtin.helpers texts ∧
      ∀ entry ∈ Builtin.helpers.zip texts, Backend.glsl.HelperText entry.1 entry.2 := by
  refine ⟨_,
    .cons (.block (.cons .nil)) <|
    .cons (.block (.cons .nil)) <|
    .cons (.append (.append (.block (.cons .nil)) (.cons (.block
        (.cons (.cons (.cons (.cons (.cons (.cons (.cons (.cons .nil)))))))))))
        (.cons (.block (.append (.append (.cons (.cons (.cons (.cons (.cons .nil)))))
          (.block (.cons (.cons (.cons (.cons .nil)))))) (.cons .nil))))) <|
    .cons (.block (.cons (.cons (.cons (.cons (.cons .nil)))))) <|
    .cons (.block (.cons (.cons .nil))) <|
    .cons (.block (.cons (.cons (.cons .nil)))) <|
    .cons (.block (.cons (.cons (.cons (.cons (.cons (.cons (.cons (.cons (.cons (.cons (.cons
        .nil)))))))))))) <|
    .cons (.block (.cons (.cons (.cons (.cons (.cons (.cons (.cons .nil)))))))) <|
    .cons (.block (.cons .nil)) <|
    .cons (.block (.cons (.cons (.cons .nil)))) <|
    .nil, ?_⟩
  decide +kernel

end Glsl

namespace Backend

variable (backend : Backend)

/-- The lines that are the same in every shader. -/
theorem fixedText : backend.FixedText ((backend.dialect.opening ++ backend.dialect.interface ++
      backend.dialect.mainHead.1).map String.toList) ∧
    ∀ line ∈ (backend.dialect.opening ++ backend.dialect.interface ++
      backend.dialect.mainHead.1).map String.toList, opensParams line = false := by
  cases backend with
  | wgsl =>
    obtain ⟨text, hspells, htext⟩ := Wgsl.fixedTexts
    exact hspells ▸ htext
  | glsl =>
    obtain ⟨text, hspells, htext⟩ := Glsl.fixedTexts
    exact hspells ▸ htext

/-- The lines of every helper. -/
theorem helperText {f : Builtin} (hf : f ∈ Builtin.helpers) :
    backend.HelperText f ((backend.dialect.helper f).map String.toList) := by
  obtain ⟨texts, hspells, htexts⟩ : ∃ texts,
      List.Forall₂ (fun f text => Spells (backend.dialect.helper f) text) Builtin.helpers texts ∧
        ∀ entry ∈ Builtin.helpers.zip texts, backend.HelperText entry.1 entry.2 := by
    cases backend with
    | wgsl => exact Wgsl.helperTexts
    | glsl => exact Glsl.helperTexts
  obtain ⟨hlength, hspells⟩ := List.forall₂_iff_zip.mp hspells
  rw [← List.map_fst_zip hlength.le] at hf
  obtain ⟨⟨f, text⟩, hentry, rfl⟩ := List.mem_map.mp hf
  obtain rfl := hspells hentry
  exact htexts _ hentry

end Backend

end ShaderGraph
