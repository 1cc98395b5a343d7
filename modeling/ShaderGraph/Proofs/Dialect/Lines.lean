import ShaderGraph.Proofs.Dialect.Spelling

/-!
# The lines of a source text

A source text ends every line with a break, so its lines can be told apart again as long as none of
them holds a break itself. What a backend writes is the lines that are fixed for the language, those
that declare the parameters, the helpers and the main function, whose body has one line for each
statement and one for the result.
-/

set_option autoImplicit false

namespace ShaderGraph

/-! ## Lines -/

/-- The lines of a text in which every line ends with a break. -/
def linesOf (source : String) : List (List Char) := (source.toList.splitOn '\n').dropLast

/-- Lines that hold no break can be told apart. -/
theorem linesOf_join {lines : List String} (h : ∀ line ∈ lines, '\n' ∉ line.toList) :
    linesOf (String.join (lines.map (· ++ "\n"))) = lines.map String.toList := by
  have hbreaks : (String.join (lines.map (· ++ "\n"))).toList =
      ['\n'].intercalate (lines.map String.toList ++ [[]]) := by
    rw [String.toList_join]
    clear h
    induction lines with
    | nil => rfl
    | cons line rest ih =>
      rw [List.map_cons, List.flatMap_cons, ih]
      cases rest <;> simp [List.intercalate_cons_cons]
  have hwhole : ∀ line ∈ lines.map String.toList ++ [[]], '\n' ∉ line := by
    simpa [or_imp, forall_and] using h
  rw [linesOf, hbreaks, List.splitOn_intercalate _ hwhole (by simp), List.dropLast_concat]

/-! ## The lines of an emitted program -/

namespace Dialect

variable {d : Dialect}

/-- The lines that can stand in a main function, apart from their indentation: they bind a variable
that is not called like a parameter, or give the result. -/
inductive BodyLine (d : Dialect) : String → Prop
  | statement {name value : String} {type : ShaderType} (hname : Plain name)
    (hletter : name.toList.head? ≠ some 'p') (hvalue : Plain value) :
    BodyLine d (d.statement name type value)
  | result {color alpha : String} (hcolor : Plain color) (halpha : Plain alpha) :
    BodyLine d (d.result color alpha)

/-- The lines of a source text with the given lines in its main function. -/
def sourceLines (d : Dialect) (table : ParameterTable) (features : List Builtin)
    (body : List String) : List String :=
  d.opening ++ d.resourceLines table ++ d.interface ++ d.helperLines features ++
    "" :: (d.mainHead.1 ++ block d.mainHead.2 body "")

/-- What is written for a program whose names are plain. -/
theorem SpellsPlain.emit (hd : d.SpellsPlain) {program : Program} {source : String}
    (hnames : ∀ s ∈ program.statements, Plain s.name ∧ s.name.toList.head? ≠ some 'p')
    (hparts : ∀ part ∈ program.parts, part.Spelled) (h : d.emit program = .ok source) :
    ∃ body, (∀ line ∈ body, d.BodyLine line) ∧
      source = String.join
        ((d.sourceLines program.parameters program.features body).map (· ++ "\n")) := by
  have hwrite : ∀ expr ∈ program.expressions, ∀ {text : String},
      d.writeExpr program.parameters expr = .ok text → Plain text := by
    intro expr hexpr text htext
    exact hd.writeExpr expr
      (fun part hpart => hparts part (List.mem_flatMap.mpr ⟨expr, hexpr, hpart⟩)) htext
  rw [Dialect.emit] at h
  split at h
  · exact absurd h (by simp)
  obtain ⟨main, hmain, h⟩ := bind_eq_ok_iff.mp h
  obtain ⟨lines, hlines, hmain⟩ := bind_eq_ok_iff.mp hmain
  obtain ⟨color, hcolor, hmain⟩ := bind_eq_ok_iff.mp hmain
  obtain ⟨alpha, halpha, hmain⟩ := bind_eq_ok_iff.mp hmain
  obtain rfl := Except.ok.inj hmain
  obtain rfl := Except.ok.inj h
  refine ⟨lines ++ [d.result color alpha], List.forall_mem_append.mpr ⟨?_, ?_⟩, rfl⟩
  · intro line hline
    obtain ⟨s, hs, hline⟩ := mapM_ok_mem hlines line hline
    cases hvalue : d.writeExpr program.parameters s.expr with
    | error e => simp [statementLine, hvalue, Except.map] at hline
    | ok value =>
      rw [statementLine, hvalue] at hline
      obtain rfl := Except.ok.inj hline
      obtain ⟨hname, hletter⟩ := hnames s hs
      have hexpr : s.expr ∈ program.expressions :=
        List.mem_append_left _ (List.mem_map_of_mem hs)
      exact .statement hname hletter (hwrite _ hexpr hvalue)
  · exact List.forall_mem_singleton.mpr
      (.result (hwrite _ (by simp [Program.expressions]) hcolor)
        (hwrite _ (by simp [Program.expressions]) halpha))

end Dialect

/-! ## Fixed text -/

/-- Whether lines have the given characters. -/
def Spells (lines : List String) (chars : List (List Char)) : Prop :=
  lines.map String.toList = chars

namespace Spells

variable {a b : List String} {x y : List (List Char)}

/-- No lines have no characters. -/
theorem nil : Spells [] [] := rfl

/-- A line in front is spelled by its characters. -/
theorem cons {line : List Char} (h : Spells a x) :
    Spells (String.ofList line :: a) (line :: x) := by
  rw [Spells, List.map_cons, String.toList_ofList, h]

/-- A line of two parts is spelled by the characters of both. -/
theorem cons_append {s t : List Char} (h : Spells a x) :
    Spells ((String.ofList s ++ String.ofList t) :: a) ((s ++ t) :: x) := by
  rw [Spells, List.map_cons, String.toList_append, String.toList_ofList, String.toList_ofList, h]

/-- Lines one after the other are spelled by their characters one after the other. -/
theorem append (ha : Spells a x) (hb : Spells b y) : Spells (a ++ b) (x ++ y) := by
  rw [Spells, List.map_append, ha, hb]

/-- A block is spelled by its head with a brace, its indented lines and the closing brace. -/
theorem block {head close : List Char} (h : Spells a x) :
    Spells (block (String.ofList head) a (String.ofList close))
      ((head ++ [' ', '\x7b']) :: (x.map ([' ', ' ', ' ', ' '] ++ ·) ++ ['\x7d' :: close])) := by
  rw [Spells] at h
  subst h
  simp [Spells, ShaderGraph.block]

end Spells

end ShaderGraph
