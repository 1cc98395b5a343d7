import Mathlib.Tactic.Common
import ShaderGraph.CommandLine
import ShaderGraph.Proofs.Refusal

/-!
# The grammar of command lines

What follows the name of a command is a list of items: a file, a backend behind `--backend`, or an
output file behind `--out`. What stands behind an option belongs to it, whatever it looks like, so
reading takes the items off one by one and arguments are written from items in one way only. A
command line is then the name of a command and its items, and everything else is refused.
-/

set_option autoImplicit false

namespace ShaderGraph

/-- A name in any letter case names one backend at most. -/
theorem Backend.ofName?_eq_some_iff {name : String} {backend : Backend} :
    ofName? name = some backend ↔ name.toList.map Char.toLower = backend.name.toList := by
  unfold ofName? all
  generalize name.toList.map Char.toLower = letters
  constructor
  · intro h
    exact (eq_of_beq (List.find?_some (p := fun b : Backend => b.name.toList == letters) h)).symm
  · rintro rfl
    cases backend <;> decide

namespace CommandLine

/-- Whether an argument looks like an option. -/
def IsOption (argument : String) : Prop := argument.startsWith "--" = true

/-! ## Items -/

/-- What is said by one argument, or by an option and the argument behind it. -/
inductive Item
  | file (argument : String)
  /-- A backend by one of the spellings of its name. -/
  | backend (chosen : Backend) (name : String)
  | out (argument : String)

namespace Item

/-- The arguments that an item is written as. -/
def written : Item → List String
  | file argument => [argument]
  | backend _ name => ["--backend", name]
  | out argument => ["--out", argument]

/-- Whether an item can be written: a file must not look like an option, and the name of a backend
may be in any letter case. -/
def Allowed : Item → Prop
  | file argument => ¬IsOption argument
  | backend chosen name => name.toList.map Char.toLower = chosen.name.toList
  | out _ => True

/-- The file of an item. -/
def file? : Item → Option Path
  | file argument => some ⟨argument⟩
  | _ => none

/-- The backend of an item. -/
def backend? : Item → Option Backend
  | backend chosen _ => some chosen
  | _ => none

/-- The output file of an item. -/
def out? : Item → Option Path
  | out argument => some ⟨argument⟩
  | _ => none

end Item

/-- The last of a list is the first only where nothing follows. -/
theorem getLast?_cons_or {α : Type} (a : α) (rest : List α) (before : Option α) :
    (a :: rest).getLast?.or before = rest.getLast?.or (some a) := by
  rw [List.getLast?_cons, Option.some_or, Option.or_some]

/-- Whether items say what was read from them, given what was read before them: there is one file at
most in all, and the last option of a kind counts. -/
structure Continues (read result : Arguments) (items : List Item) : Prop where
  allowed : ∀ item ∈ items, item.Allowed
  file : read.file.toList ++ items.filterMap Item.file? = result.file.toList
  backend : result.options.backend =
    (items.filterMap Item.backend?).getLast?.or read.options.backend
  out : result.options.out = (items.filterMap Item.out?).getLast?.or read.options.out

namespace Continues

variable {read result : Arguments} {items : List Item}

/-- No items leave what was read before as it is. -/
theorem nil (read : Arguments) : Continues read read [] :=
  ⟨List.forall_mem_nil _, List.append_nil _, rfl, rfl⟩

/-- No items leave what was read before as it is, and nothing else. -/
theorem nil_iff : Continues read result [] ↔ read = result := by
  constructor
  · rintro ⟨-, hfile, hbackend, hout⟩
    obtain ⟨file, backend, out⟩ := read
    obtain ⟨file', backend', out'⟩ := result
    obtain rfl : file = file' := by cases file <;> cases file' <;> simp_all
    obtain rfl : backend' = backend := hbackend
    obtain rfl : out' = out := hout
    rfl
  · rintro rfl
    exact nil read

/-- A file is read if there was none before. -/
theorem file_iff {argument : String} : Continues read result (.file argument :: items) ↔
    ¬IsOption argument ∧ read.file = none ∧
      Continues { read with file := some ⟨argument⟩ } result items := by
  constructor
  · rintro ⟨hallowed, hfile, hbackend, hout⟩
    obtain ⟨hargument, hrest⟩ := List.forall_mem_cons.mp hallowed
    have hnone : read.file = none := by
      cases hread : read.file with
      | none => rfl
      | some file =>
        have hlength := congrArg List.length hfile
        cases hresult : result.file <;> simp [hread, hresult, Item.file?] at hlength
    rw [hnone] at hfile
    exact ⟨hargument, hnone, hrest, hfile, hbackend, hout⟩
  · rintro ⟨hargument, hnone, hrest, hfile, hbackend, hout⟩
    refine ⟨List.forall_mem_cons.mpr ⟨hargument, hrest⟩, ?_, hbackend, hout⟩
    rw [hnone]
    exact hfile

/-- A backend is chosen until another one is. -/
theorem backend_iff {chosen : Backend} {name : String} :
    Continues read result (.backend chosen name :: items) ↔
      name.toList.map Char.toLower = chosen.name.toList ∧ Continues
        { read with options := { read.options with backend := some chosen } } result items := by
  have hlast := getLast?_cons_or chosen (items.filterMap Item.backend?) read.options.backend
  constructor
  · rintro ⟨hallowed, hfile, hbackend, hout⟩
    obtain ⟨hname, hrest⟩ := List.forall_mem_cons.mp hallowed
    exact ⟨hname, hrest, hfile, hbackend.trans hlast, hout⟩
  · rintro ⟨hname, hrest, hfile, hbackend, hout⟩
    exact ⟨List.forall_mem_cons.mpr ⟨hname, hrest⟩, hfile, hbackend.trans hlast.symm, hout⟩

/-- An output file is named until another one is. -/
theorem out_iff {argument : String} : Continues read result (.out argument :: items) ↔
    Continues { read with options := { read.options with out := some ⟨argument⟩ } } result
      items := by
  have hlast := getLast?_cons_or (⟨argument⟩ : Path) (items.filterMap Item.out?) read.options.out
  constructor
  · rintro ⟨hallowed, hfile, hbackend, hout⟩
    exact ⟨(List.forall_mem_cons.mp hallowed).2, hfile, hbackend, hout.trans hlast⟩
  · rintro ⟨hrest, hfile, hbackend, hout⟩
    exact ⟨List.forall_mem_cons.mpr ⟨trivial, hrest⟩, hfile, hbackend, hout.trans hlast.symm⟩

end Continues

/-! ## Reading -/

section

variable {read result : Arguments} {args : List String}

/-- An argument that looks like no option is the file. -/
theorem readArguments_file {argument : String} (hargument : ¬IsOption argument)
    (hnone : read.file = none) : readArguments read (argument :: args) =
      readArguments { read with file := some ⟨argument⟩ } args := by
  have hbackend : argument ≠ "--backend" := by
    rintro rfl
    exact hargument (by simp [IsOption])
  have hout : argument ≠ "--out" := by
    rintro rfl
    exact hargument (by simp [IsOption])
  rw [readArguments]
  · rw [if_neg (show ¬argument.startsWith "--" = true from hargument), hnone]
    rfl
  · exact fun _ _ h => absurd h hbackend
  · exact fun h => absurd h hbackend
  · exact fun _ _ h => absurd h hout
  · exact fun h => absurd h hout

/-- Arguments that are written from items are read. -/
theorem readArguments_written {items : List Item} (hitems : Continues read result items) :
    readArguments read (items.flatMap Item.written) = .ok result := by
  induction items generalizing read with
  | nil =>
    obtain rfl := Continues.nil_iff.mp hitems
    rfl
  | cons item items ih =>
    rw [List.flatMap_cons]
    cases item with
    | file argument =>
      obtain ⟨hargument, hnone, hrest⟩ := Continues.file_iff.mp hitems
      exact (readArguments_file hargument hnone).trans (ih hrest)
    | backend chosen name =>
      obtain ⟨hname, hrest⟩ := Continues.backend_iff.mp hitems
      have hchosen := Backend.ofName?_eq_some_iff.mpr hname
      show readArguments read ("--backend" :: name :: _) = _
      rw [readArguments, hchosen]
      exact ih hrest
    | out argument =>
      show readArguments read ("--out" :: argument :: _) = _
      rw [readArguments]
      exact ih (Continues.out_iff.mp hitems)

/-- Arguments that are read are written from items. -/
theorem exists_items (hread : readArguments read args = .ok result) :
    ∃ items, args = items.flatMap Item.written ∧ Continues read result items := by
  fun_induction readArguments read args with
  -- No argument is left.
  | case1 read =>
    obtain rfl := Except.ok.inj hread
    exact ⟨[], rfl, .nil read⟩
  -- `--backend` and the name of a back end.
  | case2 read name rest chosen hchosen ih =>
    obtain ⟨items, rfl, hitems⟩ := ih hread
    exact ⟨.backend chosen name :: items, rfl,
      Continues.backend_iff.mpr ⟨Backend.ofName?_eq_some_iff.mp hchosen, hitems⟩⟩
  -- `--out` and a path.
  | case5 read argument rest ih =>
    obtain ⟨items, rfl, hitems⟩ := ih hread
    exact ⟨.out argument :: items, rfl, Continues.out_iff.mpr hitems⟩
  -- The file: no option, and no file before it.
  | case9 read argument rest hbackend hbackendLast hout houtLast hargument hnone ih =>
    obtain ⟨items, rfl, hitems⟩ := ih hread
    exact ⟨.file argument :: items, rfl,
      Continues.file_iff.mpr ⟨hargument, by simpa using hnone, hitems⟩⟩
  -- Whatever else is refused.
  | case3 | case4 | case6 | case7 | case8 => cases hread

/-- Whether arguments say which file and which options there are: they are written from items, with
one file at most, and the last option of a kind counts. -/
def Says (args : List String) (file : Option Path) (options : CompileOptions) : Prop :=
  ∃ items : List Item, (∀ item ∈ items, item.Allowed) ∧ args = items.flatMap Item.written ∧
    items.filterMap Item.file? = file.toList ∧
    options = ⟨(items.filterMap Item.backend?).getLast?, (items.filterMap Item.out?).getLast?⟩

/-- Exactly what arguments say is read from them. -/
theorem readArguments_eq_ok_iff {file : Option Path} {options : CompileOptions} :
    readArguments ⟨none, .none⟩ args = .ok ⟨file, options⟩ ↔ Says args file options := by
  have hcontinues : ∀ items, Continues ⟨none, .none⟩ ⟨file, options⟩ items ↔
      (∀ item ∈ items, item.Allowed) ∧ items.filterMap Item.file? = file.toList ∧
      options = ⟨(items.filterMap Item.backend?).getLast?,
        (items.filterMap Item.out?).getLast?⟩ := by
    intro items
    obtain ⟨backend, out⟩ := options
    constructor
    · rintro ⟨hallowed, hfile, hbackend, hout⟩
      simp only [CompileOptions.none, Option.or_none] at hbackend hout
      exact ⟨hallowed, hfile, congrArg₂ CompileOptions.mk hbackend hout⟩
    · rintro ⟨hallowed, hfile, hoptions⟩
      obtain ⟨hbackend, hout⟩ := CompileOptions.mk.inj hoptions
      exact ⟨hallowed, hfile, hbackend.trans Option.or_none.symm, hout.trans Option.or_none.symm⟩
  constructor
  · intro hread
    obtain ⟨items, hargs, hitems⟩ := exists_items hread
    obtain ⟨hallowed, hrest⟩ := (hcontinues items).mp hitems
    exact ⟨items, hallowed, hargs, hrest⟩
  · rintro ⟨items, hallowed, rfl, hrest⟩
    exact readArguments_written ((hcontinues items).mpr ⟨hallowed, hrest⟩)

/-- Files are written as they are. -/
theorem flatMap_written_of_files {items : List Item}
    (hfiles : ∀ item ∈ items, ∃ argument, item = .file argument) :
    items.flatMap Item.written = (items.filterMap Item.file?).map Path.text := by
  induction items with
  | nil => rfl
  | cons item items ih =>
    obtain ⟨⟨argument, rfl⟩, hrest⟩ := List.forall_mem_cons.mp hfiles
    rw [List.flatMap_cons, ih hrest]
    rfl

/-- Arguments that say no options are the file alone, if there is one. -/
theorem says_none_iff {file : Option Path} : Says args file .none ↔
    args = file.toList.map Path.text ∧ ∀ path ∈ file, ¬IsOption path.text := by
  constructor
  · rintro ⟨items, hallowed, rfl, hfile, hoptions⟩
    obtain ⟨hbackend, hout⟩ := CompileOptions.mk.inj hoptions
    have hbackends := List.filterMap_eq_nil_iff.mp (List.getLast?_eq_none_iff.mp hbackend.symm)
    have houts := List.filterMap_eq_nil_iff.mp (List.getLast?_eq_none_iff.mp hout.symm)
    have hfiles : ∀ item ∈ items, ∃ argument, item = .file argument := by
      intro item hitem
      cases item with
      | file argument => exact ⟨argument, rfl⟩
      | backend chosen name => cases hbackends _ hitem
      | out argument => cases houts _ hitem
    refine ⟨hfile ▸ flatMap_written_of_files hfiles, ?_⟩
    intro path hpath
    have hmem : path ∈ items.filterMap Item.file? := hfile ▸ Option.mem_toList.mpr hpath
    obtain ⟨item, hitem, hitemFile⟩ := List.mem_filterMap.mp hmem
    obtain ⟨argument, rfl⟩ := hfiles item hitem
    obtain rfl : ⟨argument⟩ = path := Option.some.inj hitemFile
    exact hallowed _ hitem
  · rintro ⟨rfl, hfile⟩
    cases file with
    | none => exact ⟨[], List.forall_mem_nil _, rfl, rfl, rfl⟩
    | some path =>
      exact ⟨[.file path.text], List.forall_mem_singleton.mpr (hfile path rfl), rfl, rfl, rfl⟩

end

/-! ## Command lines -/

/-- **The grammar of command lines**: what is asked for, and the arguments that ask for it. -/
inductive Asks : List String → CommandLine → Prop
  | new {file : String} (h : ¬IsOption file) : Asks ["new", file] (.new ⟨file⟩)
  | params {file : String} (h : ¬IsOption file) : Asks ["params", file] (.params ⟨file⟩)
  | check {file : String} (h : ¬IsOption file) : Asks ["check", file] (.check ⟨file⟩)
  | compile {args : List String} {file : Path} {options : CompileOptions}
    (h : Says args (some file) options) : Asks ("compile" :: args) (.compile file options)
  | watch {args : List String} {file : Path} {options : CompileOptions}
    (h : Says args (some file) options) : Asks ("watch" :: args) (.watch file options)
  | nothing : Asks [] .help
  | help {name : String} (h : name ∈ ["help", "--help", "-h"]) : Asks [name] .help
  | helpFile {name file : String} (h : name ∈ ["help", "--help", "-h"]) (hfile : ¬IsOption file) :
    Asks [name, file] .help

/-- A name is that of a command. -/
theorem ofName_eq_ok_iff {name : String} {file : Except CommandLineError Path}
    {options : CompileOptions} {command : CommandLine} :
    ofName name file options = .ok command ↔
      (name ∈ ["help", "--help", "-h"] ∧ command = .help) ∨ ∃ path, file = .ok path ∧
        ((name = "new" ∧ command = .new path) ∨ (name = "params" ∧ command = .params path) ∨
          (name = "check" ∧ command = .check path) ∨
          (name = "compile" ∧ command = .compile path options) ∨
          (name = "watch" ∧ command = .watch path options)) := by
  unfold ofName
  split
  all_goals cases file <;> simp_all [Except.map, eq_comm]

/-- The first argument is the name of the command; only commands that compile take options. -/
theorem parse_cons_eq_ok_iff {name : String} {args : List String} {command : CommandLine} :
    parse (name :: args) = .ok command ↔ ∃ file options, Says args file options ∧
      (takesOptions name = true ∨ options = .none) ∧
      ofName name (match file with
        | some path => .ok path
        | none => .error (.usage s!"{name} requires a file")) options = .ok command := by
  rw [parse, bind_eq_ok_iff]
  constructor
  · rintro ⟨⟨file, options⟩, hread, hname⟩
    refine ⟨file, options, readArguments_eq_ok_iff.mp hread, ?_⟩
    split at hname
    · cases hname
    · rename_i hoptions
      refine ⟨?_, hname⟩
      simpa [or_iff_not_imp_left] using hoptions
  · rintro ⟨file, options, hsays, hoptions, hname⟩
    refine ⟨⟨file, options⟩, readArguments_eq_ok_iff.mpr hsays, ?_⟩
    rw [if_neg]
    · exact hname
    · rcases hoptions with htakes | rfl <;> simp [*]

/-- Arguments that say a file and no options are that file. -/
theorem says_none_some_iff {args : List String} {path : Path} :
    Says args (some path) .none ↔ args = [path.text] ∧ ¬IsOption path.text := by
  rw [says_none_iff]
  simp

/-- What is read is what was asked for. -/
theorem asks_of_parse {args : List String} {command : CommandLine}
    (hparse : parse args = .ok command) : Asks args command := by
  cases args with
  | nil =>
    obtain rfl := Except.ok.inj hparse
    exact .nothing
  | cons name args =>
    obtain ⟨file, options, hsays, hoptions, hname⟩ := parse_cons_eq_ok_iff.mp hparse
    rcases ofName_eq_ok_iff.mp hname with ⟨hhelp, rfl⟩ | ⟨path, hpath, hcommand⟩
    · have hnone : takesOptions name = false := by
        simp only [List.mem_cons, List.not_mem_nil, or_false] at hhelp
        rcases hhelp with rfl | rfl | rfl <;> decide
      obtain rfl : options = .none := hoptions.resolve_left (by simp [hnone])
      obtain ⟨rfl, hfile⟩ := says_none_iff.mp hsays
      cases file with
      | none => exact .help hhelp
      | some path => exact .helpFile hhelp (hfile path rfl)
    · obtain rfl : file = some path := by
        cases file with
        | none => cases hpath
        | some other => exact congrArg some (Except.ok.inj hpath)
      -- a command that takes no options has none, so its file is all there is
      have halone : takesOptions name = false → args = [path.text] ∧ ¬IsOption path.text := by
        intro hnone
        obtain rfl : options = .none := hoptions.resolve_left (by simp [hnone])
        exact says_none_some_iff.mp hsays
      rcases hcommand with ⟨rfl, rfl⟩ | ⟨rfl, rfl⟩ | ⟨rfl, rfl⟩ | ⟨rfl, rfl⟩ | ⟨rfl, rfl⟩
      · obtain ⟨rfl, hfile⟩ := halone (by decide)
        exact .new hfile
      · obtain ⟨rfl, hfile⟩ := halone (by decide)
        exact .params hfile
      · obtain ⟨rfl, hfile⟩ := halone (by decide)
        exact .check hfile
      · exact .compile hsays
      · exact .watch hsays

/-- What is asked for is read. -/
theorem Asks.parse {args : List String} {command : CommandLine} (hasks : Asks args command) :
    parse args = .ok command := by
  have hfile : ∀ file : String, ¬IsOption file → Says [file] (some ⟨file⟩) .none :=
    fun file h => says_none_some_iff.mpr ⟨rfl, h⟩
  cases hasks with
  | nothing => rfl
  | new h | params h | check h =>
    exact parse_cons_eq_ok_iff.mpr ⟨_, _, hfile _ h, .inr rfl, ofName_eq_ok_iff.mpr (by simp)⟩
  | compile h | watch h =>
    exact parse_cons_eq_ok_iff.mpr ⟨_, _, h, .inl (by decide), ofName_eq_ok_iff.mpr (by simp)⟩
  | help h =>
    have hsays : Says [] none .none := says_none_iff.mpr ⟨rfl, by simp⟩
    exact parse_cons_eq_ok_iff.mpr ⟨_, _, hsays, .inr rfl, ofName_eq_ok_iff.mpr (.inl ⟨h, rfl⟩)⟩
  | helpFile h hname =>
    exact parse_cons_eq_ok_iff.mpr
      ⟨_, _, hfile _ hname, .inr rfl, ofName_eq_ok_iff.mpr (.inl ⟨h, rfl⟩)⟩

/-- **Reading accepts exactly the grammar.** What the arguments of the program are read as is what
they ask for, and arguments that ask for nothing are refused. -/
theorem parse_iff (args : List String) :
    (∀ command, parse args = .ok command ↔ Asks args command) ∧
      ((∃ error, parse args = .error error) ↔ ∀ command, ¬Asks args command) := by
  have hiff : ∀ command, parse args = .ok command ↔ Asks args command :=
    fun command => ⟨asks_of_parse, Asks.parse⟩
  refine ⟨hiff, ?_⟩
  simp only [← hiff]
  cases parse args with
  | ok command => simp
  | error error => simp

/-- An output file may look like an option. -/
example : parse ["compile", "--out", "--backend", "a.ron"] =
    .ok (.compile ⟨"a.ron"⟩ ⟨none, some ⟨"--backend"⟩⟩) := by
  decide +kernel

end CommandLine

end ShaderGraph
