import ShaderGraph.Session
import ShaderGraph.Watch

/-!
# Command lines

A command line is the name of a command, at most one file, and options for the commands that
compile. Options may stand before and after the file, and the last one of a kind counts.
-/

set_option autoImplicit false

namespace ShaderGraph

/-- How to use the program. -/
def usage : String := "Usage: nodeshader <command> [options]

Commands:
  new <file>                      Create a graph document with a single output node
  compile <file> [options]        Compile a graph document to shader source
  params <file>                   Print the parameter table as JSON
  watch <file> [options]          Recompile whenever the document changes
  check <file>                    Validate a graph document
  help                            Show this message

Options:
  --backend <wgsl|glsl>           Shader language (default from nodeshader.ron)
  --out <path>                    Output file (default: <output_dir>/<name>.<ext>)"

/-- Why the program stopped. -/
inductive CommandLineError
  /-- The arguments make no command line, in words. -/
  | usage (words : String)
  | unknownBackend (name : String)
  | session (error : SessionError)
  | watch (error : WatchError)
  | disk (error : DiskError)
  /-- A new document would take the place of something. -/
  | alreadyExists (path : Path)
deriving DecidableEq, Repr

/-- The error in words. -/
def CommandLineError.message : CommandLineError → String
  | usage words => words
  | unknownBackend name => s!"Unknown backend: {name}"
  | session error => error.message
  | watch error => error.message
  | disk error => s!"IO error: {error.message}"
  | alreadyExists path => s!"File already exists: {Text.quoteDebug false path.text}"

/-- Options of the commands that compile. -/
structure CompileOptions where
  /-- The backend, if not that of the settings. -/
  backend : Option Backend
  /-- The output file, if not the usual one. -/
  out : Option Path
deriving DecidableEq, Repr

/-- No options. -/
def CompileOptions.none : CompileOptions := ⟨.none, .none⟩

/-- What a command line asks for. -/
inductive CommandLine
  | new (file : Path)
  | compile (file : Path) (options : CompileOptions)
  | params (file : Path)
  | watch (file : Path) (options : CompileOptions)
  | check (file : Path)
  | help
deriving DecidableEq, Repr

namespace CommandLine

/-- The arguments after the name of the command. -/
structure Arguments where
  file : Option Path
  options : CompileOptions
deriving DecidableEq, Repr

/-- Reads the arguments after the name of the command. -/
def readArguments (read : Arguments) : List String → Except CommandLineError Arguments
  | [] => .ok read
  | "--backend" :: name :: rest =>
    match Backend.ofName? name with
    | some backend =>
      readArguments { read with options := { read.options with backend := some backend } } rest
    | none => .error (.unknownBackend name)
  | ["--backend"] => .error (.usage "--backend requires a name")
  | "--out" :: path :: rest =>
    readArguments { read with options := { read.options with out := some ⟨path⟩ } } rest
  | ["--out"] => .error (.usage "--out requires a path")
  | argument :: rest =>
    if argument.startsWith "--" then .error (.usage s!"Unknown option: {argument}")
    else if read.file.isSome then .error (.usage s!"Unexpected argument: {argument}")
    else readArguments { read with file := some ⟨argument⟩ } rest

/-- The command of a name; `file` is the file given, or the complaint that there is none. -/
def ofName (name : String) (file : Except CommandLineError Path) (options : CompileOptions) :
    Except CommandLineError CommandLine :=
  match name with
  | "new" => file.map .new
  | "compile" => file.map (.compile · options)
  | "params" => file.map .params
  | "watch" => file.map (.watch · options)
  | "check" => file.map .check
  | "help" | "--help" | "-h" => .ok .help
  | _ => .error (.usage s!"Unknown command: {name}")

/-- Whether the command of a name takes options. -/
def takesOptions (name : String) : Bool := name == "compile" || name == "watch"

/-- What the arguments of the program ask for. -/
def parse : List String → Except CommandLineError CommandLine
  | [] => .ok .help
  | name :: rest => do
    let arguments ← readArguments ⟨none, .none⟩ rest
    if !takesOptions name && arguments.options ≠ .none then
      throw (.usage s!"{name} takes no options")
    else
      let file : Except CommandLineError Path :=
        match arguments.file with
        | some file => .ok file
        | none => .error (.usage s!"{name} requires a file")
      ofName name file arguments.options

end CommandLine

end ShaderGraph
