import ShaderGraph.CommandLine
import ShaderGraph.Json

/-!
# Running command lines

Each command opens a session of its own, with the settings of the current folder. The shader of a
document goes to the folder of the settings, under the document's name, unless the command line
names a file.
-/

set_option autoImplicit false

namespace ShaderGraph

/-- What is left to do after a command. -/
inductive Outcome
  /-- Nothing but to print some text. -/
  | finished (output : String)
  /-- To compile a document whenever its file changes. -/
  | watching (session : Session) (document : Path) (options : CompileOptions) (config : Config)

/-- Why the program stopped, before or after its settings were read. -/
inductive ProgramError
  | config (error : ConfigError)
  | commandLine (error : CommandLineError)
deriving DecidableEq, Repr

/-- The name of the shader of a document, without folder and extension. -/
def shaderName (document : Path) : String := document.fileStem?.getD "shader"

/-- The file for the shader of a document. -/
def outputPath (document : Path) (backend : Backend) (options : CompileOptions)
    (config : Config) : Path :=
  match options.out with
  | some out => out
  | none => config.outputFolder.join ⟨shaderName document ++ "." ++ backend.fileExtension⟩

/-- What a check found out about a document. -/
def checkReport (document : Path) (g : Graph) (artifact : Artifact) : String :=
  let counts := [
    (g.nodes.length, "node(s)"),
    (g.connections.length, "connection(s)"),
    (artifact.program.statements.length, "statement(s)"),
    (artifact.program.parameters.entries.length, "parameter(s)")]
  document.text ++ ": " ++ ", ".intercalate (counts.map fun (n, what) => s!"{n} {what}") ++ "\n"

namespace CommandLine

variable {m : Type → Type} [Monad m]

/-- A session with the document of a file. -/
def openSession (disk : Disk m) (document : Path) (options : CompileOptions) (config : Config) :
    m (Except CommandLineError Session) := do
  let s := Session.ofConfig config
  let s := match options.backend with
    | some backend => s.setBackend backend
    | none => s
  let (result, s) ← s.openFile disk document
  return (result.mapError .session).map fun () => s

/-- Writes a compiled shader to its file, making the folders around it. -/
def writeShader (disk : Disk m) (artifact : Artifact) (out : Path) :
    m (Except CommandLineError Unit) := do
  let made ←
    match out.parent? with
    | some folder => if folder.text.isEmpty then pure (.ok ()) else disk.makeFolders folder
    | none => pure (.ok ())
  match made with
  | .error error => return .error (.disk error)
  | .ok () => return (← disk.write out (Text.Utf8.encode artifact.source)).mapError .disk

/-- Compiles the document of a session and writes the shader to its file. -/
def compileToDisk (disk : Disk m) (s : Session) (document : Path) (options : CompileOptions)
    (config : Config) : m (Except CommandLineError Unit × Session) :=
  match s.compile .commit with
  | (.error error, s) => return (.error (.session error), s)
  | (.ok artifact, s) =>
    return (← writeShader disk artifact (outputPath document artifact.backend options config), s)

/-- Makes a document with a single output node, where there is nothing yet. -/
def runNew (disk : Disk m) (file : Path) (config : Config) :
    m (Except CommandLineError Outcome) := do
  if ← disk.leadsSomewhere file then return .error (.alreadyExists file)
  else
    let (result, _) ← (Session.ofConfig config).saveTo disk file
    return (result.mapError .session).map fun () => .finished ""

/-- Compiles a document once. -/
def runCompile (disk : Disk m) (file : Path) (options : CompileOptions) (config : Config) :
    m (Except CommandLineError Outcome) := do
  match ← openSession disk file options config with
  | .error error => return .error error
  | .ok s =>
    let (result, _) ← compileToDisk disk s file options config
    return result.map fun () => .finished ""

/-- Prints the parameters of a document. -/
def runParams (disk : Disk m) (file : Path) (config : Config) :
    m (Except CommandLineError Outcome) := do
  match ← openSession disk file .none config with
  | .error error => return .error error
  | .ok s =>
    match s.graph.generateParameters.1 with
    | .error error => return .error (.session (.lowering error))
    | .ok table => return .ok (.finished (table.json.write 0 ++ "\n"))

/-- Compiles a document and tells how large it is. -/
def runCheck (disk : Disk m) (file : Path) (config : Config) :
    m (Except CommandLineError Outcome) := do
  match ← openSession disk file .none config with
  | .error error => return .error error
  | .ok s =>
    match (s.compile .commit).1 with
    | .error error => return .error (.session error)
    | .ok artifact => return .ok (.finished (checkReport file s.graph artifact))

/-- Compiles a document, whether or not that goes well, and begins to watch it. -/
def runWatch (disk : Disk m) (file : Path) (options : CompileOptions) (config : Config) :
    m (Except CommandLineError Outcome) := do
  match ← openSession disk file options config with
  | .error error => return .error error
  | .ok s =>
    let (_, s) ← compileToDisk disk s file options config
    let (watched, _) := Watcher.empty.watch (← disk.resolve file) fun _ => .ok ()
    return (watched.mapError .watch).map fun _ => .watching s file options config

/-- Reads a watched document again and compiles it; what fails leaves document and shader. -/
def recompile (disk : Disk m) (s : Session) (file : Path) (options : CompileOptions)
    (config : Config) : m Session := do
  match ← s.openFile disk file with
  | (.error _, s) => return s
  | (.ok (), s) => return (← compileToDisk disk s file options config).2

/-- Runs a command. -/
def run (disk : Disk m) (config : Config) : CommandLine → m (Except CommandLineError Outcome)
  | new file => runNew disk file config
  | compile file options => runCompile disk file options config
  | params file => runParams disk file config
  | watch file options => runWatch disk file options config
  | check file => runCheck disk file config
  | help => return .ok (.finished (usage ++ "\n"))

end CommandLine

/-- Runs the program on its arguments, with the settings of the current folder. -/
def runProgram {m : Type → Type} [Monad m] (disk : Disk m) (arguments : List String) :
    m (Except ProgramError Outcome) := do
  match ← Config.loadOrDefault disk ⟨"."⟩ with
  | .error error => return .error (.config error)
  | .ok config =>
    match CommandLine.parse arguments with
    | .error error => return .error (.commandLine error)
    | .ok command => return (← command.run disk config).mapError .commandLine

end ShaderGraph
