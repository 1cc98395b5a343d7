import ShaderGraph.Command
import ShaderGraph.Config
import ShaderGraph.Document.Reader
import ShaderGraph.Document.Writer

/-!
# Editing sessions

A session holds the live graph, its history and the shader last compiled from it. Structural edits
are recorded and compiled at once. Edits of values only refresh the parameters of the compiled
shader, so that a whole drag of a slider can later be recorded as one entry. A graph that does not
compile leaves the shader compiled last in place.

What files hold and whether writing them went well is given to a session from outside.
-/

set_option autoImplicit false

namespace ShaderGraph

/-- A compiled shader. -/
structure Artifact where
  /-- The backend that wrote the source. -/
  backend : Backend
  /-- What was written, with the parameter values refreshed since. -/
  program : Program
  source : String

/-- How much a compilation has to do. -/
inductive CompileMode
  /-- Refresh the parameters if the layout of their table allows it. -/
  | preview
  /-- Record the graph and compile it anew. -/
  | commit
deriving DecidableEq, Repr

/-- Why a session refused. -/
inductive SessionError
  /-- The bytes hold no graph, in the words of what they fail at. -/
  | invalidGraphFile (cause : String)
  | command (error : CommandError)
  | lowering (error : LoweringError)
  | emission (error : EmitError)
  | disk (error : DiskError)
  | noDocumentPath
deriving DecidableEq, Repr

/-- The error in words. -/
def SessionError.message : SessionError → String
  | invalidGraphFile cause => s!"Invalid graph file: {cause}"
  | command error => error.message
  | lowering error => s!"Code generation failed: {error.message}"
  | emission error => s!"Shader emission failed: {error.message}"
  | disk error => s!"IO error: {error.message}"
  | noDocumentPath => "No document path set"

/-- The graph that the bytes of a document hold. -/
def Graph.ofBytes (bytes : ByteArray) : Except SessionError Graph :=
  match Text.Utf8.decode bytes with
  | .error fault => .error (.invalidGraphFile fault.message)
  | .ok text => (Graph.parse text).mapError fun error => .invalidGraphFile error.message

/-- The active document and everything made from it. -/
structure Session where
  graph : Graph
  history : History
  /-- The backend to compile for. -/
  backend : Backend
  /-- The shader compiled last. -/
  artifact : Option Artifact
  /-- The file of the document, if it has one. -/
  path : Option Path
  /-- Whether there are changes that were not saved. -/
  dirty : Bool
  /-- Documents opened or saved, the latest first. -/
  recent : List Path

/-- How many recent documents are kept. -/
def recentLimit : Nat := 10

namespace Session

/-- Compiles the graph anew; the shader compiled last stays if that fails. -/
def rebuild (s : Session) : Except SessionError Artifact × Session :=
  let (lowered, graph) := s.graph.generateCode
  let s := { s with graph }
  match lowered with
  | .error error => (.error (.lowering error), s)
  | .ok program =>
    match s.backend.emit program with
    | .error error => (.error (.emission error), s)
    | .ok source =>
      let artifact : Artifact := ⟨s.backend, program, source⟩
      (.ok artifact, { s with artifact := some artifact })

/-- Refreshes the parameters of the shader, or compiles anew where that is not possible. The shader
is taken out of the session for that and put back afterwards, refreshed or as it was. -/
def preview (s : Session) : Except SessionError Artifact × Session :=
  let (generated, graph) := s.graph.generateParameters
  let s := { s with graph }
  match generated with
  | .error error => (.error (.lowering error), s)
  | .ok parameters =>
    let (taken, s) := (s.artifact, { s with artifact := none })
    match taken with
    | none => s.rebuild
    | some artifact =>
      let (fits, program) :=
        if artifact.backend = s.backend then artifact.program.refresh parameters
        else (false, artifact.program)
      let artifact := { artifact with program }
      let s := { s with artifact := some artifact }
      if fits then (.ok artifact, s) else s.rebuild

/-- Records the live graph if it is not the recorded one. -/
def recordLive (s : Session) : Session := { s with history := (s.history.record s.graph).2 }

/-- Compiles the live graph. -/
def compile (s : Session) : CompileMode → Except SessionError Artifact × Session
  | .preview => s.preview
  | .commit => s.recordLive.rebuild

/-- The session with another document, nothing of which is unsaved. -/
def replaceDocument (s : Session) (g : Graph) : Session :=
  ({ s with
      graph := g
      history := s.history.startOver g
      artifact := none
      dirty := false } : Session).rebuild.2

/-- The graph of a new document: a single output node. -/
def newGraph : Graph := (Graph.empty.add .output ⟨0, 0⟩).2

/-- Starts a new document, which has no file yet. -/
def newDocument (s : Session) : Session := { s.replaceDocument newGraph with path := none }

/-- A session with a new document. -/
def ofConfig (config : Config) : Session :=
  newDocument {
    graph := .empty
    history := .ofCapacity config.historyCapacity
    backend := config.backend
    artifact := none
    path := none
    dirty := false
    recent := [] }

/-- Applies a command and compiles as far as its outcome demands. The edit stands even where the
graph then does not compile. -/
def execute (s : Session) (command : EditCommand) : Except SessionError EditOutcome × Session :=
  let (result, graph) := command.executeInPlace s.graph
  let s := { s with graph }
  match result with
  | .error error => (.error (.command error), s)
  | .ok outcome =>
    if outcome.changed then
      let s := { s with dirty := true }
      (.ok outcome, (s.compile (if outcome.structural then .commit else .preview)).2)
    else (.ok outcome, s)

/-- Steps back in the history; edits not recorded yet are what is undone first. -/
def undo (s : Session) : Bool × Session :=
  let s := s.recordLive
  if s.history.canStepBack then
    let (graph, history) := s.history.stepBack s.graph
    (true, ({ s with graph, history, dirty := true } : Session).rebuild.2)
  else (false, s)

/-- Steps forward in the history; edits not recorded yet end all ways forward. -/
def redo (s : Session) : Bool × Session :=
  let s := s.recordLive
  if s.history.canStepForward then
    let (graph, history) := s.history.stepForward s.graph
    (true, ({ s with graph, history, dirty := true } : Session).rebuild.2)
  else (false, s)

/-- Selects a backend; a shader that is there is written anew for it. -/
def setBackend (s : Session) (backend : Backend) : Session :=
  if s.backend = backend then s
  else
    let s := { s with backend }
    if s.artifact.isSome then s.rebuild.2 else s

/-- Replaces the document by the one that bytes hold; the path stays. -/
def load (s : Session) (bytes : ByteArray) : Except SessionError Unit × Session :=
  match Graph.ofBytes bytes with
  | .error error => (.error error, s)
  | .ok g => (.ok (), s.replaceDocument g)

/-- The text of the document. -/
def save (s : Session) : String := s.graph.serialize

/-- The session whose document is in a file from now on. -/
def atPath (s : Session) (path : Path) : Session :=
  { s with
    path := some path
    recent := (path :: s.recent.filter fun other => !other.same path).take recentLimit }

/-- Opens the document in a file, given what reading the file gave. -/
def opened (s : Session) (path : Path) (content : Except DiskError ByteArray) :
    Except SessionError Unit × Session :=
  match content with
  | .error error => (.error (.disk error), s)
  | .ok bytes =>
    match s.load bytes with
    | (.error error, s) => (.error error, s)
    | (.ok (), s) => (.ok (), s.atPath path)

/-- The session after its text was written to a file, given how that went. -/
def saved (s : Session) (path : Path) (written : Except DiskError Unit) :
    Except SessionError Unit × Session :=
  match written with
  | .error error => (.error (.disk error), s)
  | .ok () => (.ok (), { s.atPath path with dirty := false })

/-- Name of the document. -/
def documentName (s : Session) : String := (s.path.bind Path.fileStem?).getD "Untitled"

variable {m : Type → Type} [Monad m]

/-- Opens the document in a file of a disk. -/
def openFile (disk : Disk m) (s : Session) (path : Path) :
    m (Except SessionError Unit × Session) :=
  return s.opened path (← disk.read path)

/-- Saves the document to a file of a disk. -/
def saveTo (disk : Disk m) (s : Session) (path : Path) :
    m (Except SessionError Unit × Session) :=
  return s.saved path (← disk.write path (Text.Utf8.encode s.save))

/-- Saves the document to its file. -/
def saveDocument (disk : Disk m) (s : Session) : m (Except SessionError Unit × Session) :=
  match s.path with
  | none => return (.error .noDocumentPath, s)
  | some path => s.saveTo disk path

end Session

end ShaderGraph
