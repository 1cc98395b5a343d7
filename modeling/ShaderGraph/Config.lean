import ShaderGraph.Backend
import ShaderGraph.History
import ShaderGraph.Notation.Tree
import ShaderGraph.Notation.Whole
import ShaderGraph.Storage
import ShaderGraph.Text.Utf8

/-!
# Settings

The settings of the editor are one record in object notation. Every field may be left out and then
has its default; without a file, all have.
-/

set_option autoImplicit false

namespace ShaderGraph

/-- The settings of the editor. -/
structure Config where
  version : Nat
  /-- Entries of the history that are kept on each side. -/
  historyCapacity : Nat
  /-- The backend to use where none is asked for. -/
  backend : Backend
  /-- The folder for compiled shaders. -/
  outputFolder : Path
  /-- Which log messages are shown. -/
  logFilter : String
  /-- How long a document has to rest before it is read again, in milliseconds. -/
  debounce : Nat
deriving DecidableEq

/-- The version of settings written here, and the newest that can be read. -/
def configVersion : Nat := 1

/-- The file that holds the settings of a folder. -/
def configFileName : String := "nodeshader.ron"

/-- Why there are no settings. -/
inductive ConfigError
  | disk (error : DiskError)
  /-- The text holds no settings. -/
  | parse
  | unsupportedVersion (version : Nat)
deriving DecidableEq, Repr

/-- The error in words. -/
def ConfigError.message : ConfigError → String
  | disk error => s!"IO error: {error.message}"
  | parse => "Parse error"
  | unsupportedVersion version =>
    s!"Config version {version} is newer than supported version {configVersion}"

namespace Config

/-- The settings to use where there are none. -/
def default : Config :=
  ⟨configVersion, History.defaultCapacity, .wgsl, ⟨"shaders"⟩, "info", 200⟩

/-- A configuration without a file is the default one. -/
instance : Inhabited Config := ⟨default⟩

/-- The settings in object notation. -/
def tree (config : Config) : Notation.Tree :=
  .record "EditorConfig" [
    ("version", .nat config.version),
    ("history_capacity", .nat config.historyCapacity),
    ("default_backend", .token config.backend.name),
    ("output_dir", .quoted config.outputFolder.text),
    ("log_filter", .quoted config.logFilter),
    ("watch_debounce_ms", .nat config.debounce)]

/-- The text of the settings. -/
def write (config : Config) : String := config.tree.write 0

/-- The fields read so far. -/
structure Draft where
  version : Option Nat := none
  historyCapacity : Option Nat := none
  backend : Option Backend := none
  outputFolder : Option String := none
  logFilter : Option String := none
  debounce : Option Nat := none

/-- The settings of a draft, with defaults for all fields that it lacks. -/
def Draft.complete (draft : Draft) : Config where
  version := draft.version.getD default.version
  historyCapacity := draft.historyCapacity.getD default.historyCapacity
  backend := draft.backend.getD default.backend
  outputFolder := (draft.outputFolder.map Path.mk).getD default.outputFolder
  logFilter := draft.logFilter.getD default.logFilter
  debounce := draft.debounce.getD default.debounce

/-- The backend of a name exactly as it is written in settings. -/
def backendNamed? (name : String) : Option Backend :=
  Backend.all.find? fun backend => backend.name == name

/-- Reads the value of a field. -/
def field (name : String) (draft : Draft) : Notation.Reader Draft :=
  match name with
  | "version" =>
    Notation.once draft.version (Notation.nat 32) fun v => { draft with version := some v }
  | "history_capacity" =>
    Notation.once draft.historyCapacity (Notation.nat 64) fun v =>
      { draft with historyCapacity := some v }
  | "default_backend" =>
    Notation.once draft.backend (Notation.named backendNamed?) fun v =>
      { draft with backend := some v }
  | "output_dir" =>
    Notation.once draft.outputFolder Notation.text fun v => { draft with outputFolder := some v }
  | "log_filter" =>
    Notation.once draft.logFilter Notation.text fun v => { draft with logFilter := some v }
  | "watch_debounce_ms" =>
    Notation.once draft.debounce (Notation.nat 64) fun v => { draft with debounce := some v }
  | _ => Notation.unknownField draft

/-- A reader of settings. -/
def reader : Notation.Reader Config :=
  Notation.mapped (fun draft => some (Draft.complete draft))
    (Notation.record "EditorConfig" field {} false)

/-- The settings that a text holds. -/
def parse (text : String) : Except ConfigError Config :=
  match Notation.readWhole reader text with
  | none => .error .parse
  | some config =>
    if configVersion < config.version then .error (.unsupportedVersion config.version)
    else .ok config

/-- The settings that the content of a file holds. -/
def ofContent (content : Except DiskError ByteArray) : Except ConfigError Config :=
  match content with
  | .error error => .error (.disk error)
  | .ok bytes =>
    match Text.Utf8.decode bytes with
    | .error _ => .error (.disk .notText)
    | .ok text => parse text

/-- The file that holds the settings of a folder. -/
def filePath (folder : Path) : Path := folder.join ⟨configFileName⟩

variable {m : Type → Type} [Monad m]

/-- Reads settings from a file. -/
def load (disk : Disk m) (path : Path) : m (Except ConfigError Config) :=
  return ofContent (← disk.read path)

/-- Reads the settings of a folder; they are the default if the folder holds none. -/
def loadOrDefault (disk : Disk m) (folder : Path) : m (Except ConfigError Config) := do
  if ← disk.leadsSomewhere (filePath folder) then load disk (filePath folder)
  else return .ok default

/-- Writes settings to a file. -/
def save (disk : Disk m) (config : Config) (path : Path) : m (Except ConfigError Unit) :=
  return (← disk.write path (Text.Utf8.encode config.write)).mapError .disk

end Config

end ShaderGraph
