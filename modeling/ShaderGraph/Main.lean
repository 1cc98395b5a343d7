import ShaderGraph.CommandLine.Run

/-!
# The program

The disk of the machine, and the main function. A watched document is looked at once in every
interval of the settings and compiled when its content is another one.
-/

set_option autoImplicit false

namespace ShaderGraph

/-- The disk error of a system error number. -/
def DiskError.ofNumber (number : UInt32) (words : String) : DiskError :=
  match number with
  | 2 => .notFound
  | 17 => .alreadyExists
  | 20 => .notADirectory
  | 21 => .isADirectory
  | 36 => .nameTooLong
  | 40 => .tooManyLinks
  | _ => .other words

/-- The disk error of a system error. -/
def DiskError.ofSystem (error : IO.Error) : DiskError :=
  match error with
  | .noFileOrDirectory .. => .notFound
  | .alreadyExists .. => .alreadyExists
  | .inappropriateType _ number _ => .ofNumber number (toString error)
  | .invalidArgument _ number _ => .ofNumber number (toString error)
  | _ => .other (toString error)

/-- What an action on a path gives, or the disk error it ends with. -/
def attempt {α : Type} (path : Path) (action : IO α) : IO (Except DiskError α) := do
  match path.fault? with
  | some error => return .error error
  | none =>
    try
      return .ok (← action)
    catch error =>
      return .error (.ofSystem error)

/-- The disk of the machine. -/
def machineDisk : Disk IO where
  read path := attempt path (IO.FS.readBinFile path.text)
  write path content := attempt path (IO.FS.writeBinFile path.text content)
  leadsSomewhere path := return (← attempt path (IO.FS.realPath path.text)).isOk
  makeFolders path := attempt path (IO.FS.createDirAll path.text)
  resolve path := attempt path (return ⟨(← IO.FS.realPath path.text).toString⟩)

/-- Compiles a document whenever its content changes, until the program is stopped. -/
def keepCompiling (s : Session) (document : Path) (options : CompileOptions) (config : Config) :
    IO UInt32 := do
  let mut s := s
  let mut known ← machineDisk.read document
  repeat
    IO.sleep (UInt32.ofNat (max config.debounce 1))
    let content ← machineDisk.read document
    if content.toOption.map ByteArray.toList ≠ known.toOption.map ByteArray.toList then
      known := content
      s ← CommandLine.recompile machineDisk s document options config
  return 0

/-- Runs the program and tells whether it went well. -/
def runMain (arguments : List String) : IO UInt32 := do
  match ← runProgram machineDisk arguments with
  | .ok (.finished output) =>
    IO.print output
    return 0
  | .ok (.watching s document options config) => keepCompiling s document options config
  | .error (.config error) =>
    IO.eprintln ("Invalid config: " ++ error.message)
    return 1
  | .error (.commandLine error) =>
    IO.eprintln error.message
    match error with
    | .usage _ => IO.eprintln usage
    | _ => pure ()
    return 1

end ShaderGraph

/-- Runs the program. -/
def main (arguments : List String) : IO UInt32 := ShaderGraph.runMain arguments
