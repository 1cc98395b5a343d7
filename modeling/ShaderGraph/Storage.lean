import ShaderGraph.Storage.Path

/-!
# Storage

What the program asks of a disk, as a record of operations in some monad: the disk of the machine
in the running program, a tree of folders and files in a model of it.
-/

set_option autoImplicit false

namespace ShaderGraph

/-- Why the disk refused. -/
inductive DiskError
  | notFound
  | isADirectory
  | notADirectory
  | alreadyExists
  | tooManyLinks
  | nameTooLong
  /-- The path holds a NUL, which no name can. -/
  | nulInName
  /-- The content of a file should be text and is not. -/
  | notText
  /-- Any other reason, in the words of the system. -/
  | other (words : String)
deriving DecidableEq, Repr

/-- The error in words. -/
def DiskError.message : DiskError → String
  | notFound => "No such file or directory (os error 2)"
  | isADirectory => "Is a directory (os error 21)"
  | notADirectory => "Not a directory (os error 20)"
  | alreadyExists => "File exists (os error 17)"
  | tooManyLinks => "Too many levels of symbolic links (os error 40)"
  | nameTooLong => "File name too long (os error 36)"
  | nulInName => "file name contained an unexpected NUL byte"
  | notText => "stream did not contain valid UTF-8"
  | other words => words

/-- Why a path is no path on any disk, if so. -/
def Path.fault? (path : Path) : Option DiskError :=
  if path.text.toList.contains '\x00' then some .nulInName else none

/-- The operations of a disk. -/
structure Disk (m : Type → Type) where
  /-- The content of a file. -/
  read : Path → m (Except DiskError ByteArray)
  /-- Makes a file with the given content, in the place of the one that was there. -/
  write : Path → ByteArray → m (Except DiskError Unit)
  /-- Whether a path leads to anything. -/
  leadsSomewhere : Path → m Bool
  /-- Makes a folder and all folders around it that are missing. -/
  makeFolders : Path → m (Except DiskError Unit)
  /-- The path from the root, without links and steps up, of what a path leads to. -/
  resolve : Path → m (Except DiskError Path)

end ShaderGraph
