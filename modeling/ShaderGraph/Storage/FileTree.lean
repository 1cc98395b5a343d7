import ShaderGraph.Storage

/-!
# A disk in memory

A tree of folders, files and links, held as a list of places and what stands there, the newest
first. A path is walked step by step from the current folder or the root; links are followed, a
bounded number of them. The root is always a folder. What is wrong with an earlier step is found
before what is wrong with a later one.
-/

set_option autoImplicit false

namespace ShaderGraph

/-- Contents are compared byte by byte. -/
local instance contentDecidableEq : DecidableEq ByteArray := ByteArray.instDecidableEq

/-- Names from the root down. -/
abbrev Place := List String

/-- What stands at a place. -/
inductive FileEntry
  | file (content : ByteArray)
  | folder
  | link (target : String)
deriving DecidableEq

/-- A tree of folders, files and links, seen from a current folder. -/
structure FileTree where
  entries : List (Place × FileEntry)
  current : Place

/-- Where a walk ends: at something, or at a place where something can be made. -/
inductive WalkEnd
  | found (place : Place) (entry : FileEntry)
  /-- Nothing is there; `folderOnly` if the path ends in a separator. -/
  | vacant (place : Place) (folderOnly : Bool)
deriving DecidableEq

/-- What a walk is for, which decides about its last name. -/
inductive WalkUse
  /-- To use what is there; a link is followed. -/
  | use
  /-- To make a file if there is none; a link is followed, and no separator may come last. -/
  | makeFile
  /-- To make or take away what stands there itself; a link is not followed. -/
  | entry
deriving DecidableEq

namespace FileTree

/-- What stands at a place. -/
def entry? (tree : FileTree) (place : Place) : Option FileEntry :=
  if place.isEmpty then some .folder else tree.entries.lookup place

/-- The tree with something else, or nothing, at a place. -/
def put (tree : FileTree) (place : Place) (entry : Option FileEntry) : FileTree :=
  let others := tree.entries.filter fun (p, _) => p != place
  { tree with entries := (entry.map fun e => (place, e)).toList ++ others }

/-- How many links a walk may follow. -/
def linkLimit : Nat := 40

/-- How many bytes a name may have. -/
def nameLimit : Nat := 255

/-- How many bytes a path may have. -/
def pathLimit : Nat := 4095

/-- Where the walk of a path starts. -/
def start (tree : FileTree) (text : String) : Place :=
  if text.startsWith "/" then [] else tree.current

/-- Walks segments from a place. -/
def walk (tree : FileTree) (purpose : WalkUse) (links : Nat) (place : Place) :
    List String → Except DiskError WalkEnd
  | [] => .ok (.found place ((tree.entry? place).getD .folder))
  | segment :: rest =>
    if tree.entry? place ≠ some .folder then .error .notADirectory
    else if segment = "" ∨ segment = "." then walk tree purpose links place rest
    else if segment = ".." then walk tree purpose links place.dropLast rest
    else
      let next := place ++ [segment]
      let last := rest.all String.isEmpty
      if purpose = .makeFile ∧ last ∧ !rest.isEmpty then .error .isADirectory
      else if nameLimit < segment.utf8ByteSize then .error .nameTooLong
      else match tree.entry? next with
      | none => if last then .ok (.vacant next (!rest.isEmpty)) else .error .notFound
      | some entry =>
        if purpose = .entry ∧ last then .ok (.found next entry)
        else match entry with
        | .link target =>
          match links with
          | 0 => .error .tooManyLinks
          | links + 1 =>
            walk tree purpose links (if target.startsWith "/" then [] else place)
              (Path.segments ⟨target⟩ ++ rest)
        | _ => walk tree purpose links next rest
termination_by segments => (links, segments.length)

/-- Walks a path, however long it is. -/
def walkAny (tree : FileTree) (purpose : WalkUse) (path : Path) : Except DiskError WalkEnd :=
  match path.fault? with
  | some error => .error error
  | none =>
    if path.text.isEmpty then .error .notFound
    else tree.walk purpose linkLimit (tree.start path.text) path.segments

/-- Walks a path. -/
def walkPath (tree : FileTree) (purpose : WalkUse) (path : Path) : Except DiskError WalkEnd :=
  if path.fault?.isNone && pathLimit < path.text.utf8ByteSize then .error .nameTooLong
  else tree.walkAny purpose path

/-- The content of a file. -/
def read (tree : FileTree) (path : Path) : Except DiskError ByteArray := do
  match ← tree.walkPath .use path with
  | .found _ (.file content) => .ok content
  | .found .. => .error .isADirectory
  | .vacant .. => .error .notFound

/-- Makes a file, in the place of the one that was there. -/
def write (tree : FileTree) (path : Path) (content : ByteArray) : Except DiskError FileTree := do
  match ← tree.walkPath .makeFile path with
  | .found place (.file _) | .vacant place _ => .ok (tree.put place (some (.file content)))
  | .found .. => .error .isADirectory

/-- Whether a path leads to anything. -/
def leadsSomewhere (tree : FileTree) (path : Path) : Bool :=
  match tree.walkPath .use path with
  | .ok (.found ..) => true
  | _ => false

/-- Whether a path leads to a folder. -/
def leadsToFolder (tree : FileTree) (path : Path) : Bool :=
  match tree.walkPath .use path with
  | .ok (.found _ .folder) => true
  | _ => false

/-- Makes one entry where there is none. -/
def make (tree : FileTree) (path : Path) (entry : FileEntry) : Except DiskError FileTree := do
  match ← tree.walkPath .entry path with
  | .found .. => .error .alreadyExists
  | .vacant place folderOnly =>
    if folderOnly && entry ≠ .folder then .error .notFound
    else .ok (tree.put place (some entry))

/-- Makes a link where there is nothing. -/
def link (tree : FileTree) (path : Path) (target : String) : Except DiskError FileTree :=
  match Path.fault? ⟨target⟩ with
  | some error => .error error
  | none => if target.isEmpty then .error .notFound else tree.make path (.link target)

/-- Makes a folder, if it is not there. -/
def makeFolder (tree : FileTree) (path : Path) : Except DiskError FileTree :=
  match tree.make path .folder with
  | .ok tree => .ok tree
  | .error error => if tree.leadsToFolder path then .ok tree else .error error

/-- Makes a folder and those around it; the path has at most `depth` steps. The folders made before
a failure stay. -/
def makeFoldersWithin (depth : Nat) (tree : FileTree) (path : Path) :
    Except DiskError Unit × FileTree :=
  if path.text.isEmpty then (.ok (), tree)
  else match tree.makeFolder path with
    | .ok tree => (.ok (), tree)
    | .error .notFound =>
      match depth, path.parent? with
      | depth + 1, some parent =>
        match makeFoldersWithin depth tree parent with
        | (.error error, tree) => (.error error, tree)
        | (.ok (), tree) =>
          match tree.makeFolder path with
          | .ok tree => (.ok (), tree)
          | .error error => (.error error, tree)
      | _, _ => (.error .notFound, tree)
    | .error error => (.error error, tree)

/-- Makes a folder and all folders around it that are missing. -/
def makeFolders (tree : FileTree) (path : Path) : Except DiskError Unit × FileTree :=
  makeFoldersWithin path.components.length tree path

/-- The path of what a path leads to. -/
def resolve (tree : FileTree) (path : Path) : Except DiskError Path := do
  match ← tree.walkAny .use path with
  | .found place _ => .ok ⟨"/" ++ "/".intercalate place⟩
  | .vacant .. => .error .notFound

/-- Takes a file or a link away. -/
def remove (tree : FileTree) (path : Path) : Except DiskError FileTree := do
  match ← tree.walkPath .entry path with
  | .found _ .folder => .error .isADirectory
  | .found place _ =>
    if path.text.endsWith "/" then .error .notADirectory else .ok (tree.put place none)
  | .vacant .. => .error .notFound

/-- An operation that changes the tree unless it fails. -/
def change (f : FileTree → Except DiskError FileTree) : StateM FileTree (Except DiskError Unit) :=
  fun tree =>
    match f tree with
    | .ok tree => (.ok (), tree)
    | .error error => (.error error, tree)

/-- The tree as a disk. -/
def disk : Disk (StateM FileTree) where
  read path := return (← get).read path
  write path content := change (·.write path content)
  leadsSomewhere path := return (← get).leadsSomewhere path
  makeFolders path := (·.makeFolders path)
  resolve path := return (← get).resolve path

end FileTree

end ShaderGraph
