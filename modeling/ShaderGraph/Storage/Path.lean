/-!
# Paths

A path is kept as it was written. What it names is given by its components: repeated separators,
separators at the end and inner `.` add nothing, so two paths are the same when their components
are. The file name is the last component, unless that is a step up; its stem ends before its last
point, unless it has no other.
-/

set_option autoImplicit false

namespace ShaderGraph

/-- A path as it was written. -/
structure Path where
  text : String
deriving DecidableEq, Repr, Inhabited

namespace Path

/-- One step of a path. -/
inductive Component
  | root
  /-- The folder the path starts from, written `.` in front. -/
  | here
  | up
  | name (text : String)
deriving DecidableEq, Repr

/-- What stands between the separators. -/
def segments (path : Path) : List String :=
  (path.text.toList.splitOn '/').map String.ofList

/-- The step that a segment means, if it means one. -/
def step? : String → Option Component
  | "" | "." => none
  | ".." => some .up
  | text => some (.name text)

/-- The steps of a path. -/
def components (path : Path) : List Component :=
  let steps := path.segments.filterMap step?
  match path.segments with
  | "" :: _ :: _ => .root :: steps
  | "." :: _ => .here :: steps
  | _ => steps

/-- Whether two paths take the same steps. -/
def same (p q : Path) : Bool := p.components == q.components

/-- Text of a step. -/
def Component.text : Component → String
  | root => ""
  | here => "."
  | up => ".."
  | name text => text

/-- The path that takes the given steps. -/
def ofComponents : List Component → Path
  | [.root] => ⟨"/"⟩
  | steps => ⟨"/".intercalate (steps.map Component.text)⟩

/-- The path without its last step; the root and the empty path have none. -/
def parent? (path : Path) : Option Path :=
  match path.components.getLast? with
  | none | some .root => none
  | some _ => some (ofComponents path.components.dropLast)

/-- The last step, if it is a name. -/
def fileName? (path : Path) : Option String :=
  match path.components.getLast? with
  | some (.name text) => some text
  | _ => none

/-- The part of a name before its last point; a name whose only point comes first is all stem. -/
def stemOf (name : String) : String :=
  let fromPoint := name.toList.reverse.dropWhile (· ≠ '.')
  match fromPoint.tail with
  | [] => name
  | stem => String.ofList stem.reverse

/-- The file name without its extension. -/
def fileStem? (path : Path) : Option String := path.fileName?.map stemOf

/-- A path taken from a folder; a path from the root stays as it is. -/
def join (folder path : Path) : Path :=
  if path.text.startsWith "/" || folder.text.isEmpty then path
  else if folder.text.endsWith "/" then ⟨folder.text ++ path.text⟩
  else ⟨folder.text ++ "/" ++ path.text⟩

end Path

end ShaderGraph
