import ShaderGraph.Storage
import ShaderGraph.Text.Quoted

/-!
# Watched documents

Documents are watched through the folders they are in, so that a document that is replaced as a
whole is still seen. A folder is watched as long as it holds a watched document, and so each folder
is kept with the number of documents watched in it. A document is put in before its folder is
watched, and taken out again if that is refused.

How a path resolves, and whether watching a folder could be begun or ended, is given from outside.
-/

set_option autoImplicit false

namespace ShaderGraph

/-- Why a document cannot be watched. -/
inductive WatchError
  /-- The folder could not be watched, in the words of the system. -/
  | system (words : String)
  | disk (error : DiskError)
  /-- There is no folder around the path. -/
  | noParent (path : Path)
deriving DecidableEq, Repr

/-- The error in words. -/
def WatchError.message : WatchError → String
  | system words => s!"Watcher error: {words}"
  | disk error => s!"IO error: {error.message}"
  | noParent path => s!"Cannot watch {Text.quoteDebug false path.text}: no parent directory"

/-- The documents watched and the folders that are watched for them. -/
structure Watcher where
  documents : List Path
  /-- Watched folders and the number of documents in each. -/
  folders : List (Path × Nat)

namespace Watcher

/-- A watcher of nothing. -/
def empty : Watcher := ⟨[], []⟩

/-- Whether a resolved path is watched. -/
def holds (w : Watcher) (path : Path) : Bool := w.documents.any path.same

/-- The number of documents watched in a folder, if there are any. -/
def count? (w : Watcher) (folder : Path) : Option Nat :=
  (w.folders.find? fun (other, _) => folder.same other).map Prod.snd

/-- The folders with the number of one of them set, or that one left out. -/
def setCount (w : Watcher) (folder : Path) (count : Option Nat) : List (Path × Nat) :=
  let others := w.folders.filter fun (other, _) => !folder.same other
  match count with
  | none => others
  | some n => (folder, n) :: others

/-- The documents without the one at a resolved path. -/
def without (w : Watcher) (path : Path) : List Path :=
  w.documents.filter fun other => !path.same other

/-- Watches the document at a path, given how the path resolves and how watching a folder begins;
gives the resolved path. The document is put in first, and taken out again if its folder is new and
cannot be watched. -/
def watch (w : Watcher) (resolved : Except DiskError Path) (begin : Path → Except String Unit) :
    Except WatchError Path × Watcher :=
  match resolved with
  | .error error => (.error (.disk error), w)
  | .ok path =>
    match path.parent? with
    | none => (.error (.noParent path), w)
    | some folder =>
      if w.holds path then (.ok path, w)
      else
        let w : Watcher := { w with documents := path :: w.documents }
        match if (w.count? folder).isSome then .ok () else begin folder with
        | .error words => (.error (.system words), { w with documents := w.without path })
        | .ok () =>
          (.ok path,
            { w with folders := w.setCount folder (some ((w.count? folder).getD 0 + 1)) })

/-- Stops watching the document at a path, given how the path resolves and how watching a folder
ends. -/
def unwatch (w : Watcher) (resolved : Except DiskError Path) (finish : Path → Except String Unit) :
    Except WatchError Unit × Watcher :=
  match resolved with
  | .error error => (.error (.disk error), w)
  | .ok path =>
    if !w.holds path then (.ok (), w)
    else
      let documents := w.without path
      match path.parent?.bind fun folder => (w.count? folder).map fun n => (folder, n) with
      | none => (.ok (), { w with documents })
      | some (folder, n) =>
        if n ≤ 1 then
          ((finish folder).mapError .system, ⟨documents, w.setCount folder none⟩)
        else (.ok (), ⟨documents, w.setCount folder (some (n - 1))⟩)

/-- Whether the document at a path is watched, given how the path resolves. -/
def isWatching (w : Watcher) (resolved : Except DiskError Path) : Bool :=
  match resolved with
  | .error _ => false
  | .ok path => w.holds path

end Watcher

end ShaderGraph
