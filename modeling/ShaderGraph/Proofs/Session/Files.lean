import ShaderGraph.Proofs.Refusal
import ShaderGraph.Proofs.Session.Current
import ShaderGraph.Storage.FileTree

/-!
# Sessions with a disk

A session is asked for something on a disk, which may refuse to read or to write. What was asked is
then either done as a whole or refused as a whole: nothing of a session is replaced before a file
was read and found to hold a graph, the path and the list of recent documents follow a file that was
read or written, and where a graph does not compile, the shader compiled last stays. All that a
refused compilation leaves behind is the order of the graph and, if it was to be recorded, the
record.
-/

set_option autoImplicit false

namespace ShaderGraph

/-- Contents of files are compared byte by byte. -/
local instance bytesDecidableEq : DecidableEq ByteArray := ByteArray.instDecidableEq

/-- A session, and the state of the disk that it works on. -/
structure Desk (σ : Type) where
  session : Session
  disk : σ

/-- What can be asked of a session with a disk. -/
inductive DeskCall
  | execute (command : EditCommand)
  | compile (mode : CompileMode)
  | undo
  | redo
  | load (bytes : ByteArray)
  | openFile (path : Path)
  | saveTo (path : Path)
  | saveDocument
  | setBackend (backend : Backend)
  | newDocument
deriving DecidableEq

namespace DeskCall

variable {σ : Type}

/-- Why a call is refused, if it is, and what it leaves. -/
def run (disk : Disk (StateM σ)) (d : Desk σ) : DeskCall → Option SessionError × Desk σ
  | execute command =>
    let (answer, s) := d.session.execute command
    (refusal? answer, ⟨s, d.disk⟩)
  | compile mode =>
    let (answer, s) := d.session.compile mode
    (refusal? answer, ⟨s, d.disk⟩)
  | undo => (none, ⟨d.session.undo.2, d.disk⟩)
  | redo => (none, ⟨d.session.redo.2, d.disk⟩)
  | load bytes =>
    let (answer, s) := d.session.load bytes
    (refusal? answer, ⟨s, d.disk⟩)
  | openFile path =>
    let ((answer, s), state) := (d.session.openFile disk path).run d.disk
    (refusal? answer, ⟨s, state⟩)
  | saveTo path =>
    let ((answer, s), state) := (d.session.saveTo disk path).run d.disk
    (refusal? answer, ⟨s, state⟩)
  | saveDocument =>
    let ((answer, s), state) := (d.session.saveDocument disk).run d.disk
    (refusal? answer, ⟨s, state⟩)
  | setBackend backend => (none, ⟨d.session.setBackend backend, d.disk⟩)
  | newDocument => (none, ⟨d.session.newDocument, d.disk⟩)

/-- Opening a file comes down to what the disk reads. -/
theorem run_openFile (disk : Disk (StateM σ)) (d : Desk σ) (path : Path) :
    (openFile path).run disk d =
      let answer := (disk.read path).run d.disk
      (refusal? (d.session.opened path answer.1).1,
        ⟨(d.session.opened path answer.1).2, answer.2⟩) :=
  rfl

/-- Saving to a file comes down to whether the disk writes. -/
theorem run_saveTo (disk : Disk (StateM σ)) (d : Desk σ) (path : Path) :
    (saveTo path).run disk d =
      let answer := (disk.write path (Text.Utf8.encode d.session.save)).run d.disk
      (refusal? (d.session.saved path answer.1).1,
        ⟨(d.session.saved path answer.1).2, answer.2⟩) :=
  rfl

/-- A document without a file is not saved, and nothing changes. -/
theorem run_saveDocument_of_none (disk : Disk (StateM σ)) {d : Desk σ}
    (hpath : d.session.path = none) :
    saveDocument.run disk d = (some .noDocumentPath, d) := by
  simp only [run, Session.saveDocument, hpath]
  rfl

/-- A document with a file is saved to that file. -/
theorem run_saveDocument_of_some (disk : Disk (StateM σ)) {d : Desk σ} {path : Path}
    (hpath : d.session.path = some path) :
    saveDocument.run disk d = (saveTo path).run disk d := by
  simp only [run, Session.saveDocument, hpath]

/-- The history that a refused call leaves: a compilation is recorded first, if it is to be. -/
def recorded (s : Session) : DeskCall → History
  | compile .commit => (s.history.record s.graph).2
  | _ => s.history

end DeskCall

namespace Session

variable {s t : Session} {error : SessionError}

/-! ## Refusals -/

/-- A command that is refused changes nothing. -/
theorem execute_refused {command : EditCommand} (h : s.execute command = (.error error, t)) :
    t = s := by
  rw [execute_eq] at h
  split at h
  · exact (congrArg Prod.snd h).symm
  · split_ifs at h <;> cases congrArg Prod.fst h

/-- Bytes that are refused leave the session as it was. -/
theorem load_refused {bytes : ByteArray} (h : s.load bytes = (.error error, t)) : t = s := by
  unfold load at h
  split at h
  · exact (congrArg Prod.snd h).symm
  · cases congrArg Prod.fst h

/-- A file that cannot be read, or holds no graph, changes nothing. -/
theorem opened_refused {path : Path} {content : Except DiskError ByteArray}
    (h : s.opened path content = (.error error, t)) : t = s := by
  unfold opened at h
  split at h
  · exact (congrArg Prod.snd h).symm
  · split at h
    · rename_i bytes _ _ hload
      obtain ⟨-, rfl⟩ := Prod.mk.inj h
      exact load_refused hload
    · cases congrArg Prod.fst h

/-- A write that is refused leaves the session as it was. -/
theorem saved_refused {path : Path} {written : Except DiskError Unit}
    (h : s.saved path written = (.error error, t)) : t = s := by
  unfold saved at h
  split at h
  · exact (congrArg Prod.snd h).symm
  · cases congrArg Prod.fst h

/-- A graph that does not compile leaves its order behind. -/
theorem rebuild_refused (h : s.rebuild = (.error error, t)) :
    t = { s with graph := s.graph.nodesByOrder.2 } := by
  unfold rebuild at h
  simp only at h
  split at h
  · exact (congrArg Prod.snd h).symm
  · split at h
    · exact (congrArg Prod.snd h).symm
    · cases congrArg Prod.fst h

/-- A graph that has no parameters, or does not compile, leaves its order behind. -/
theorem preview_refused (hg : s.graph.Consistent) (h : s.preview = (.error error, t)) :
    t = { s with graph := s.graph.nodesByOrder.2 } := by
  have hgenerated : s.graph.generateParameters =
      (s.graph.generateParameters.1, s.graph.nodesByOrder.2) := rfl
  rw [preview_eq, hgenerated] at h
  split at h
  · rename_i hgraph
    obtain ⟨-, rfl⟩ := Prod.mk.inj hgraph
    exact (congrArg Prod.snd h).symm
  · rename_i hgraph
    obtain ⟨-, rfl⟩ := Prod.mk.inj hgraph
    split at h
    · cases congrArg Prod.fst h
    · have ht := rebuild_refused h
      have htwice : s.graph.nodesByOrder.2.nodesByOrder.2 = s.graph.nodesByOrder.2 :=
        hg.generateCode_twice
      rw [ht]
      exact congrArg (fun graph => ({ s with graph } : Session)) htwice

end Session

namespace Graph

/-- Whether one graph is another one whose order, if it was not kept, may have been worked out. -/
def OrderFilled (g h : Graph) : Prop :=
  ∃ order, (order = g.order ∨ g.order = none ∧ order = some g.dependencyList) ∧
    h = { g with order }

/-- Asking for the order fills it in, if it is not there. -/
theorem Consistent.orderFilled {g : Graph} (hg : g.Consistent) :
    g.OrderFilled g.nodesByOrder.2 := by
  rw [hg.nodesByOrder_eq]
  refine ⟨some g.dependencyList, ?_, rfl⟩
  cases horder : g.order with
  | none => exact .inr ⟨rfl, rfl⟩
  | some order =>
    obtain rfl := hg.order_current order horder
    exact .inl rfl

end Graph

namespace DeskCall

variable {σ : Type} {d : Desk σ} {error : SessionError}

/-- **Refused calls are atomic.** On whatever disk, a call on a reachable session that is refused
leaves the session exactly as it was, unless it was to compile: then the order of the live graph may
have been worked out, and, if the compilation was to be recorded, the live graph recorded. -/
theorem run_refused (disk : Disk (StateM σ)) (hd : d.session.Reachable) (call : DeskCall)
    (hrefused : (call.run disk d).1 = some error) :
    ((∀ mode, call ≠ .compile mode) → (call.run disk d).2.session = d.session) ∧
    ∃ graph, d.session.graph.OrderFilled graph ∧ (call.run disk d).2.session =
      { d.session with graph, history := call.recorded d.session } := by
  obtain ⟨s, state⟩ := d
  have hg : s.graph.Consistent := hd.graph_reachable.consistent
  -- what is left as it was has its order as it was
  have hunchanged : ∀ t : Session, t = s → ∃ graph, s.graph.OrderFilled graph ∧
      t = { s with graph, history := s.history } := by
    rintro t rfl
    exact ⟨t.graph, ⟨t.graph.order, .inl rfl, rfl⟩, rfl⟩
  cases call with
  | execute command =>
    have hkept := Session.execute_refused (Prod.ext (refusal?_eq_some_iff.mp hrefused) rfl)
    exact ⟨fun _ => hkept, hunchanged _ hkept⟩
  | compile mode =>
    refine ⟨fun hother => absurd rfl (hother mode), s.graph.nodesByOrder.2, hg.orderFilled, ?_⟩
    cases mode with
    | preview => exact Session.preview_refused hg (Prod.ext (refusal?_eq_some_iff.mp hrefused) rfl)
    | commit =>
      exact Session.rebuild_refused (s := s.recordLive)
        (Prod.ext (refusal?_eq_some_iff.mp hrefused) rfl)
  | undo | redo | setBackend | newDocument => cases hrefused
  | load bytes =>
    have hkept := Session.load_refused (Prod.ext (refusal?_eq_some_iff.mp hrefused) rfl)
    exact ⟨fun _ => hkept, hunchanged _ hkept⟩
  | openFile path =>
    have hkept := Session.opened_refused (Prod.ext (refusal?_eq_some_iff.mp hrefused) rfl)
    exact ⟨fun _ => hkept, hunchanged _ hkept⟩
  | saveTo path =>
    have hkept := Session.saved_refused (Prod.ext (refusal?_eq_some_iff.mp hrefused) rfl)
    exact ⟨fun _ => hkept, hunchanged _ hkept⟩
  | saveDocument =>
    have hkept : (saveDocument.run disk ⟨s, state⟩).2.session = s := by
      cases hpath : s.path with
      | none => rw [run_saveDocument_of_none disk hpath]
      | some path =>
        rw [run_saveDocument_of_some disk hpath] at hrefused ⊢
        exact Session.saved_refused (Prod.ext (refusal?_eq_some_iff.mp hrefused) rfl)
    exact ⟨fun _ => hkept, hunchanged _ hkept⟩

/-- A graph that lost its output is compiled, and a file without a name is opened. -/
theorem run_refused_missing :
    let d : Desk FileTree := ⟨.ofCalls .default [.execute (.remove [1])], ⟨[], []⟩⟩
    (((compile .commit).run FileTree.disk d).1 = some (.lowering .missingOutput) ∧
      ∃ graph, d.session.graph.OrderFilled graph ∧
        ((compile .commit).run FileTree.disk d).2.session =
          { d.session with graph, history := (d.session.history.record d.session.graph).2 }) ∧
    ((openFile ⟨""⟩).run FileTree.disk d).1 = some (.disk .notFound) ∧
      ((openFile ⟨""⟩).run FileTree.disk d).2.session = d.session := by
  intro d
  have hd : d.session.Reachable := Session.reachable_ofCalls _ _ (by decide)
  have hcompile : ((compile .commit).run FileTree.disk d).1 = some (.lowering .missingOutput) := by
    decide +kernel
  have hopen : ((openFile ⟨""⟩).run FileTree.disk d).1 = some (.disk .notFound) := by
    decide +kernel
  exact ⟨⟨hcompile, (run_refused FileTree.disk hd _ hcompile).2⟩, hopen,
    (run_refused FileTree.disk hd _ hopen).1 fun _ h => by cases h⟩

end DeskCall

end ShaderGraph
