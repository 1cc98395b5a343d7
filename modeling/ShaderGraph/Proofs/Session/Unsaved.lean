import ShaderGraph.Proofs.Document.RoundTrip
import ShaderGraph.Proofs.Session.Files
import ShaderGraph.Proofs.Storage.Faithful

/-!
# Documents without unsaved changes

On a disk that reads back what was written last, a document that has a file and no unsaved changes
is what the file holds: saving writes the live graph and opening reads it, every edit that changes
the graph marks the document, and whatever does not mark it changes at most the display order. This
does not cover documents that were loaded from bytes: loading takes the mark away and leaves the
path, so the file at the path holds what was there before.
-/

set_option autoImplicit false

namespace ShaderGraph

/-- Every text is read back from its bytes. -/
theorem Text.Utf8.decode_encode (text : String) : decode (encode text) = .ok text := by
  have hread : String.fromUTF8? text.toUTF8 = some text := dif_pos text.isValidUTF8
  rw [decode, encode, hread]

/-! ## What bytes hold -/

namespace Graph

variable {g h : Graph} {bytes : ByteArray}

/-- Whether bytes hold a graph, but for its display order and as far as documents can: a document
whose allocator is past the ids that documents may hold is refused. -/
def HeldIn (g : Graph) (bytes : ByteArray) : Prop :=
  ∃ k : Graph, k.nodes.Perm g.nodes ∧ k.connections = g.connections ∧ k.nextId = g.nextId ∧
    (k.nextId ≤ maxNodeId + 1 → ofBytes bytes = .ok k) ∧
    (maxNodeId + 1 < k.nextId →
      ofBytes bytes = .error (.invalidGraphFile (DocumentError.invalidNextId k.nextId).message))

/-- The display order has no part in what bytes hold. -/
theorem HeldIn.of_perm (hheld : g.HeldIn bytes) (hnodes : h.nodes.Perm g.nodes)
    (hconnections : h.connections = g.connections) (hnext : h.nextId = g.nextId) :
    h.HeldIn bytes := by
  obtain ⟨k, hknodes, hkconnections, hknext, hread⟩ := hheld
  exact ⟨k, hknodes.trans hnodes.symm, hkconnections.trans hconnections.symm,
    hknext.trans hnext.symm, hread⟩

/-- The text of a reachable graph holds the graph. -/
theorem Reachable.heldIn_encode (hg : g.Reachable) :
    g.HeldIn (Text.Utf8.encode g.serialize) := by
  have hbytes : ofBytes (Text.Utf8.encode g.serialize) =
      (parse g.serialize).mapError fun error => .invalidGraphFile error.message := by
    rw [ofBytes, Text.Utf8.decode_encode]
  refine ⟨{ g with order := none }, .refl _, rfl, rfl, ?_, ?_⟩
  · intro hnext
    rw [hbytes, hg.parse_eq_toGraph, hg.invariant.toGraph_ofGraph hnext]
    rfl
  · intro hnext
    rw [hbytes, hg.parse_refused hnext]
    rfl

/-- Bytes that are read as a graph hold it. -/
theorem heldIn_of_bytes (hg : ofBytes bytes = .ok g) : g.HeldIn bytes := by
  obtain ⟨text, htext⟩ := exists_text_of_bytes hg
  obtain ⟨d, hd⟩ := toGraph_of_parse htext
  have hnext := (wellFormed_of_toGraph hd).2
  refine ⟨g, .refl _, rfl, rfl, fun _ => hg, ?_⟩
  intro hpast
  simp only [maxNodeId, NodeId] at hpast
  omega

/-- What is read from bytes that hold a well-formed graph is the same graph. -/
theorem HeldIn.same (hheld : g.HeldIn bytes) (hg : g.WellFormed) :
    (g.nextId ≤ maxNodeId + 1 →
      ∃ k, ofBytes bytes = .ok k ∧ k.same g = true ∧ g.same k = true) ∧
    (maxNodeId + 1 < g.nextId →
      ofBytes bytes =
        .error (.invalidGraphFile (DocumentError.invalidNextId g.nextId).message)) := by
  obtain ⟨k, hnodes, hconnections, hnext, hread, hrefused⟩ := hheld
  rw [hnext] at hread hrefused
  refine ⟨?_, hrefused⟩
  intro hbelow
  have hk : k.WellFormed := hg.perm hnodes hconnections hnext
  exact ⟨k, hread hbelow, hg.same_of_perm hnodes hconnections,
    hk.same_of_perm hnodes.symm hconnections.symm⟩

end Graph

/-! ## What calls do to a document -/

namespace Session

variable {s t : Session} {g : Graph}

/-- Whether one session has the document of another, but for its display order, in the same file and
with the same mark. -/
structure SameDocument (s t : Session) : Prop where
  path : t.path = s.path
  dirty : t.dirty = s.dirty
  nodes : t.graph.nodes.Perm s.graph.nodes
  connections : t.graph.connections = s.graph.connections
  nextId : t.graph.nextId = s.graph.nextId

/-- A session has its own document. -/
theorem SameDocument.refl (s : Session) : s.SameDocument s := ⟨rfl, rfl, .refl _, rfl, rfl⟩

/-- A call that changes nothing keeps the document. -/
theorem SameDocument.of_eq (h : t = s) : s.SameDocument t := h ▸ .refl s

/-- Compiling anew keeps the document. -/
theorem rebuild_sameDocument (s : Session) : s.SameDocument s.rebuild.2 := by
  obtain ⟨order, artifact, hrebuilt⟩ := s.rebuild_changes
  rw [hrebuilt]
  exact ⟨rfl, rfl, .refl _, rfl, rfl⟩

/-- Compiling keeps the document. -/
theorem compile_sameDocument (s : Session) (mode : CompileMode) :
    s.SameDocument (s.compile mode).2 := by
  cases mode with
  | preview =>
    obtain ⟨order, artifact, hpreview⟩ := s.preview_changes
    rw [compile, hpreview]
    exact ⟨rfl, rfl, .refl _, rfl, rfl⟩
  | commit =>
    obtain ⟨hpath, hdirty, hnodes, hconnections, hnext⟩ := s.recordLive.rebuild_sameDocument
    exact ⟨hpath, hdirty, hnodes, hconnections, hnext⟩

/-- A command marks the document or keeps it. -/
theorem execute_marks (hg : s.graph.WellFormed) (command : EditCommand) :
    (s.execute command).2.dirty = true ∨ s.SameDocument (s.execute command).2 := by
  cases hexec : command.execute s.graph with
  | error error =>
    simp only [execute_eq, hexec]
    exact .inr (.refl s)
  | ok result =>
    obtain ⟨outcome, h⟩ := result
    simp only [execute_eq, hexec]
    cases hchanged : outcome.changed with
    | true => exact .inl (compile_sameDocument _ _).dirty
    | false =>
      have hstep := EditCommand.execute_eq_ok_iff.mp hexec
      obtain ⟨hnodes, hconnections, hnext⟩ := hstep.perm_of_unchanged hg hchanged
      exact .inr ⟨rfl, rfl, hnodes, hconnections, hnext⟩

/-- Undo marks the document as changed, unless it keeps it. -/
theorem undo_marks (s : Session) : s.undo.2.dirty = true ∨ s.SameDocument s.undo.2 := by
  unfold undo
  simp only
  split_ifs
  · exact .inl (rebuild_sameDocument _).dirty
  · exact .inr ⟨rfl, rfl, .refl _, rfl, rfl⟩

/-- Redo marks the document as changed, unless it keeps it. -/
theorem redo_marks (s : Session) : s.redo.2.dirty = true ∨ s.SameDocument s.redo.2 := by
  unfold redo
  simp only
  split_ifs
  · exact .inl (rebuild_sameDocument _).dirty
  · exact .inr ⟨rfl, rfl, .refl _, rfl, rfl⟩

/-- Choosing a back end keeps the document. -/
theorem setBackend_sameDocument (s : Session) (backend : Backend) :
    s.SameDocument (s.setBackend backend) := by
  unfold setBackend
  simp only
  split_ifs
  · exact .refl s
  · obtain ⟨hpath, hdirty, hnodes, hconnections, hnext⟩ :=
      rebuild_sameDocument { s with backend }
    exact ⟨hpath, hdirty, hnodes, hconnections, hnext⟩
  · exact ⟨rfl, rfl, .refl _, rfl, rfl⟩

/-- A document that is loaded is what the bytes hold, not marked, and with the path from before. -/
theorem load_accepted {bytes : ByteArray} (hbytes : Graph.ofBytes bytes = .ok g) :
    ∃ t, s.load bytes = (.ok (), t) ∧ t.path = s.path ∧ t.dirty = false ∧
      t.graph.nodes = g.nodes ∧ t.graph.connections = g.connections ∧
      t.graph.nextId = g.nextId := by
  obtain ⟨order, artifact, hreplaced⟩ := s.replaceDocument_changes g
  refine ⟨s.replaceDocument g, ?_, ?_⟩
  · rw [load, hbytes]
  · rw [hreplaced]
    exact ⟨rfl, rfl, rfl, rfl, rfl⟩

/-- A document that is opened is what the file held. -/
theorem opened_accepted {path : Path} {content : Except DiskError ByteArray}
    (h : s.opened path content = (.ok (), t)) : ∃ bytes g, content = .ok bytes ∧
      Graph.ofBytes bytes = .ok g ∧ t.path = some path ∧ t.graph.nodes = g.nodes ∧
      t.graph.connections = g.connections ∧ t.graph.nextId = g.nextId := by
  cases content with
  | error error => cases congrArg Prod.fst h
  | ok bytes =>
    cases hbytes : Graph.ofBytes bytes with
    | error error =>
      simp only [opened, load, hbytes] at h
      cases congrArg Prod.fst h
    | ok g =>
      obtain ⟨u, hload, -, -, hgraph⟩ := load_accepted (s := s) hbytes
      simp only [opened, hload] at h
      obtain ⟨-, rfl⟩ := Prod.mk.inj h
      exact ⟨bytes, g, rfl, hbytes, rfl, hgraph⟩

end Session

/-! ## Runs -/

section Runs

variable {σ : Type} {disk : Disk (StateM σ)} {d : Desk σ} {n : Nat} {loaded : Bool}

namespace DeskCall

/-- The call on the session alone that a call comes to, with what the disk answers. -/
def onSession (disk : Disk (StateM σ)) (d : Desk σ) : DeskCall → SessionCall
  | execute command => .execute command
  | compile mode => .compile mode
  | undo => .undo
  | redo => .redo
  | load bytes => .load bytes
  | openFile path => .openFile path ((disk.read path).run d.disk).1
  | saveTo path =>
    .saveTo path ((disk.write path (Text.Utf8.encode d.session.save)).run d.disk).1
  | saveDocument =>
    match d.session.path with
    | none => .saveTo default (.error .notFound)
    | some path =>
      .saveTo path ((disk.write path (Text.Utf8.encode d.session.save)).run d.disk).1
  | setBackend backend => .setBackend backend
  | newDocument => .newDocument

/-- The session after a call is the one after the call on the session alone. -/
theorem run_session (disk : Disk (StateM σ)) (d : Desk σ) (call : DeskCall) :
    (call.run disk d).2.session = (call.onSession disk d).apply d.session := by
  cases call with
  | saveDocument =>
    cases hpath : d.session.path with
    | none =>
      rw [run_saveDocument_of_none disk hpath, onSession, hpath]
      rfl
    | some path =>
      rw [run_saveDocument_of_some disk hpath, onSession, hpath]
      rfl
  | _ => rfl

/-- Whether the document after a call came from bytes and not from a file, given whether the one
before did: loading takes it from bytes, opening, saving and starting anew do not. -/
def loads (disk : Disk (StateM σ)) (d : Desk σ) (before : Bool) (call : DeskCall) : Bool :=
  if (call.run disk d).1.isSome then before
  else
    match call with
    | load _ => true
    | openFile _ | saveTo _ | saveDocument | newDocument => false
    | _ => before

end DeskCall

namespace Desk

/-- The desks that calls with `n` allocations make of new sessions on a disk in any state, with
whether the document came from bytes and not from a file. -/
inductive ReachableIn (disk : Disk (StateM σ)) : Nat → Bool → Desk σ → Prop
  | new (config : Config) (state : σ) : ReachableIn disk 1 false ⟨.ofConfig config, state⟩
  | call {n : Nat} {loaded : Bool} {d : Desk σ} (c : DeskCall) (h : ReachableIn disk n loaded d) :
    ReachableIn disk (n + (c.onSession disk d).allocations d.session) (c.loads disk d loaded)
      (c.run disk d).2

/-- The session of a reachable desk is reachable with as many allocations. -/
theorem ReachableIn.session_reachableIn (hd : ReachableIn disk n loaded d) :
    Session.ReachableIn n d.session := by
  induction hd with
  | new config state => exact .new config
  | call c _ ih =>
    rw [c.run_session]
    exact ih.call _

/-- Whether the file of the document, if it has one and no unsaved changes, holds it. -/
def Clean (disk : Disk (StateM σ)) (d : Desk σ) : Prop :=
  ∀ path, d.session.path = some path → d.session.dirty = false →
    ∃ bytes, ((disk.read path).run d.disk).1 = .ok bytes ∧ d.session.graph.HeldIn bytes

/-- Where document and files stay as they are, the file still holds the document. -/
theorem Clean.keep {t : Session} {state : σ} (hd : d.Clean disk) (hsame : d.session.SameDocument t)
    (hreads : ∀ path, ((disk.read path).run state).1 = ((disk.read path).run d.disk).1) :
    Clean disk ⟨t, state⟩ := by
  intro path hpath hdirty
  obtain ⟨bytes, hread, hheld⟩ := hd path (hsame.path ▸ hpath) (hsame.dirty ▸ hdirty)
  exact ⟨bytes, (hreads path).trans hread,
    hheld.of_perm hsame.nodes hsame.connections hsame.nextId⟩

/-- A document with unsaved changes asks nothing of its file. -/
theorem Clean.of_dirty {t : Session} {state : σ} (hdirty : t.dirty = true) :
    Clean disk ⟨t, state⟩ := by
  intro path _ hclean
  exact absurd (hdirty.symm.trans hclean) (by decide)

/-- A document that is saved, or that is not marked and cannot be saved, is in its file. -/
theorem Clean.saveTo (hdisk : disk.Faithful) (hg : d.session.graph.Reachable) (path : Path)
    (hd : ((DeskCall.saveTo path).run disk d).1.isSome = true → d.Clean disk) :
    ((DeskCall.saveTo path).run disk d).2.Clean disk := by
  rw [DeskCall.run_saveTo] at hd ⊢
  simp only at hd ⊢
  cases hwritten : ((disk.write path (Text.Utf8.encode d.session.save)).run d.disk).1 with
  | ok =>
    intro other hother _
    obtain rfl : path = other := Option.some.inj hother
    exact ⟨_, hdisk.read_written path _ d.disk hwritten, hg.heldIn_encode⟩
  | error error =>
    rw [hwritten] at hd
    exact (hd rfl).keep (.refl _) (hdisk.read_refused path _ d.disk error hwritten)

/-- **Every call keeps it so that a document without unsaved changes is in its file**, unless it was
loaded from bytes. -/
theorem Clean.run (hdisk : disk.Faithful) (hg : d.session.graph.Reachable) (call : DeskCall)
    (hd : loaded = false → d.Clean disk) (hloads : call.loads disk d loaded = false) :
    (call.run disk d).2.Clean disk := by
  -- a call that is refused does not change where the document came from
  have hbefore : (call.run disk d).1.isSome = true → d.Clean disk := by
    intro hrefused
    unfold DeskCall.loads at hloads
    rw [if_pos hrefused] at hloads
    exact hd hloads
  cases call with
  | execute command =>
    have hclean := hd (by simpa [DeskCall.loads] using hloads)
    rcases Session.execute_marks hg.invariant command with hdirty | hsame
    · exact .of_dirty hdirty
    · exact hclean.keep hsame fun _ => rfl
  | compile mode =>
    have hclean := hd (by simpa [DeskCall.loads] using hloads)
    exact hclean.keep (d.session.compile_sameDocument mode) fun _ => rfl
  | undo =>
    rcases d.session.undo_marks with hdirty | hsame
    · exact .of_dirty hdirty
    · exact (hd hloads).keep hsame fun _ => rfl
  | redo =>
    rcases d.session.redo_marks with hdirty | hsame
    · exact .of_dirty hdirty
    · exact (hd hloads).keep hsame fun _ => rfl
  | load bytes =>
    cases hrefused : ((DeskCall.load bytes).run disk d).1 with
    | none => simp [DeskCall.loads, hrefused] at hloads
    | some error =>
      have hkept := Session.load_refused (Prod.ext (refusal?_eq_some_iff.mp hrefused) rfl)
      exact (hbefore (by rw [hrefused]; rfl)).keep (.of_eq hkept) fun _ => rfl
  | openFile path =>
    rw [DeskCall.run_openFile] at hbefore ⊢
    have hreads := hdisk.read_keeps path d.disk
    cases hopened : (d.session.opened path ((disk.read path).run d.disk).1).1 with
    | error error =>
      have hkept := Session.opened_refused (Prod.ext hopened rfl)
      simp only [hopened] at hbefore
      exact (hbefore rfl).keep (.of_eq hkept) fun _ => by rw [hreads]
    | ok =>
      obtain ⟨bytes, g, hcontent, hbytes, hpath, hnodes, hconnections, hnext⟩ :=
        Session.opened_accepted (Prod.ext hopened rfl)
      intro other hother _
      obtain rfl : path = other := Option.some.inj (hpath.symm.trans hother)
      refine ⟨bytes, ?_, (Graph.heldIn_of_bytes hbytes).of_perm (.of_eq hnodes) hconnections hnext⟩
      simp only [hreads]
      exact hcontent
  | saveTo path => exact Clean.saveTo hdisk hg path hbefore
  | saveDocument =>
    cases hpath : d.session.path with
    | none =>
      rw [DeskCall.run_saveDocument_of_none disk hpath] at hbefore ⊢
      exact hbefore rfl
    | some path =>
      rw [DeskCall.run_saveDocument_of_some disk hpath] at hbefore ⊢
      exact Clean.saveTo hdisk hg path hbefore
  | setBackend backend =>
    exact (hd hloads).keep (d.session.setBackend_sameDocument backend) fun _ => rfl
  | newDocument =>
    intro path hpath
    cases hpath

/-- The file of a document without unsaved changes holds it, unless it was loaded from bytes. -/
theorem ReachableIn.clean (hdisk : disk.Faithful) (hd : ReachableIn disk n loaded d)
    (hn : n < 2 ^ 63) (hloaded : loaded = false) : d.Clean disk := by
  induction hd with
  | new config state =>
    intro path hpath
    cases hpath
  | @call n loaded d c hprev ih =>
    have hg : d.session.graph.Reachable :=
      (hprev.session_reachableIn.sound (by omega)).graph.reachable (by omega)
    exact Clean.run hdisk hg c (ih (by omega)) hloaded

/-- **The mark for unsaved changes can be trusted, but for loading and for a used-up allocator.**
On a disk that reads back what was written last, whenever a document has a file and is not marked,
and was not loaded from bytes since it was last opened, saved or started anew, the file can be read
and its bytes hold the live graph: they are read as a graph that is the same, unless the allocator
is past the ids that documents may hold; then they are refused, for the allocator. -/
theorem unmarked_isSaved (hdisk : disk.Faithful) (hd : ReachableIn disk n false d)
    (hn : n < 2 ^ 63) {path : Path} (hpath : d.session.path = some path)
    (hdirty : d.session.dirty = false) :
    ∃ bytes, ((disk.read path).run d.disk).1 = .ok bytes ∧
      (d.session.graph.nextId ≤ maxNodeId + 1 → ∃ g, Graph.ofBytes bytes = .ok g ∧
        g.same d.session.graph = true ∧ d.session.graph.same g = true) ∧
      (maxNodeId + 1 < d.session.graph.nextId → Graph.ofBytes bytes =
        .error
          (.invalidGraphFile (DocumentError.invalidNextId d.session.graph.nextId).message)) := by
  obtain ⟨bytes, hread, hheld⟩ := hd.clean hdisk hn rfl path hpath hdirty
  have hg : d.session.graph.WellFormed :=
    ((hd.session_reachableIn.sound hn).graph.reachable hn).invariant
  exact ⟨bytes, hread, hheld.same hg⟩

/-- Calls other than loading take no document from bytes. -/
theorem ReachableIn.call_of_not_load (hd : ReachableIn disk n false d) (c : DeskCall)
    (hc : ∀ bytes, c ≠ .load bytes) :
    ReachableIn disk (n + (c.onSession disk d).allocations d.session) false (c.run disk d).2 := by
  have hloads : c.loads disk d false = false := by
    unfold DeskCall.loads
    split_ifs
    · rfl
    · cases c with
      | load bytes => exact absurd rfl (hc bytes)
      | _ => rfl
  rw [← hloads]
  exact hd.call c

/-- A new document is written to a disk that is empty. -/
theorem run_saveTo_new :
    (DeskCall.saveTo ⟨"a.ron"⟩).run FileTree.disk ⟨.ofConfig .default, ⟨[], []⟩⟩ =
      (none, ⟨{ (Session.ofConfig .default).atPath ⟨"a.ron"⟩ with dirty := false },
        ⟨[(["a.ron"], .file (Text.Utf8.encode (Session.ofConfig .default).save))], []⟩⟩) := by
  have hsegments : Path.segments ⟨"a.ron"⟩ = ["a.ron"] := by decide +kernel
  have hfault : Path.fault? ⟨"a.ron"⟩ = none := by decide +kernel
  have hstart : (⟨[], []⟩ : FileTree).start "a.ron" = [] := by decide +kernel
  have hpathLimit : ¬FileTree.pathLimit < "a.ron".utf8ByteSize := by decide +kernel
  have hnameLimit : ¬FileTree.nameLimit < "a.ron".utf8ByteSize := by decide +kernel
  have hroot : FileTree.entry? ⟨[], []⟩ [] = some .folder := rfl
  have hvacant : FileTree.entry? ⟨[], []⟩ ["a.ron"] = none := rfl
  have hwalk : (⟨[], []⟩ : FileTree).walkPath .makeFile ⟨"a.ron"⟩ =
      .ok (.vacant ["a.ron"] false) := by
    simp [FileTree.walkPath, FileTree.walkAny, FileTree.walk, hsegments, hfault, hstart, hpathLimit,
      hnameLimit, hroot, hvacant]
  have hwrite : ∀ content, (⟨[], []⟩ : FileTree).write ⟨"a.ron"⟩ content =
      .ok ⟨[(["a.ron"], .file content)], []⟩ := by
    intro content
    exact FileTree.write_eq_ok_iff.mpr ⟨_, _, hwalk, rfl, rfl⟩
  rw [DeskCall.run_saveTo]
  simp only [FileTree.run_write, hwrite]
  rfl

/-- A new document that was just written to a disk. -/
theorem unmarked_isSaved_new :
    let d := ((DeskCall.saveTo ⟨"a.ron"⟩).run FileTree.disk ⟨.ofConfig .default, ⟨[], []⟩⟩).2
    d.session.path = some ⟨"a.ron"⟩ ∧ d.session.dirty = false ∧ ∃ bytes g,
      ((FileTree.disk.read ⟨"a.ron"⟩).run d.disk).1 = .ok bytes ∧ Graph.ofBytes bytes = .ok g ∧
        g.same d.session.graph = true := by
  intro d
  have hnew : ReachableIn FileTree.disk 1 false ⟨.ofConfig .default, ⟨[], []⟩⟩ := .new _ _
  have hd : ReachableIn FileTree.disk 1 false d :=
    hnew.call_of_not_load (.saveTo ⟨"a.ron"⟩) fun _ h => by cases h
  have hpath : d.session.path = some ⟨"a.ron"⟩ :=
    congrArg (fun result => result.2.session.path) run_saveTo_new
  have hdirty : d.session.dirty = false :=
    congrArg (fun result => result.2.session.dirty) run_saveTo_new
  have hgraph : d.session.graph = (Session.ofConfig .default).graph :=
    congrArg (fun result => result.2.session.graph) run_saveTo_new
  have hnext : d.session.graph.nextId ≤ maxNodeId + 1 := by
    rw [hgraph]
    decide +kernel
  obtain ⟨bytes, hread, hbelow, -⟩ :=
    unmarked_isSaved FileTree.disk_faithful hd (by decide) hpath hdirty
  obtain ⟨g, hbytes, hsame, -⟩ := hbelow hnext
  exact ⟨hpath, hdirty, bytes, g, hread, hbytes, hsame⟩

/-- A new document is written, and then another one, without nodes, is loaded from bytes: it is not
marked and has the path of the file, which holds the first one. -/
theorem unmarked_loaded :
    let first := ((DeskCall.saveTo ⟨"a.ron"⟩).run FileTree.disk ⟨.ofConfig .default, ⟨[], []⟩⟩).2
    let d := ((DeskCall.load (Text.Utf8.encode Graph.empty.serialize)).run FileTree.disk first).2
    FileTree.disk.Faithful ∧ (∃ n < 2 ^ 63, ∃ loaded, ReachableIn FileTree.disk n loaded d) ∧
      d.session.path = some ⟨"a.ron"⟩ ∧ d.session.dirty = false ∧ ∃ bytes g,
        ((FileTree.disk.read ⟨"a.ron"⟩).run d.disk).1 = .ok bytes ∧ Graph.ofBytes bytes = .ok g ∧
          g.same d.session.graph = false := by
  intro first d
  have hnew : ReachableIn FileTree.disk 1 false ⟨.ofConfig .default, ⟨[], []⟩⟩ := .new _ _
  have hfirst : ReachableIn FileTree.disk 1 false first :=
    hnew.call_of_not_load (.saveTo ⟨"a.ron"⟩) fun _ h => by cases h
  have hpath : first.session.path = some ⟨"a.ron"⟩ :=
    congrArg (fun result => result.2.session.path) run_saveTo_new
  have hdirty : first.session.dirty = false :=
    congrArg (fun result => result.2.session.dirty) run_saveTo_new
  have hgraph : first.session.graph = (Session.ofConfig .default).graph :=
    congrArg (fun result => result.2.session.graph) run_saveTo_new
  -- the file holds the first document
  obtain ⟨bytes, hread, hheld⟩ :=
    hfirst.clean FileTree.disk_faithful (by decide) rfl _ hpath hdirty
  obtain ⟨g, hnodes, -, hnext, hparsed, -⟩ := hheld
  have hbelow : g.nextId ≤ maxNodeId + 1 := by
    rw [hnext, hgraph]
    decide +kernel
  -- the bytes hold the second one
  obtain ⟨k, hknodes, -, hknext, hkparsed, -⟩ :=
    Graph.Reachable.heldIn_encode ⟨0, by decide, .empty⟩
  have hkbelow : k.nextId ≤ maxNodeId + 1 := by
    rw [hknext]
    decide
  obtain ⟨t, hload, htpath, htdirty, htnodes, -⟩ :=
    Session.load_accepted (s := first.session) (hkparsed hkbelow)
  have hsession : d.session = t := congrArg Prod.snd hload
  have hd := hfirst.call (.load (Text.Utf8.encode Graph.empty.serialize))
  refine ⟨FileTree.disk_faithful, ⟨1, by decide, _, hd⟩, ?_, ?_, bytes, g, hread,
    hparsed hbelow, Graph.not_same_of_length ?_⟩
  · rw [hsession, htpath, hpath]
  · rw [hsession, htdirty]
  · have hone : first.session.graph.nodes.length = 1 := by
      rw [hgraph]
      decide +kernel
    have hempty : d.session.graph.nodes.length = 0 := by
      rw [hsession, htnodes, hknodes.length_eq]
      rfl
    rw [hnodes.length_eq]
    omega

end Desk

end Runs

end ShaderGraph
