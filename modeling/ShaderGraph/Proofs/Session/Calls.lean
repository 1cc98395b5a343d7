import ShaderGraph.Proofs.Graph.Commands
import ShaderGraph.Proofs.Graph.Order
import ShaderGraph.Session

/-!
# Sessions that calls lead to

A session holds no graph that could not be made without it: its commands are calls on the live
graph, its history holds live graphs of earlier times, and the rest comes from documents. So the
live graph and all recorded graphs of a session are reachable, with no more allocations than the
session has seen.

Commands work on the live graph in place, and refreshing parameters takes the shader out of the
session for a while. A command that is refused leaves the graph as it was, and a shader that cannot
be refreshed is put back.
-/

set_option autoImplicit false

namespace ShaderGraph

/-! ## Calls -/

/-- What can be asked of a session, with what files hold and how writing them went. -/
inductive SessionCall
  | execute (command : EditCommand)
  | compile (mode : CompileMode)
  | undo
  | redo
  | load (bytes : ByteArray)
  | openFile (path : Path) (content : Except DiskError ByteArray)
  | saveTo (path : Path) (written : Except DiskError Unit)
  | setBackend (backend : Backend)
  | newDocument

namespace SessionCall

/-- The session after a call, be it refused or not. -/
def apply (s : Session) : SessionCall → Session
  | execute command => (s.execute command).2
  | compile mode => (s.compile mode).2
  | undo => s.undo.2
  | redo => s.redo.2
  | load bytes => (s.load bytes).2
  | openFile path content => (s.opened path content).2
  | saveTo path written => (s.saved path written).2
  | setBackend backend => s.setBackend backend
  | newDocument => s.newDocument

/-- How many ids a call takes from the allocator of a graph. -/
def allocations (s : Session) : SessionCall → Nat
  | execute command => command.call.allocations s.graph
  | newDocument => 1
  | _ => 0

end SessionCall

namespace Session

/-- The sessions that calls with `n` allocations make of new ones. -/
inductive ReachableIn : Nat → Session → Prop
  | new (config : Config) : ReachableIn 1 (ofConfig config)
  | call {n : Nat} {s : Session} (c : SessionCall) (h : ReachableIn n s) :
    ReachableIn (n + c.allocations s) (c.apply s)

/-- Whether a session can be made with fewer than `2 ^ 63` allocations. -/
def Reachable (s : Session) : Prop := ∃ n < 2 ^ 63, ReachableIn n s

/-- The session that a list of calls makes of a new one. -/
def ofCalls (config : Config) (calls : List SessionCall) : Session :=
  calls.foldl SessionCall.apply (ofConfig config)

/-- Calls that are fewer than `2 ^ 63 - 1` in all lead to reachable sessions. -/
theorem reachable_ofCalls (config : Config) (calls : List SessionCall)
    (hcalls : calls.length + 1 < 2 ^ 63) : (ofCalls config calls).Reachable := by
  have hone : ∀ (s : Session) (c : SessionCall), c.allocations s ≤ 1 := by
    intro s c
    cases c with
    | execute command => exact s.graph.allocations_le_one command.call
    | _ => simp [SessionCall.allocations]
  have hrun : ∀ (calls : List SessionCall) (n : Nat) (s : Session), ReachableIn n s →
      ∃ m ≤ n + calls.length, ReachableIn m (calls.foldl SessionCall.apply s) := by
    intro calls
    induction calls with
    | nil => exact fun n s hs => ⟨n, by simp, hs⟩
    | cons c rest ih =>
      intro n s hs
      obtain ⟨m, hm, hreach⟩ := ih _ _ (hs.call c)
      have hc := hone s c
      exact ⟨m, by rw [List.length_cons]; omega, hreach⟩
  obtain ⟨m, hm, hreach⟩ := hrun calls 1 _ (.new config)
  exact ⟨m, by omega, hreach⟩

end Session

/-! ## The graphs of a session -/

/-- Whether a graph can be made with `n` allocations at most. -/
def Graph.MadeWithin (n : Nat) (g : Graph) : Prop := ∃ m ≤ n, Graph.ReachableIn m g

namespace Graph.MadeWithin

variable {n m : Nat} {g : Graph}

/-- A bound on the allocations can be raised. -/
theorem mono (hg : g.MadeWithin n) (hnm : n ≤ m) : g.MadeWithin m := by
  obtain ⟨k, hk, hreach⟩ := hg
  exact ⟨k, by omega, hreach⟩

/-- A graph made with fewer than `2 ^ 63` allocations is reachable. -/
theorem reachable (hg : g.MadeWithin n) (hn : n < 2 ^ 63) : g.Reachable := by
  obtain ⟨k, hk, hreach⟩ := hg
  exact ⟨k, by omega, hreach⟩

/-- A call adds its allocations. -/
theorem apply (hg : g.MadeWithin n) (c : GraphCall) :
    (c.apply g).MadeWithin (n + c.allocations g) := by
  obtain ⟨k, hk, hreach⟩ := hg
  exact ⟨_, by omega, hreach.call c⟩

/-- Generating code allocates nothing. -/
theorem generateCode (hg : g.MadeWithin n) : g.generateCode.2.MadeWithin n :=
  hg.apply .generateCode

/-- The graph to start from is made with one allocation. -/
theorem newGraph : Session.newGraph.MadeWithin 1 :=
  ⟨1, Nat.le_refl 1, .call (.add .output ⟨0, 0⟩) .empty⟩

end Graph.MadeWithin

/-- The graph that bytes hold is the one that a text holds. -/
theorem Graph.exists_text_of_bytes {bytes : ByteArray} {g : Graph}
    (hg : Graph.ofBytes bytes = .ok g) : ∃ text, Graph.parse text = .ok g := by
  unfold Graph.ofBytes at hg
  split at hg
  · cases hg
  · rename_i text _
    cases htext : Graph.parse text with
    | error e => simp [htext, Except.mapError] at hg
    | ok h =>
      obtain rfl : h = g := by simpa [htext, Except.mapError] using hg
      exact ⟨text, htext⟩

/-- What bytes hold can be made without allocations. -/
theorem Graph.madeWithin_of_bytes {bytes : ByteArray} {g : Graph}
    (hg : Graph.ofBytes bytes = .ok g) (n : Nat) : g.MadeWithin n := by
  obtain ⟨text, htext⟩ := Graph.exists_text_of_bytes hg
  exact ⟨0, Nat.zero_le n, .ofText htext⟩

/-- Whether all graphs of a history can be made with `n` allocations at most. -/
structure History.MadeWithin (n : Nat) (h : History) : Prop where
  present : h.present.MadeWithin n
  past : ∀ g ∈ h.past, g.MadeWithin n
  future : ∀ g ∈ h.future, g.MadeWithin n

namespace History.MadeWithin

variable {n m : Nat} {h : History} {g : Graph}

/-- A bound on the allocations can be raised for a history. -/
theorem mono (hh : h.MadeWithin n) (hnm : n ≤ m) : h.MadeWithin m :=
  ⟨hh.present.mono hnm, fun g hg => (hh.past g hg).mono hnm,
    fun g hg => (hh.future g hg).mono hnm⟩

/-- A history that starts over has no graphs but the one it starts from. -/
theorem startOver (h : History) (hg : g.MadeWithin n) : (h.startOver g).MadeWithin n :=
  ⟨hg, by simp [History.startOver], by simp [History.startOver]⟩

/-- What is kept before a list was there before. -/
theorem keep {capacity : Nat} {others : List Graph} (hg : g.MadeWithin n)
    (hothers : ∀ k ∈ others, k.MadeWithin n) :
    ∀ k ∈ History.keep capacity g others, k.MadeWithin n := by
  intro k hk
  rcases List.mem_cons.mp (List.mem_of_mem_take hk) with rfl | hk
  · exact hg
  · exact hothers k hk

/-- Recording a graph adds no other graph to a history. -/
theorem record (hh : h.MadeWithin n) (hg : g.MadeWithin n) : (h.record g).2.MadeWithin n := by
  unfold History.record
  split
  · exact hh
  · exact ⟨hg, keep hh.present hh.past, by simp⟩

/-- Stepping back moves graphs between the live one and the history. -/
theorem stepBack (hh : h.MadeWithin n) (hg : g.MadeWithin n) :
    (h.stepBack g).1.MadeWithin n ∧ (h.stepBack g).2.MadeWithin n := by
  unfold History.stepBack
  split
  · exact ⟨hg, hh⟩
  · rename_i k past hpast
    have hk : ∀ j ∈ k :: past, j.MadeWithin n := hpast ▸ hh.past
    exact ⟨hk k List.mem_cons_self, hk k List.mem_cons_self,
      fun j hj => hk j (List.mem_cons_of_mem _ hj), keep hg hh.future⟩

/-- Stepping forward moves graphs between the live one and the history. -/
theorem stepForward (hh : h.MadeWithin n) (hg : g.MadeWithin n) :
    (h.stepForward g).1.MadeWithin n ∧ (h.stepForward g).2.MadeWithin n := by
  unfold History.stepForward
  split
  · exact ⟨hg, hh⟩
  · rename_i k future hfuture
    have hk : ∀ j ∈ k :: future, j.MadeWithin n := hfuture ▸ hh.future
    exact ⟨hk k List.mem_cons_self, hk k List.mem_cons_self, keep hg hh.past,
      fun j hj => hk j (List.mem_cons_of_mem _ hj)⟩

end History.MadeWithin

namespace Session

variable {n : Nat} {s : Session}

/-- Whether the live graph and all recorded graphs can be made with `n` allocations at most. -/
structure MadeWithin (n : Nat) (s : Session) : Prop where
  graph : s.graph.MadeWithin n
  history : s.history.MadeWithin n

/-! ## What compiling changes -/

/-- Compiling anew changes nothing but the kept order and the shader. -/
theorem rebuild_changes (s : Session) : ∃ order artifact,
    s.rebuild.2 = { s with graph := { s.graph with order }, artifact } := by
  obtain ⟨order, horder⟩ := s.graph.nodesByOrder_changes
  have hgraph : s.graph.generateCode.2 = { s.graph with order } := horder
  unfold rebuild
  simp only [hgraph]
  split
  · exact ⟨order, s.artifact, rfl⟩
  · split
    · exact ⟨order, s.artifact, rfl⟩
    · exact ⟨order, _, rfl⟩

/-- The shader compiled last with other parameter values, if they fit the selected backend. -/
def refreshed? (s : Session) (parameters : ParameterTable) : Option Artifact := do
  let artifact ← s.artifact
  guard (artifact.backend = s.backend)
  let program ← artifact.program.refresh? parameters
  return { artifact with program }

/-- **Taking the shader out loses nothing**: where it cannot be refreshed, the session compiles anew
with the shader as it was, which stays if that fails. -/
theorem preview_eq (s : Session) : s.preview =
    match s.graph.generateParameters with
    | (.error error, graph) => (.error (.lowering error), { s with graph })
    | (.ok parameters, graph) =>
      match s.refreshed? parameters with
      | some artifact => (.ok artifact, { s with graph, artifact := some artifact })
      | none => ({ s with graph } : Session).rebuild := by
  obtain ⟨graph, history, backend, artifact, path, dirty, recent⟩ := s
  unfold preview refreshed?
  dsimp only
  obtain ⟨_ | parameters, generated⟩ := graph.generateParameters
  · rfl
  cases artifact with
  | none => rfl
  | some artifact =>
    dsimp only
    by_cases hbackend : artifact.backend = backend
    · obtain rfl := hbackend
      cases hlayout : artifact.program.parameters.sameLayout parameters <;>
        simp [hlayout, Program.refresh, Program.refresh?]
    · simp [hbackend]

/-- Refreshing the parameters changes nothing but the kept order and the shader. -/
theorem preview_changes (s : Session) : ∃ order artifact,
    s.preview.2 = { s with graph := { s.graph with order }, artifact } := by
  obtain ⟨order, horder⟩ := s.graph.nodesByOrder_changes
  have hgraph : s.graph.generateParameters =
      (s.graph.generateParameters.1, { s.graph with order }) :=
    Prod.ext rfl horder
  rw [preview_eq, hgraph]
  split
  · rename_i hgenerated
    obtain ⟨-, rfl⟩ := Prod.mk.inj hgenerated
    exact ⟨order, s.artifact, rfl⟩
  · rename_i hgenerated
    obtain ⟨-, rfl⟩ := Prod.mk.inj hgenerated
    split
    · exact ⟨order, _, rfl⟩
    · obtain ⟨last, artifact, hrebuilt⟩ :=
        rebuild_changes { s with graph := { s.graph with order } }
      exact ⟨last, artifact, hrebuilt⟩

/-- **A command that is refused leaves the session as it was**, its graph included. -/
theorem execute_eq (s : Session) (command : EditCommand) : s.execute command =
    match command.execute s.graph with
    | .error error => (.error (.command error), s)
    | .ok (outcome, graph) =>
      if outcome.changed then
        (.ok outcome, (({ s with graph, dirty := true } : Session).compile
          (if outcome.structural then .commit else .preview)).2)
      else (.ok outcome, { s with graph }) := by
  unfold execute
  rw [command.executeInPlace_eq]
  cases command.execute s.graph <;> rfl

/-- Another document keeps of a session the backend, the path and the recent documents. -/
theorem replaceDocument_changes (s : Session) (g : Graph) : ∃ order artifact,
    s.replaceDocument g = { s with
      graph := { g with order }
      history := s.history.startOver g
      artifact
      dirty := false } :=
  rebuild_changes { s with
    graph := g
    history := s.history.startOver g
    artifact := none
    dirty := false }

end Session

end ShaderGraph
