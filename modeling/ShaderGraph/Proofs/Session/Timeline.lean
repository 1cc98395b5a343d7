import ShaderGraph.Proofs.Graph.KeptOrder
import ShaderGraph.Proofs.Session.Calls

/-!
# An unbounded history

A timeline is what a history would be if it forgot nothing: all graphs recorded before the present
one, the present one, the graphs ahead, and the live graph. How far back one may go is a number of
its own. It runs on the calls of a session alone; it compiles nothing, and it knows nothing of how
a history stores its entries. Commands do not depend on the dependency order that a graph keeps, so
a timeline leaves it out.
-/

set_option autoImplicit false

namespace ShaderGraph

/-- **No command depends on the kept order**, neither for its outcome nor for the rest of the
graph. -/
theorem EditCommand.execute_withoutOrder (g : Graph) (command : EditCommand) :
    command.execute g.withoutOrder =
      (command.execute g).map fun (outcome, h) => (outcome, h.withoutOrder) := by
  cases command with
  | add type position => rfl
  | remove nodes =>
    rw [execute, execute, executeInPlace, executeInPlace, g.remove_withoutOrder]
    rfl
  | duplicate node =>
    rw [execute_duplicate, execute_duplicate, g.duplicate_withoutOrder]
    cases g.duplicate node <;> rfl
  | connect source dest =>
    rw [execute_connect, execute_connect, g.connect_withoutOrder]
    cases g.connect source dest <;> rfl
  | disconnect dest =>
    rw [execute, execute, executeInPlace, executeInPlace, g.disconnect_withoutOrder]
    rfl
  | setValue slot value =>
    rw [execute_setValue, execute_setValue, g.setValue_withoutOrder]
    cases g.setValue slot value <;> rfl
  | move nodes delta =>
    rw [execute, execute, executeInPlace, executeInPlace, g.move_withoutOrder]
    rfl
  | raise node =>
    have hcontains : g.withoutOrder.contains node = g.contains node := rfl
    rw [execute_raise, execute_raise, g.raise_withoutOrder, hcontains]
    cases g.contains node <;> rfl

/-! ## Timelines -/

/-- All graphs that were ever recorded around the present one, and the live graph. -/
structure Timeline where
  /-- The graphs recorded before, the newest first; none is ever dropped. -/
  past : List Graph
  /-- The graph recorded last. -/
  present : Graph
  /-- The graphs ahead, the nearest first. -/
  future : List Graph
  live : Graph
  /-- How many graphs of the past one may go back to. -/
  retained : Nat

namespace Timeline

/-- The timeline that starts from a graph. -/
def start (g : Graph) : Timeline := ⟨[], g, [], g, 0⟩

variable (capacity : Nat)

/-- Records the live graph unless it is the same as the present one. -/
def commit (t : Timeline) : Timeline :=
  if t.live.same t.present then t
  else
    { t with
      past := t.present :: t.past
      present := t.live
      future := []
      retained := min capacity (t.retained + 1) }

/-- Records the live graph, and then goes back if that is possible. -/
def undo (t : Timeline) : Timeline :=
  let t := t.commit capacity
  match t.past, t.retained with
  | g :: past, retained + 1 => ⟨past, g, t.live :: t.future, g, retained⟩
  | _, _ => t

/-- Records the live graph, and then goes forward if that is possible. -/
def redo (t : Timeline) : Timeline :=
  let t := t.commit capacity
  match t.future with
  | g :: future => ⟨t.live :: t.past, g, future, g, t.retained + 1⟩
  | [] => t

/-- Applies a command to the live graph; a structural change is recorded. -/
def execute (t : Timeline) (command : EditCommand) : Timeline :=
  match command.execute t.live with
  | .error _ => t
  | .ok (outcome, live) =>
    if outcome.changed && outcome.structural then { t with live }.commit capacity
    else { t with live }

/-- Starts over from the graph that bytes hold, if they hold one. -/
def load (t : Timeline) (bytes : ByteArray) : Timeline :=
  match Graph.ofBytes bytes with
  | .error _ => t
  | .ok g => start g

/-- The timeline after a call on the session. -/
def apply (t : Timeline) : SessionCall → Timeline
  | .execute command => t.execute capacity command
  | .compile .commit => t.commit capacity
  | .undo => t.undo capacity
  | .redo => t.redo capacity
  | .load bytes => t.load bytes
  | .openFile _ (.ok bytes) => t.load bytes
  | .newDocument => start Session.newGraph
  | .compile .preview | .openFile _ (.error _) | .saveTo .. | .setBackend _ => t

/-- The timeline that a list of calls makes of a new one. -/
def ofCalls (config : Config) (calls : List SessionCall) : Timeline :=
  calls.foldl (apply (max config.historyCapacity 1)) (start Session.newGraph)

section Steps

variable {capacity} {t : Timeline} {g : Graph} {past future : List Graph} {retained : Nat}

/-- Nothing is recorded while the live graph is the present one. -/
theorem commit_of_same (hsame : t.live.same t.present = true) : t.commit capacity = t :=
  if_pos hsame

/-- A new live graph becomes the present one, and no future is left. -/
theorem commit_of_new (hnew : t.live.same t.present = false) : t.commit capacity =
    ⟨t.present :: t.past, t.live, [], t.live, min capacity (t.retained + 1)⟩ :=
  if_neg (Bool.not_eq_true _ ▸ hnew)

/-- Undo only records where nothing is kept to step back to. -/
theorem undo_of_none (hretained : (t.commit capacity).retained = 0) :
    t.undo capacity = t.commit capacity := by
  unfold undo
  simp only [hretained]
  cases (t.commit capacity).past <;> rfl

/-- Undo records and then goes back to the last graph of the past, if that is kept. -/
theorem undo_of_some (hpast : (t.commit capacity).past = g :: past)
    (hretained : (t.commit capacity).retained = retained + 1) : t.undo capacity =
      ⟨past, g, (t.commit capacity).live :: (t.commit capacity).future, g, retained⟩ := by
  unfold undo
  simp only [hpast, hretained]

/-- Redo only records where there is no future. -/
theorem redo_of_nil (hfuture : (t.commit capacity).future = []) :
    t.redo capacity = t.commit capacity := by
  unfold redo
  simp only [hfuture]

/-- Redo records and then goes on to the first graph of the future. -/
theorem redo_of_cons (hfuture : (t.commit capacity).future = g :: future) : t.redo capacity =
    ⟨(t.commit capacity).live :: (t.commit capacity).past, g, future, g,
      (t.commit capacity).retained + 1⟩ := by
  unfold redo
  simp only [hfuture]

end Steps

end Timeline

end ShaderGraph
