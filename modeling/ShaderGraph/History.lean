import ShaderGraph.Graph.Basic

/-!
# History

A history is a recorded graph with the graphs before and after it, the nearest first, a bounded
number on each side. Recording a graph that is the same as the recorded one does nothing, so
edits that change nothing leave no entry. Stepping takes the live graph in, to step back to later,
and gives the graph to go on with; where there is no entry, that is the live graph itself.
-/

set_option autoImplicit false

namespace ShaderGraph

/-- A recorded graph and the graphs around it. -/
structure History where
  /-- The graph recorded last, which new ones are compared with. -/
  present : Graph
  /-- Graphs to go back to, the newest first. -/
  past : List Graph
  /-- Graphs to go forward to, the nearest first. -/
  future : List Graph
  /-- How many graphs are kept on each side. -/
  capacity : Nat

namespace History

/-- The usual number of entries kept. -/
def defaultCapacity : Nat := 50

/-- A history of the empty graph that keeps at least one entry. -/
def ofCapacity (capacity : Nat) : History := ⟨.empty, [], [], max capacity 1⟩

/-- The history to start from is empty and has the default capacity. -/
instance : Inhabited History := ⟨ofCapacity defaultCapacity⟩

/-- The history that starts over from a graph. -/
def startOver (h : History) (g : Graph) : History :=
  { h with present := g, past := [], future := [] }

/-- A graph put before others, of which at most `capacity` are kept in all. -/
def keep (capacity : Nat) (g : Graph) (others : List Graph) : List Graph :=
  (g :: others).take capacity

/-- Records a graph, which ends all ways forward; tells whether it was a new one. -/
def record (h : History) (g : Graph) : Bool × History :=
  if g.same h.present then (false, h)
  else (true, { h with present := g, past := keep h.capacity h.present h.past, future := [] })

/-- Steps back from a live graph to the newest entry of the past. -/
def stepBack (h : History) (live : Graph) : Graph × History :=
  match h.past with
  | [] => (live, h)
  | g :: past =>
    (g, { h with present := g, past, future := keep h.capacity live h.future })

/-- Steps forward from a live graph to the nearest entry of the future. -/
def stepForward (h : History) (live : Graph) : Graph × History :=
  match h.future with
  | [] => (live, h)
  | g :: future =>
    (g, { h with present := g, future, past := keep h.capacity live h.past })

/-- Whether there is an entry to go back to. -/
def canStepBack (h : History) : Bool := !h.past.isEmpty

/-- Whether there is an entry to go forward to. -/
def canStepForward (h : History) : Bool := !h.future.isEmpty

end History

end ShaderGraph
