import ShaderGraph.Binary32

/-!
# Sampling an interval

Lookup tables are filled from evenly spaced arguments, both ends included; a table with a single
entry samples the lower end.
-/

set_option autoImplicit false

namespace ShaderGraph

/-- `size` evenly spaced numbers from `low` to `high`. -/
def sampleInterval (size : Nat) (low high : Binary32) : List Binary32 :=
  let last := Binary32.ofNat (max (size - 1) 1)
  (List.range size).map fun i => low + (high - low) * (Binary32.ofNat i / last)

/-- Neighbouring entries of a list, as pairs. -/
def neighbours {α : Type} (entries : List α) : List (α × α) :=
  entries.zip (entries.drop 1)

end ShaderGraph
