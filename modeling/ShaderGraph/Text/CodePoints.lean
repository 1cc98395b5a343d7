/-!
# Sets of code points

A set of code points is held as the ascending list of its boundaries: the first point of a run,
then the first point after it, and so on. A point is in the set when an odd number of boundaries
are at or below it.
-/

set_option autoImplicit false

namespace ShaderGraph.Text

/-- Whether `point` lies in one of the runs whose boundaries are listed in ascending order. -/
def inRuns (boundaries : List Nat) (point : Nat) : Bool :=
  (boundaries.takeWhile (· ≤ point)).length % 2 == 1

end ShaderGraph.Text
