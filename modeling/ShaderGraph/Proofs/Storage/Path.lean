import Mathlib.Tactic.Common
import ShaderGraph.Storage.Path

/-!
# Paths that are the same

Paths are the same when they take the same steps, however they are written. What is found out about
a path from its steps holds of every path that is the same.
-/

set_option autoImplicit false

namespace ShaderGraph

namespace Path

variable {p q r : Path}

/-- Paths are the same exactly if their components are equal. -/
theorem same_iff : p.same q = true ↔ p.components = q.components := by
  simp [same]

/-- Paths are compared alike from either side. -/
theorem same_comm (p q : Path) : p.same q = q.same p := by
  rw [Bool.eq_iff_iff, same_iff, same_iff, eq_comm]

/-- Paths that are the same are the same as the same others. -/
theorem same_congr (h : p.same q = true) (r : Path) : p.same r = q.same r := by
  rw [Bool.eq_iff_iff, same_iff, same_iff, same_iff.mp h]

/-- Paths that are the same have the same parent. -/
theorem parent?_congr (h : p.same q = true) : p.parent? = q.parent? := by
  rw [parent?, parent?, same_iff.mp h]

/-! ## Paths without repetition -/

/-- Leaving out paths, the same ones alike, and leaving out repetitions may come in either order. -/
theorem filter_eraseDupsBy_same {kept : Path → Bool}
    (hkept : ∀ a b, a.same b = true → kept a = kept b) (paths : List Path) :
    (paths.eraseDupsBy same).filter kept = (paths.filter kept).eraseDupsBy same := by
  match paths with
  | [] => rfl
  | p :: rest =>
    have ih := filter_eraseDupsBy_same hkept (rest.filter fun other => other.same p = false)
    rw [List.filter_filter] at ih
    rw [List.eraseDupsBy_cons]
    cases hp : kept p with
    | true =>
      rw [List.filter_cons_of_pos hp, List.filter_cons_of_pos hp, List.eraseDupsBy_cons, ih,
        List.filter_filter]
      simp only [Bool.and_comm]
    | false =>
      have hnot : ¬kept p = true := by simp [hp]
      rw [List.filter_cons_of_neg hnot, List.filter_cons_of_neg hnot, ih]
      congr 1
      refine List.filter_congr fun other _ => ?_
      -- what is the same as `p` is left out like `p`
      cases hsame : other.same p with
      | true => simp [hkept other p hsame, hp]
      | false => simp
  termination_by paths.length
  decreasing_by exact Nat.lt_succ_of_le (List.length_filter_le _ _)

/-- The first path is kept, and of the others those that differ from it. -/
theorem eraseDupsBy_same_cons (p : Path) (paths : List Path) :
    (p :: paths).eraseDupsBy same =
      p :: (paths.eraseDupsBy same).filter fun other => !other.same p := by
  have hkept : ∀ a b : Path, a.same b = true → (!a.same p) = !b.same p := fun a b hab => by
    rw [same_congr hab]
  rw [List.eraseDupsBy_cons, filter_eraseDupsBy_same hkept]
  simp

/-- No two of the paths that are kept are the same. -/
theorem pairwise_eraseDupsBy_same (paths : List Path) :
    (paths.eraseDupsBy same).Pairwise fun a b => b.same a = false := by
  induction paths with
  | nil => exact .nil
  | cons p rest ih =>
    rw [eraseDupsBy_same_cons]
    refine List.pairwise_cons.mpr ⟨fun other hother => ?_, ih.filter _⟩
    simpa using (List.mem_filter.mp hother).2

end Path

end ShaderGraph
