import Mathlib.Data.List.Basic
import ShaderGraph.Dialect

/-!
# Numbers of the resources

Resources are declared one after the other, and a counter goes on by one with each. So the numbers
are the places in the list of all resources, whichever of them a table has.
-/

set_option autoImplicit false

namespace ShaderGraph.Dialect

/-- The resources of a parameter table, in the order they are declared in. -/
def resources (d : Dialect) (table : ParameterTable) : List Resource :=
  let textures := table.entries.filter fun p => p.value.isTexture
  let uniforms := table.entries.filter fun p => !p.value.isTexture
  (if uniforms.isEmpty then [] else [.uniforms uniforms]) ++
    (if textures.isEmpty then [] else d.samplers.map .sampler ++ textures.map .texture)

/-- Declaring some resources numbers them on from the number that is next, and moves that past
them. -/
theorem foldl_bind (d : Dialect) (resources : List Resource) (lines : List String)
    (binding : Nat) : resources.foldl d.bind (lines, binding) =
      (lines ++ (resources.zipIdx binding).flatMap fun (resource, number) =>
        d.declare number resource, binding + resources.length) := by
  induction resources generalizing lines binding with
  | nil => simp
  | cons resource rest ih =>
    rw [List.foldl_cons, bind, ih, List.zipIdx_cons, List.flatMap_cons, List.length_cons,
      List.append_assoc, Nat.add_assoc, Nat.add_comm 1]

/-- **Each resource is declared under its place among all resources.** -/
theorem resourceLines_eq (d : Dialect) (table : ParameterTable) : d.resourceLines table =
    (d.resources table).zipIdx.flatMap fun (resource, binding) => d.declare binding resource := by
  have hfold : d.resourceLines table = ((d.resources table).foldl d.bind ([], 0)).1 := by
    unfold resourceLines resources
    rw [List.foldl_append]
    dsimp only
    split_ifs <;> simp only [List.foldl_append, List.foldl_map, List.foldl_cons, List.foldl_nil]
  rw [hfold, foldl_bind, List.nil_append]

end ShaderGraph.Dialect
