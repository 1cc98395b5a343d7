import ShaderGraph.Proofs.Dialect.Refusals
import ShaderGraph.Proofs.Lowering.WellTyped

/-!
# Generated programs can be written

A program can be written where its texture arguments are in order and all its parameters are there.
In a program that is well typed all parameters are in the table, and every argument that must be a
texture is one.
-/

set_option autoImplicit false

namespace ShaderGraph

namespace Graph

variable {g : Graph} {output : NodeId}

/-- Every part of the program of a well-formed graph fits where it stands. -/
theorem WellFormed.parts_fit (hg : g.WellFormed) (ho : g.outputNode? = some output) :
    ∀ part ∈ (g.programFor output).parts, ∃ earlier ⊆ (g.programFor output).statements,
      part.Fits (g.programFor output).parameters earlier := by
  intro part hpart
  obtain ⟨expr, hexpr, hpart⟩ := List.mem_flatMap.mp hpart
  obtain ⟨earlier, hearlier, type, htype⟩ : ∃ earlier ⊆ (g.programFor output).statements, ∃ type,
      HasType (g.programFor output).parameters earlier expr type := by
    obtain ⟨hcolor, halpha⟩ := hg.result_hasType ho
    rcases List.mem_append.mp hexpr with hexpr | hexpr
    · obtain ⟨s, hs, rfl⟩ := List.mem_map.mp hexpr
      obtain ⟨before, after, hsplit⟩ := List.append_of_mem hs
      refine ⟨before, ?_, _, hg.hasType_of_tableOf (hg.statement_hasType hsplit)⟩
      rw [hsplit]
      exact List.subset_append_left _ _
    · rcases List.mem_cons.mp hexpr with rfl | hexpr
      · exact ⟨_, List.Subset.refl _, _, hg.hasType_of_tableOf hcolor⟩
      · obtain rfl := List.mem_singleton.mp hexpr
        exact ⟨_, List.Subset.refl _, _, hg.hasType_of_tableOf halpha⟩
  exact ⟨earlier, hearlier, htype.parts_fit part hpart⟩

/-- All parameters that the program reads are in its table. -/
theorem WellFormed.known (hg : g.WellFormed) (ho : g.outputNode? = some output) :
    (g.programFor output).Known := by
  intro name hname
  obtain ⟨_, -, ⟨_, htype⟩ | ⟨_, p, hparam, hp, -⟩⟩ := hg.parts_fit ho _ hname
  · cases htype with
    | param hp _ => exact ⟨_, hp⟩
  · cases hparam
    exact ⟨p, hp⟩

/-- The functions that take a texture are given one. -/
theorem WellFormed.samplesTextures (hg : g.WellFormed) (ho : g.outputNode? = some output) :
    (g.programFor output).SamplesTextures := by
  intro function args hcall htakes
  obtain ⟨_, -, ⟨_, htype⟩ | ⟨_, _, hparam, -⟩⟩ := hg.parts_fit ho _ hcall
  · cases htype with
    | call htexture _ _ =>
      rw [htakes] at htexture
      exact absurd htexture (by decide)
    | sample hp hsamples _ _ => exact ⟨_, _, _, rfl, hp, Builtin.isTexture_of_samples hsamples⟩
  · cases hparam

/-- **Every backend can write the program of a well-formed graph.** -/
theorem WellFormed.exists_source (hg : g.WellFormed) (ho : g.outputNode? = some output)
    (backend : Backend) : ∃ source, backend.emit (g.programFor output) = .ok source := by
  rw [← refusal?_eq_none_iff, backend.refusal?_emit,
    Program.samplesTextures_iff.mp (hg.samplesTextures ho), Program.known_iff.mp (hg.known ho),
    Option.none_or]

end Graph

end ShaderGraph
