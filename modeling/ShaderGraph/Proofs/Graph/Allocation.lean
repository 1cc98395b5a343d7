import ShaderGraph.Proofs.Document.Acceptance

/-!
# The allocator through the life of a graph

A graph lives through calls, some of which fail, and through being stored as a document and loaded
again. Whatever happens to it, the allocator never moves back and stays past every id of the graph.
An id that is handed out is therefore past all ids that the graph ever held, whether they are still
in use or were removed long ago, and references to removed nodes never come to mean another node.

Both facts need that the allocator does not come to its end. It starts at `2 ^ 63` at most and each
allocation moves it up by one, while ids that callers choose and documents stay in the lower half.
-/

set_option autoImplicit false

namespace ShaderGraph

/-- What can happen to a graph: a call, or that it is stored as a document and loaded from it. -/
inductive LifeStep
  | call (c : GraphCall)
  | reload

namespace LifeStep

/-- The graph after a step; a document that is refused leaves it as it was. -/
def apply (g : Graph) : LifeStep → Graph
  | call c => c.apply g
  | reload =>
    match (GraphDocument.ofGraph g).toGraph with
    | .ok h => h
    | .error _ => g

/-- How many ids a step takes from the allocator. -/
def allocations (g : Graph) : LifeStep → Nat
  | call c => c.allocations g
  | reload => 0

end LifeStep

namespace Graph

/-- The graph after some steps of its life. -/
def after (g : Graph) (steps : List LifeStep) : Graph := steps.foldl LifeStep.apply g

/-- How many ids the steps take from the allocator in all. -/
def allocationsIn (g : Graph) : List LifeStep → Nat
  | [] => 0
  | step :: rest => step.allocations g + (step.apply g).allocationsIn rest

variable {g : Graph} {n : Nat}

/-- The ids taken in two stretches of a life add up. -/
theorem allocationsIn_append (g : Graph) (earlier later : List LifeStep) :
    g.allocationsIn (earlier ++ later) =
      g.allocationsIn earlier + (g.after earlier).allocationsIn later := by
  induction earlier generalizing g with
  | nil => exact (Nat.zero_add _).symm
  | cons step rest ih =>
    show step.allocations g + (step.apply g).allocationsIn (rest ++ later) =
      step.allocations g + (step.apply g).allocationsIn rest + _
    rw [ih, Nat.add_assoc]
    rfl

/-- A graph that its document gives back is the graph itself, apart from the kept order; so its
allocator is where it was, and it is one that documents may hold. -/
theorem WellFormed.reload (hg : g.WellFormed) {h : Graph}
    (hload : (GraphDocument.ofGraph g).toGraph = .ok h) :
    h.WellFormed ∧ h.nextId = g.nextId ∧ h.nextId ≤ 2 ^ 63 := by
  obtain ⟨hwf, hbound⟩ := wellFormed_of_toGraph hload
  have hnext : g.nextId ≤ 2 ^ 63 := (GraphDocument.toGraph_eq_ok_iff_folds.mp hload).2.1
  rw [hg.toGraph_ofGraph hnext] at hload
  obtain rfl := Except.ok.inj hload
  exact ⟨hwf, rfl, hbound⟩

/-- One step keeps a graph well formed and does not move the allocator back; it moves it past
`2 ^ 63` by its allocations at most. -/
theorem WellFormed.lifeStep (hg : g.WellFormed) (hnext : g.nextId ≤ 2 ^ 63 + n) (step : LifeStep)
    (hroom : n + step.allocations g < 2 ^ 63) :
    (step.apply g).WellFormed ∧ g.nextId ≤ (step.apply g).nextId ∧
      (step.apply g).nextId ≤ 2 ^ 63 + (n + step.allocations g) := by
  cases step with
  | call c =>
    have hend : maxNextId = 2 ^ 64 - 1 := rfl
    have htaken : (LifeStep.call c).allocations g = c.allocations g := rfl
    have hmost : (c.apply g).nextId ≤ max g.nextId (2 ^ 63) + c.allocations g :=
      g.nextId_apply_le c
    rw [htaken] at hroom ⊢
    refine ⟨hg.apply c fun _ => by omega, le_nextId_apply c (by omega), ?_⟩
    show (c.apply g).nextId ≤ 2 ^ 63 + (n + c.allocations g)
    omega
  | reload =>
    cases hload : (GraphDocument.ofGraph g).toGraph with
    | error e =>
      simp only [LifeStep.apply, hload]
      exact ⟨hg, Nat.le_refl _, hnext⟩
    | ok h =>
      obtain ⟨hwf, hkept, hbound⟩ := hg.reload hload
      simp only [LifeStep.apply, hload]
      exact ⟨hwf, Nat.le_of_eq hkept.symm, by omega⟩

/-- What every step keeps, a life keeps. -/
theorem WellFormed.after (hg : g.WellFormed) (hnext : g.nextId ≤ 2 ^ 63 + n)
    (steps : List LifeStep) (hroom : n + g.allocationsIn steps < 2 ^ 63) :
    (g.after steps).WellFormed ∧ g.nextId ≤ (g.after steps).nextId ∧
      (g.after steps).nextId ≤ 2 ^ 63 + (n + g.allocationsIn steps) := by
  induction steps generalizing g n with
  | nil => exact ⟨hg, Nat.le_refl _, hnext⟩
  | cons step rest ih =>
    have htotal : g.allocationsIn (step :: rest) =
        step.allocations g + (step.apply g).allocationsIn rest := rfl
    rw [htotal] at hroom ⊢
    obtain ⟨hwf, hstart, hstep⟩ := hg.lifeStep hnext step (by omega)
    obtain ⟨hend, hrest, hmost⟩ := ih hwf hstep (by omega)
    refine ⟨hend, Nat.le_trans hstart hrest, ?_⟩
    rw [← Nat.add_assoc n]
    exact hmost

/-- **Ids are handed out once.** In the life of a graph the allocator never moves back, and an id
that a new node or a copy gets, which is in the graph from then on, is past every id that was in the
graph at any earlier time. -/
theorem allocated_ids_fresh {start : Graph} (hstart : ReachableIn n start)
    (earlier later : List LifeStep)
    (hroom : n + start.allocationsIn (earlier ++ later) < 2 ^ 63) :
    let before := start.after earlier
    let now := before.after later
    before.nextId ≤ now.nextId ∧
    (∀ type position, (∀ old ∈ before.nodeIds, old < (now.add type position).1) ∧
      (now.add type position).1 ∈ (now.add type position).2.nodeIds) ∧
    ∀ source new next, now.duplicate source = some (new, next) →
      (∀ old ∈ before.nodeIds, old < new) ∧ new ∈ next.nodeIds := by
  intro before now
  rw [allocationsIn_append] at hroom
  obtain ⟨hwf, hnext⟩ := hstart.wellFormed (by omega)
  obtain ⟨hbefore, -, hbound⟩ := hwf.after hnext earlier (by omega)
  obtain ⟨-, hle, -⟩ := hbefore.after hbound later (by omega)
  have hpast : ∀ old ∈ before.nodeIds, old < now.nextId := by
    intro old hold
    obtain ⟨node, hnode, rfl⟩ := List.mem_map.mp hold
    exact Nat.lt_of_lt_of_le (hbefore.ids_below node hnode) hle
  refine ⟨hle, fun type position => ⟨hpast, ?_⟩, ?_⟩
  · show now.nextId ∈ (now.nodes ++ [Node.ofType now.nextId type position]).map Node.id
    simp [Node.ofType]
  · intro source new next hdup
    obtain ⟨node, -, -, rfl, rfl⟩ := duplicate_eq_some_iff.mp hdup
    refine ⟨hpast, ?_⟩
    show now.nextId ∈ (now.nodes ++ [now.copyOf node]).map Node.id
    simp [copyOf]

/-- The id of a removed node stays behind the allocator through an explicit id and a reload. -/
theorem allocated_ids_fresh_removed :
    let before := empty.after [.call (.add .value ⟨0, 0⟩), .call (.add .math ⟨0, 0⟩)]
    let now := before.after [.call (.remove [2]), .call (.addWithId .output ⟨0, 0⟩ 7), .reload,
      .call (.remove [7])]
    before.nodeIds = [1, 2] ∧ now.nodeIds = [1] ∧
      ∃ next, now.duplicate 1 = some (8, next) ∧ ∀ old ∈ before.nodeIds, old < 8 := by
  intro before now
  have hlife := allocated_ids_fresh ReachableIn.empty
    [.call (.add .value ⟨0, 0⟩), .call (.add .math ⟨0, 0⟩)]
    [.call (.remove [2]), .call (.addWithId .output ⟨0, 0⟩ 7), .reload, .call (.remove [7])]
    (by decide +kernel)
  obtain ⟨⟨new, next⟩, hdup⟩ := Option.isSome_iff_exists.mp
    (show (now.duplicate 1).isSome = true by decide +kernel)
  have hnew : new = 8 := by
    obtain ⟨node, -, -, rfl, -⟩ := duplicate_eq_some_iff.mp hdup
    show now.nextId = 8
    decide +kernel
  subst hnew
  exact ⟨by decide +kernel, by decide +kernel, next, hdup, (hlife.2.2 1 8 next hdup).1⟩

end Graph

end ShaderGraph
