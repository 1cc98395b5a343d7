import Mathlib.Logic.Relation
import ShaderGraph.Graph.Dependency

/-!
# Reachability along connections

A node feeds another if a connection leads from one to the other, and a graph is acyclic if no node
feeds itself through others. The search for reachable nodes has as many steps as it can need: each
step either takes a node off the pending list or trades the connections out of a node that was not
seen before for pending nodes, so pending nodes and unused connections together only become fewer.
Hence the nodes found are exactly the reachable ones.
-/

set_option autoImplicit false

namespace ShaderGraph

open Relation (ReflTransGen TransGen)

/-! ## The search -/

/-- The ends `target` of the connections that start at a node, where `origin` says where a
connection starts. -/
def neighboursOf (connections : List Connection) (origin target : Connection → NodeId)
    (id : NodeId) : List NodeId :=
  (connections.filter fun c => origin c == id).map target

variable (connections : List Connection) (origin target : Connection → NodeId)

/-- The neighbours of a node are the other ends of the connections at it. -/
theorem mem_neighboursOf {a b : NodeId} :
    b ∈ neighboursOf connections origin target a ↔
      ∃ c ∈ connections, origin c = a ∧ target c = b := by
  simp [neighboursOf, and_assoc]

/-- Expanding a node that was not seen uses up exactly the connections that start at it. -/
theorem countP_unseen_cons {seen : List NodeId} {id : NodeId} (hid : seen.contains id = false) :
    connections.countP (fun c => !(id :: seen).contains (origin c)) +
        (neighboursOf connections origin target id).length =
      connections.countP fun c => !seen.contains (origin c) := by
  unfold neighboursOf
  induction connections with
  | nil => simp
  | cons c rest ih =>
    simp only [List.countP_cons, List.filter_cons]
    by_cases hc : origin c = id
    · subst hc
      simp_all
      omega
    · have hne : (origin c == id) = false := by simpa using hc
      simp_all
      omega

/-- With enough steps, a search finds all that is pending or seen and whatever they lead to. -/
theorem reach_closed (fuel : Nat) (pending seen : List NodeId)
    (hfuel : pending.length + connections.countP (fun c => !seen.contains (origin c)) ≤ fuel)
    (hseen : ∀ a ∈ seen, ∀ b ∈ neighboursOf connections origin target a,
      b ∈ seen ∨ b ∈ pending) :
    let found := reach (neighboursOf connections origin target) fuel pending seen
    (∀ a, a ∈ pending ∨ a ∈ seen → a ∈ found) ∧
      ∀ a ∈ found, ∀ b ∈ neighboursOf connections origin target a, b ∈ found := by
  induction fuel generalizing pending seen with
  | zero =>
    obtain rfl : pending = [] := List.eq_nil_of_length_eq_zero (by omega)
    simp only [reach, List.not_mem_nil, or_false, false_or] at hseen ⊢
    exact ⟨fun a ha => ha, hseen⟩
  | succ fuel ih =>
    cases pending with
    | nil =>
      simp only [reach, List.not_mem_nil, or_false, false_or] at hseen ⊢
      exact ⟨fun a ha => ha, hseen⟩
    | cons id pending =>
      rw [List.length_cons] at hfuel
      cases hid : seen.contains id with
      | true =>
        have hmem : id ∈ seen := by simpa using hid
        simp only [reach, hid, if_true]
        have hrest := ih pending seen (by omega) fun a ha b hb => by
          rcases hseen a ha b hb with hb | hb
          · exact Or.inl hb
          · rcases List.mem_cons.mp hb with rfl | hb
            · exact Or.inl hmem
            · exact Or.inr hb
        refine ⟨fun a ha => hrest.1 a ?_, hrest.2⟩
        rcases ha with ha | ha
        · rcases List.mem_cons.mp ha with rfl | ha
          · exact Or.inr hmem
          · exact Or.inl ha
        · exact Or.inr ha
      | false =>
        simp only [reach, hid, Bool.false_eq_true, if_false]
        have hcount := countP_unseen_cons connections origin target hid
        have hrest := ih (neighboursOf connections origin target id ++ pending) (id :: seen)
          (by rw [List.length_append]; omega) fun a ha b hb => by
            rcases List.mem_cons.mp ha with rfl | ha
            · exact Or.inr (List.mem_append_left _ hb)
            · rcases hseen a ha b hb with hb | hb
              · exact Or.inl (List.mem_cons_of_mem _ hb)
              · rcases List.mem_cons.mp hb with rfl | hb
                · exact Or.inl List.mem_cons_self
                · exact Or.inr (List.mem_append_right _ hb)
        refine ⟨fun a ha => hrest.1 a ?_, hrest.2⟩
        rcases ha with ha | ha
        · rcases List.mem_cons.mp ha with rfl | ha
          · exact Or.inr List.mem_cons_self
          · exact Or.inl (List.mem_append_right _ ha)
        · exact Or.inr (List.mem_cons_of_mem _ ha)

/-- A search finds nothing but what was seen and what pending nodes lead to. -/
theorem reach_sound (next : NodeId → List NodeId) (fuel : Nat) (pending seen : List NodeId)
    (found : NodeId) (hfound : found ∈ reach next fuel pending seen) :
    found ∈ seen ∨ ∃ start ∈ pending, ReflTransGen (fun a b => b ∈ next a) start found := by
  induction fuel generalizing pending seen with
  | zero => exact Or.inl hfound
  | succ fuel ih =>
    cases pending with
    | nil => exact Or.inl hfound
    | cons id pending =>
      rw [reach] at hfound
      split at hfound
      · rcases ih pending seen hfound with h | ⟨start, hstart, h⟩
        · exact Or.inl h
        · exact Or.inr ⟨start, List.mem_cons_of_mem _ hstart, h⟩
      · rcases ih _ _ hfound with h | ⟨start, hstart, h⟩
        · rcases List.mem_cons.mp h with rfl | h
          · exact Or.inr ⟨_, List.mem_cons_self, .refl⟩
          · exact Or.inl h
        · rcases List.mem_append.mp hstart with hstart | hstart
          · exact Or.inr ⟨id, List.mem_cons_self, ReflTransGen.head hstart h⟩
          · exact Or.inr ⟨start, List.mem_cons_of_mem _ hstart, h⟩

/-- With a step for every connection and two more, a search from one node finds exactly the nodes
that it leads to. -/
theorem mem_reach_iff {start found : NodeId} :
    found ∈ reach (neighboursOf connections origin target) (connections.length + 2) [start] [] ↔
      ReflTransGen (fun a b => ∃ c ∈ connections, origin c = a ∧ target c = b) start found := by
  have hrel : (fun a b => b ∈ neighboursOf connections origin target a) =
      fun a b => ∃ c ∈ connections, origin c = a ∧ target c = b := by
    funext a b
    exact propext (mem_neighboursOf ..)
  rw [← hrel]
  constructor
  · intro hfound
    rcases reach_sound _ _ _ _ _ hfound with h | ⟨start', hstart, h⟩
    · simp at h
    · rwa [List.mem_singleton.mp hstart] at h
  · intro hpath
    have hcount : connections.countP (fun c => !([] : List NodeId).contains (origin c)) ≤
        connections.length := List.countP_le_length
    obtain ⟨hall, hclosed⟩ :=
      reach_closed connections origin target (connections.length + 2) [start] []
        (by rw [List.length_singleton]; omega) (by simp)
    induction hpath with
    | refl => exact hall start (Or.inl List.mem_cons_self)
    | tail _ hstep ih => exact hclosed _ ih _ hstep

namespace Graph

variable {g h : Graph}

/-! ## Feeding and cycles -/

/-- Whether a connection leads from a slot of one node to a slot of another. -/
def Feeds (g : Graph) (a b : NodeId) : Prop :=
  ∃ c ∈ g.connections, c.source.node = a ∧ c.dest.node = b

/-- No node feeds itself, be it directly or through others. -/
def Acyclic (g : Graph) : Prop := ∀ id, ¬TransGen g.Feeds id id

/-- The search along connections finds the nodes that a node feeds, itself included. -/
theorem mem_reachableFrom_iff {start id : NodeId} :
    id ∈ g.reachableFrom start ↔ ReflTransGen g.Feeds start id :=
  mem_reach_iff _ (fun c => c.source.node) (fun c => c.dest.node)

/-- The search against connections finds the nodes that feed a node, itself included. -/
theorem mem_leadingTo_iff {id target : NodeId} :
    id ∈ g.leadingTo target ↔ ReflTransGen g.Feeds id target := by
  rw [← Relation.reflTransGen_swap]
  refine (mem_reach_iff _ (fun c => c.dest.node) (fun c => c.source.node)).trans ?_
  have hrel : (fun a b : NodeId => ∃ c ∈ g.connections, c.dest.node = a ∧ c.source.node = b) =
      Function.swap g.Feeds := by
    funext a b
    exact propext ⟨fun ⟨c, hc, ha, hb⟩ => ⟨c, hc, hb, ha⟩, fun ⟨c, hc, ha, hb⟩ => ⟨c, hc, hb, ha⟩⟩
  rw [hrel]

/-- A graph without connections has no cycle. -/
theorem acyclic_of_no_connections (hc : g.connections = []) : g.Acyclic := by
  intro id hcycle
  obtain ⟨b, ⟨c, hmem, -⟩, -⟩ := TransGen.head'_iff.mp hcycle
  simp [hc] at hmem

/-- Taking connections away closes no cycle. -/
theorem Acyclic.of_subset (hg : g.Acyclic) (hsub : ∀ c ∈ h.connections, c ∈ g.connections) :
    h.Acyclic := by
  have hle : h.Feeds ≤ g.Feeds := fun _ _ ⟨c, hc, hends⟩ => ⟨c, hsub c hc, hends⟩
  exact fun id hcycle => hg id (TransGen.mono hle _ _ hcycle)

/-- A path that may use one more edge either does without it or reaches its start and leaves from
its end. -/
theorem transGen_insert {α : Type} {r s : α → α → Prop} {a b x y : α}
    (hs : ∀ u v, s u v → r u v ∨ (u = a ∧ v = b)) (hpath : TransGen s x y) :
    TransGen r x y ∨ (ReflTransGen r x a ∧ ReflTransGen r b y) := by
  induction hpath with
  | single hstep =>
    rcases hs _ _ hstep with hr | ⟨rfl, rfl⟩
    · exact Or.inl (.single hr)
    · exact Or.inr ⟨.refl, .refl⟩
  | tail _ hstep ih =>
    rcases hs _ _ hstep with hr | ⟨rfl, rfl⟩
    · rcases ih with h | ⟨hto, hfrom⟩
      · exact Or.inl (h.tail hr)
      · exact Or.inr ⟨hto, hfrom.tail hr⟩
    · rcases ih with h | ⟨hto, -⟩
      · exact Or.inr ⟨h.to_reflTransGen, .refl⟩
      · exact Or.inr ⟨hto, .refl⟩

/-- A connection closes no cycle unless the node at its end already leads to the one at its
start. -/
theorem Acyclic.insert (hg : g.Acyclic) {c : Connection}
    (hsub : ∀ d ∈ h.connections, d = c ∨ d ∈ g.connections)
    (hfree : ¬ReflTransGen g.Feeds c.dest.node c.source.node) : h.Acyclic := by
  intro id hcycle
  have hstep : ∀ u v, h.Feeds u v → g.Feeds u v ∨ (u = c.source.node ∧ v = c.dest.node) := by
    rintro u v ⟨d, hd, rfl, rfl⟩
    rcases hsub d hd with rfl | hd
    · exact Or.inr ⟨rfl, rfl⟩
    · exact Or.inl ⟨d, hd, rfl, rfl⟩
  rcases transGen_insert hstep hcycle with hold | ⟨hto, hfrom⟩
  · exact hg id hold
  · exact hfree (hfrom.trans hto)

end Graph

end ShaderGraph
