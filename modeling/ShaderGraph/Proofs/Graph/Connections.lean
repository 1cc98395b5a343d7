import Mathlib.Data.List.Nodup
import Mathlib.Tactic.Common
import ShaderGraph.Proofs.Graph.Lookup

/-!
# Ascending connections

Connections are kept in the order of their destinations, each destination at most once. Inserting a
connection keeps that order and takes out exactly the connection into the same slot, so a list of
connections is a finite map from destinations to sources.
-/

set_option autoImplicit false

namespace ShaderGraph

namespace SlotId

variable {a b c : SlotId}

/-- Slots are ordered by their nodes and, within one node, by their indices. -/
theorem before_iff :
    a.before b = true ↔ a.node < b.node ∨ (a.node = b.node ∧ a.index < b.index) := by
  simp [before]

/-- The order of slots is transitive. -/
theorem before_trans (hab : a.before b = true) (hbc : b.before c = true) : a.before c = true := by
  rw [before_iff] at *
  simp only [NodeId] at *
  omega

/-- No slot stands before itself. -/
theorem ne_of_before (hab : a.before b = true) : a ≠ b := by
  rintro rfl
  rw [before_iff] at hab
  simp only [NodeId] at hab
  omega

/-- Of two distinct addresses that are not in order, the second is before the first. -/
theorem before_of_not_before (hne : a ≠ b) (hab : ¬a.before b = true) : b.before a = true := by
  rw [before_iff] at *
  by_contra hba
  have hnode : a.node = b.node := by
    simp only [NodeId] at *
    omega
  have hindex : a.index = b.index := by
    simp only [NodeId] at *
    omega
  exact hne (by cases a; cases b; simp_all)

end SlotId

/-- Connections in the order of their destinations, no two into one slot. -/
def Ascending (connections : List Connection) : Prop :=
  connections.Pairwise fun c d => c.dest.before d.dest = true

namespace Ascending

variable {connections : List Connection} {c d : Connection}

/-- No two ascending connections lead into one slot. -/
theorem nodup_dests (hs : Ascending connections) : (connections.map Connection.dest).Nodup := by
  rw [List.nodup_iff_pairwise_ne, List.pairwise_map]
  exact hs.imp fun h => SlotId.ne_of_before h

/-- After an insertion there are the new connection and the old ones into other slots. -/
theorem mem_insertConnection (hs : Ascending connections) :
    d ∈ insertConnection c connections ↔ d = c ∨ (d ∈ connections ∧ d.dest ≠ c.dest) := by
  induction connections with
  | nil => simp [insertConnection]
  | cons e rest ih =>
    obtain ⟨he, hrest⟩ := List.pairwise_cons.mp hs
    rw [insertConnection]
    split_ifs with heq hlt
    · -- `e` is replaced; nothing after it leads into the same slot
      have hother : ∀ f ∈ rest, f.dest ≠ c.dest := fun f hf hfc =>
        SlotId.ne_of_before (he f hf) (heq.trans hfc.symm)
      simp only [List.mem_cons]
      constructor
      · rintro (rfl | hd)
        · exact Or.inl rfl
        · exact Or.inr ⟨Or.inr hd, hother d hd⟩
      · rintro (rfl | ⟨rfl | hd, hne⟩)
        · exact Or.inl rfl
        · exact absurd heq hne
        · exact Or.inr hd
    · have hother : ∀ f ∈ e :: rest, f.dest ≠ c.dest := by
        intro f hf
        rcases List.mem_cons.mp hf with rfl | hf
        · exact heq
        · exact (SlotId.ne_of_before (SlotId.before_trans hlt (he f hf))).symm
      rw [List.mem_cons]
      exact or_congr_right ⟨fun hd => ⟨hd, hother d hd⟩, fun hd => hd.1⟩
    · rw [List.mem_cons, ih hrest, List.mem_cons]
      constructor
      · rintro (rfl | rfl | ⟨hd, hne⟩)
        · exact Or.inr ⟨Or.inl rfl, heq⟩
        · exact Or.inl rfl
        · exact Or.inr ⟨Or.inr hd, hne⟩
      · rintro (rfl | ⟨rfl | hd, hne⟩)
        · exact Or.inr (Or.inl rfl)
        · exact Or.inl rfl
        · exact Or.inr (Or.inr ⟨hd, hne⟩)

/-- An insertion keeps the order of destinations. -/
theorem insert (hs : Ascending connections) : Ascending (insertConnection c connections) := by
  induction connections with
  | nil => exact List.pairwise_singleton _ _
  | cons e rest ih =>
    obtain ⟨he, hrest⟩ := List.pairwise_cons.mp hs
    rw [insertConnection]
    split_ifs with heq hlt
    · exact List.pairwise_cons.mpr ⟨fun f hf => heq ▸ he f hf, hrest⟩
    · refine List.pairwise_cons.mpr ⟨fun f hf => ?_, hs⟩
      rcases List.mem_cons.mp hf with rfl | hf
      · exact hlt
      · exact SlotId.before_trans hlt (he f hf)
    · refine List.pairwise_cons.mpr ⟨fun f hf => ?_, ih hrest⟩
      rcases (mem_insertConnection hrest).mp hf with rfl | ⟨hf, -⟩
      · exact SlotId.before_of_not_before (Ne.symm heq) hlt
      · exact he f hf

/-- Inserting a connection that is there already changes nothing. -/
theorem insertConnection_of_mem (hs : Ascending connections) (hc : c ∈ connections) :
    insertConnection c connections = connections := by
  induction connections with
  | nil => simp at hc
  | cons e rest ih =>
    obtain ⟨he, hrest⟩ := List.pairwise_cons.mp hs
    rw [insertConnection]
    rcases List.mem_cons.mp hc with rfl | hmem
    · rw [if_pos rfl]
    · have hbefore := he c hmem
      have hnot : ¬c.dest.before e.dest = true := fun hlt =>
        SlotId.ne_of_before (SlotId.before_trans hbefore hlt) rfl
      rw [if_neg (SlotId.ne_of_before hbefore), if_neg hnot, ih hrest hmem]

/-- The order of destinations leaves a set of connections one list only. -/
theorem eq_of_perm {first second : List Connection} (hfirst : Ascending first)
    (hsecond : Ascending second) (hperm : first.Perm second) : first = second := by
  have hasymm : ∀ c d : Connection, c.dest.before d.dest = true → d.dest.before c.dest = true →
      c = d := by
    intro c d hcd hdc
    exact absurd rfl (SlotId.ne_of_before (SlotId.before_trans hcd hdc))
  exact hperm.eq_of_pairwise (fun c d _ _ => hasymm c d) hfirst hsecond

end Ascending

namespace Graph

variable {g : Graph} {c : Connection} {dest : SlotId}

/-- A connection that is found is one of the graph, into the slot that was looked up. -/
theorem mem_of_connection?_eq_some (hc : g.connection? dest = some c) :
    c ∈ g.connections ∧ c.dest = dest :=
  ⟨List.mem_of_find?_eq_some hc, by simpa using List.find?_some hc⟩

/-- With one connection at most into a slot, exactly the connections of a graph are found. -/
theorem connection?_eq_some_iff (hs : Ascending g.connections) :
    g.connection? dest = some c ↔ c ∈ g.connections ∧ c.dest = dest :=
  find?_key_eq_some_iff hs.nodup_dests

/-- Nothing is found exactly if no connection leads into the slot. -/
theorem connection?_eq_none_iff :
    g.connection? dest = none ↔ ∀ c ∈ g.connections, c.dest ≠ dest := by
  simp [connection?]

end Graph

end ShaderGraph
