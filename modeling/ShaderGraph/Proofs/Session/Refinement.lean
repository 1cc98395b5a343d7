import ShaderGraph.Proofs.Session.Current
import ShaderGraph.Proofs.Session.Pending

/-!
# The history of a session

A session and a timeline that take the same calls stay side by side. Compiling and refreshing change
nothing that a timeline has. Of the past a session has the newest entries of the timeline, as many
as the timeline counts; the entries on both sides together are never more than the capacity, so no
way forward is ever lost.
-/

set_option autoImplicit false

namespace ShaderGraph

namespace Session

variable {s s' : Session} {t : Timeline} {capacity : Nat}

/-! ## Compiling keeps the timeline -/

/-- Compiling anew changes nothing of the graph but its kept order, and nothing of the history. -/
theorem rebuild_frame (s : Session) : s.rebuild.2.graph.withoutOrder = s.graph.withoutOrder ∧
    s.rebuild.2.history = s.history := by
  obtain ⟨order, artifact, hrebuilt⟩ := s.rebuild_changes
  rw [hrebuilt]
  exact ⟨rfl, rfl⟩

/-- Refreshing the parameters changes nothing of the graph but its kept order, and nothing of the
history. -/
theorem preview_frame (s : Session) : s.preview.2.graph.withoutOrder = s.graph.withoutOrder ∧
    s.preview.2.history = s.history := by
  obtain ⟨order, artifact, hpreview⟩ := s.preview_changes
  rw [hpreview]
  exact ⟨rfl, rfl⟩

/-! ## The refinement -/

/-- Where there is room, an entry is kept and none is dropped. -/
theorem keep_withoutOrder {g : Graph} {others : List Graph} (hroom : others.length + 1 ≤ capacity) :
    (History.keep capacity g others).map Graph.withoutOrder =
      g.withoutOrder :: others.map Graph.withoutOrder := by
  rw [History.keep, List.take_of_length_le hroom]
  rfl

/-- Whether a session stands where a timeline stands. Of the past it has the graphs that the
timeline allows to go back to; there is room for all that are ahead. -/
structure Refines (capacity : Nat) (s : Session) (t : Timeline) : Prop where
  capacity_eq : s.history.capacity = capacity
  live : s.graph.withoutOrder = t.live
  present : s.history.present.withoutOrder = t.present
  past : s.history.past.map Graph.withoutOrder = t.past.take t.retained
  future : s.history.future.map Graph.withoutOrder = t.future
  retained_le : t.retained ≤ t.past.length
  room : t.retained + t.future.length ≤ capacity

namespace Refines

/-- What changes neither the graph, up to its kept order, nor the history keeps the timeline. -/
theorem frame (h : s.Refines capacity t)
    (hframe : s'.graph.withoutOrder = s.graph.withoutOrder ∧ s'.history = s.history) :
    s'.Refines capacity t := by
  obtain ⟨hgraph, hhistory⟩ := hframe
  constructor
  · rw [hhistory, h.capacity_eq]
  · rw [hgraph, h.live]
  · rw [hhistory, h.present]
  · rw [hhistory, h.past]
  · rw [hhistory, h.future]
  · exact h.retained_le
  · exact h.room

/-- As many graphs of the past are retained as the timeline says. -/
theorem length_past (h : s.Refines capacity t) : s.history.past.length = t.retained := by
  have hlength := congrArg List.length h.past
  rw [List.length_map, List.length_take] at hlength
  have hle := h.retained_le
  omega

/-- Session and timeline agree on whether there is something to record. -/
theorem same_eq (h : s.Refines capacity t) :
    t.live.same t.present = s.graph.same s.history.present := by
  rw [← h.live, ← h.present]
  rfl

/-- Recording the live graph. -/
theorem recordLive (h : s.Refines capacity t) :
    s.recordLive.Refines capacity (t.commit capacity) := by
  by_cases hlive : s.graph.same s.history.present = true
  · have hkept : s.recordLive = s := by
      rw [Session.recordLive, History.record, if_pos hlive]
    rw [hkept, Timeline.commit_of_same (h.same_eq.trans hlive)]
    exact h
  · have hrecord : s.recordLive = { s with history := { s.history with
        present := s.graph
        past := History.keep s.history.capacity s.history.present s.history.past
        future := [] } } := by
      rw [Session.recordLive, History.record, if_neg hlive]
    have hle := h.retained_le
    rw [hrecord, Timeline.commit_of_new (h.same_eq.trans (Bool.eq_false_of_not_eq_true hlive))]
    constructor
    · exact h.capacity_eq
    · exact h.live
    · exact h.live
    · calc (History.keep s.history.capacity s.history.present s.history.past).map
              Graph.withoutOrder
          = (t.present :: t.past.take t.retained).take capacity := by
            rw [History.keep, List.map_take, List.map_cons, h.present, h.past, h.capacity_eq]
        _ = ((t.present :: t.past).take (t.retained + 1)).take capacity := by
            rw [List.take_succ_cons]
        _ = (t.present :: t.past).take (min capacity (t.retained + 1)) := List.take_take
    · rfl
    · simp only [List.length_cons]
      omega
    · simp only [List.length_nil]
      omega

/-- Going back: both record first, and both move if a graph of the past is retained then. -/
theorem undo (h : s.Refines capacity t) : s.undo.2.Refines capacity (t.undo capacity) ∧
    (s.undo.1 = true ↔ 0 < (t.commit capacity).retained) := by
  have hr := h.recordLive
  have hlength := hr.length_past
  have hpast := hr.past
  have hroom := hr.room
  have hle := hr.retained_le
  cases hentries : s.recordLive.history.past with
  | nil =>
    rw [hentries, List.length_nil] at hlength
    have hstay : s.undo = (false, s.recordLive) := by
      simp [Session.undo, History.canStepBack, hentries]
    rw [hstay, Timeline.undo_of_none hlength.symm, ← hlength]
    exact ⟨hr, by simp⟩
  | cons g rest =>
    have hback : s.undo = (true, ({ s.recordLive with
        graph := g
        history := { s.recordLive.history with
          present := g
          past := rest
          future := History.keep s.recordLive.history.capacity s.recordLive.graph
            s.recordLive.history.future }
        dirty := true } : Session).rebuild.2) := by
      simp [Session.undo, History.canStepBack, History.stepBack, hentries]
    rw [hentries, List.length_cons] at hlength
    obtain ⟨first, before, hbefore⟩ := List.exists_cons_of_length_pos
      (show 0 < (t.commit capacity).past.length by omega)
    rw [hentries, ← hlength, hbefore, List.map_cons, List.take_succ_cons, List.cons.injEq] at hpast
    rw [hbefore, List.length_cons] at hle
    -- the graph left behind is ahead now, and nothing ahead is lost
    have hfuture : (History.keep s.recordLive.history.capacity s.recordLive.graph
          s.recordLive.history.future).map Graph.withoutOrder =
        (t.commit capacity).live :: (t.commit capacity).future := by
      rw [hr.capacity_eq, keep_withoutOrder, hr.live, hr.future]
      rw [← hr.future, List.length_map] at hroom
      omega
    rw [hback, Timeline.undo_of_some hbefore hlength.symm]
    constructor
    · refine Refines.frame ?_ (rebuild_frame _)
      constructor
      · exact hr.capacity_eq
      · exact hpast.1
      · exact hpast.1
      · exact hpast.2
      · exact hfuture
      · show rest.length ≤ before.length
        omega
      · show rest.length + ((t.commit capacity).future.length + 1) ≤ capacity
        omega
    · rw [← hlength]
      simp

/-- Going forward: both record first, and both move if a graph is ahead then. -/
theorem redo (h : s.Refines capacity t) : s.redo.2.Refines capacity (t.redo capacity) ∧
    (s.redo.1 = true ↔ (t.commit capacity).future ≠ []) := by
  have hr := h.recordLive
  have hfuture := hr.future
  have hroom := hr.room
  have hle := hr.retained_le
  cases hentries : s.recordLive.history.future with
  | nil =>
    rw [hentries, List.map_nil] at hfuture
    have hstay : s.redo = (false, s.recordLive) := by
      simp [Session.redo, History.canStepForward, hentries]
    rw [hstay, Timeline.redo_of_nil hfuture.symm, ← hfuture]
    exact ⟨hr, by simp⟩
  | cons g rest =>
    have hforward : s.redo = (true, ({ s.recordLive with
        graph := g
        history := { s.recordLive.history with
          present := g
          past := History.keep s.recordLive.history.capacity s.recordLive.graph
            s.recordLive.history.past
          future := rest }
        dirty := true } : Session).rebuild.2) := by
      simp [Session.redo, History.canStepForward, History.stepForward, hentries]
    rw [hentries, List.map_cons] at hfuture
    rw [← hfuture, List.length_cons, List.length_map] at hroom
    -- what is ahead leaves room for one graph more in the past
    have hpast : (History.keep s.recordLive.history.capacity s.recordLive.graph
          s.recordLive.history.past).map Graph.withoutOrder =
        ((t.commit capacity).live :: (t.commit capacity).past).take
          ((t.commit capacity).retained + 1) := by
      rw [hr.capacity_eq, keep_withoutOrder, hr.live, hr.past, List.take_succ_cons]
      rw [hr.length_past]
      omega
    rw [hforward, Timeline.redo_of_cons hfuture.symm]
    constructor
    · refine Refines.frame ?_ (rebuild_frame _)
      constructor
      · exact hr.capacity_eq
      · rfl
      · rfl
      · exact hpast
      · rfl
      · show (t.commit capacity).retained + 1 ≤ (t.commit capacity).past.length + 1
        omega
      · show (t.commit capacity).retained + 1 + (rest.map Graph.withoutOrder).length ≤ capacity
        rw [List.length_map]
        omega
    · rw [← hfuture]
      simp

/-- Commands: an edit that does not reach the statements waits to be recorded. -/
theorem execute (h : s.Refines capacity t) (command : EditCommand) :
    (s.execute command).2.Refines capacity (t.execute capacity command) := by
  have hcommand := command.execute_withoutOrder s.graph
  rw [h.live] at hcommand
  unfold Timeline.execute
  rw [Session.execute_eq, hcommand]
  cases hexec : command.execute s.graph with
  | error e => exact h
  | ok result =>
    obtain ⟨outcome, g⟩ := result
    have hedited : ∀ dirty, ({ s with graph := g, dirty } : Session).Refines capacity
        { t with live := g.withoutOrder } := by
      intro dirty
      exact ⟨h.capacity_eq, rfl, h.present, h.past, h.future, h.retained_le, h.room⟩
    simp only [Except.map]
    cases hchanged : outcome.changed with
    | false => exact hedited s.dirty
    | true =>
      cases hstructural : outcome.structural with
      | true => exact (hedited true).recordLive.frame (rebuild_frame _)
      | false => exact (hedited true).frame (preview_frame _)

/-- Another document starts over. -/
theorem replaceDocument (hcapacity : s.history.capacity = capacity) {g : Graph}
    (horder : g.order = none) : (s.replaceDocument g).Refines capacity (.start g) := by
  have hg : g.withoutOrder = g := by
    rw [Graph.withoutOrder, ← horder]
  refine Refines.frame ?_ (rebuild_frame _)
  exact ⟨hcapacity, hg, hg, rfl, rfl, Nat.le_refl 0, Nat.zero_le capacity⟩

/-- A new document starts the timeline over. -/
theorem newDocument (hcapacity : s.history.capacity = capacity) :
    s.newDocument.Refines capacity (.start newGraph) := by
  have hnew : (s.replaceDocument newGraph).Refines capacity (.start newGraph) :=
    replaceDocument hcapacity rfl
  exact hnew.frame ⟨rfl, rfl⟩

/-- Loading starts over if the bytes hold a graph. -/
theorem load (h : s.Refines capacity t) (bytes : ByteArray) :
    (s.load bytes).2.Refines capacity (t.load bytes) := by
  unfold Session.load Timeline.load
  cases hbytes : Graph.ofBytes bytes with
  | error e => exact h
  | ok g =>
    obtain ⟨text, htext⟩ := Graph.exists_text_of_bytes hbytes
    obtain ⟨d, hd⟩ := Graph.toGraph_of_parse htext
    exact replaceDocument h.capacity_eq (Graph.order_of_toGraph hd)

/-- **Every call takes a session where the timeline goes.** -/
theorem apply (h : s.Refines capacity t) (c : SessionCall) :
    (c.apply s).Refines capacity (t.apply capacity c) := by
  cases c with
  | execute command => exact h.execute command
  | compile mode =>
    cases mode with
    | preview => exact h.frame (preview_frame s)
    | commit => exact h.recordLive.frame (rebuild_frame _)
  | undo => exact h.undo.1
  | redo => exact h.redo.1
  | load bytes => exact h.load bytes
  | openFile path content =>
    cases content with
    | error e => exact h
    | ok bytes =>
      have hload := h.load bytes
      rcases hresult : s.load bytes with ⟨result, loaded⟩
      rw [hresult] at hload
      have hopened : (s.opened path (.ok bytes)).2.graph = loaded.graph ∧
          (s.opened path (.ok bytes)).2.history = loaded.history := by
        simp only [Session.opened, hresult]
        cases result <;> exact ⟨rfl, rfl⟩
      exact hload.frame ⟨congrArg Graph.withoutOrder hopened.1, hopened.2⟩
  | saveTo path written =>
    cases written with
    | error e => exact h
    | ok => exact h.frame ⟨rfl, rfl⟩
  | setBackend backend =>
    have hframe : (s.setBackend backend).graph.withoutOrder = s.graph.withoutOrder ∧
        (s.setBackend backend).history = s.history := by
      unfold Session.setBackend
      simp only
      split_ifs
      · exact ⟨rfl, rfl⟩
      · exact rebuild_frame { s with backend }
      · exact ⟨rfl, rfl⟩
    exact h.frame hframe
  | newDocument => exact newDocument h.capacity_eq

end Refines

/-- **Every run takes a session where the timeline goes.** -/
theorem refines_ofCalls (config : Config) (calls : List SessionCall) :
    (ofCalls config calls).Refines (max config.historyCapacity 1)
      (Timeline.ofCalls config calls) := by
  have hrun : ∀ (calls : List SessionCall) (s : Session) (t : Timeline),
      s.Refines (max config.historyCapacity 1) t →
        (calls.foldl SessionCall.apply s).Refines (max config.historyCapacity 1)
          (calls.foldl (Timeline.apply (max config.historyCapacity 1)) t) := by
    intro calls
    induction calls with
    | nil => exact fun _ _ h => h
    | cons c rest ih => exact fun s t h => ih _ _ (h.apply c)
  exact hrun calls _ _ (Refines.newDocument rfl)

/-! ## What is not recorded -/

/-- How many ids a run takes from the allocators of the live graphs. -/
def allocationsOf (s : Session) : List SessionCall → Nat
  | [] => 0
  | c :: rest => c.allocations s + allocationsOf (c.apply s) rest

/-- The live graph of a timeline is that of the session that refines it. -/
theorem Refines.live_wellFormed {n : Nat} (h : s.Refines capacity t) (hs : s.Sound n)
    (hn : n < 2 ^ 63) : t.live.WellFormed := by
  rw [← h.live]
  exact (hs.graph.reachable hn).consistent.toWellFormed.perm (.refl _) rfl rfl

/-- A call keeps the structure of the live graph that of the present one. -/
theorem Refines.apply_sameStructure {n : Nat} (h : s.Refines capacity t) (hs : s.Sound n)
    (c : SessionCall) (hroom : n + c.allocations s < 2 ^ 63)
    (hpending : t.present.SameStructure t.live) :
    (t.apply capacity c).present.SameStructure (t.apply capacity c).live := by
  have hnext : (c.apply s).Sound (n + c.allocations s) := hs.apply c hroom (Nat.le_refl _)
  have hlive := h.live_wellFormed hs (by omega)
  have hlast := (h.apply c).live_wellFormed hnext hroom
  exact Timeline.apply_sameStructure hlive hpending c hlast.ids_distinct

/-- A run keeps the structure of the live graph that of the present one. -/
theorem Refines.run_sameStructure {n : Nat} (calls : List SessionCall)
    (h : s.Refines capacity t) (hs : s.Sound n) (hroom : n + s.allocationsOf calls < 2 ^ 63)
    (hpending : t.present.SameStructure t.live) :
    (calls.foldl (Timeline.apply capacity) t).present.SameStructure
      (calls.foldl (Timeline.apply capacity) t).live := by
  induction calls generalizing s t n with
  | nil => exact hpending
  | cons c rest ih =>
    rw [allocationsOf] at hroom
    have hnext : (c.apply s).Sound (n + c.allocations s) := hs.apply c (by omega) (Nat.le_refl _)
    exact ih (h.apply c) hnext (by omega) (h.apply_sameStructure hs c (by omega) hpending)

/-! ## The history of a session -/

/-- **The history of a session refines an unbounded one.** After every run of calls the present
graph, the graphs ahead and the live graph are those of the timeline, up to the dependency order
that a graph keeps. The graphs to go back to are the newest of the timeline's past; recording a
graph adds one, as far as the capacity goes. Undo and redo report that they moved exactly if there
is an entry to move to, once the live graph is recorded. The live graph differs from the present one
at most in values that are no options, in the places of its nodes and in their display order. -/
theorem history_refines (config : Config) (calls : List SessionCall) :
    let s := ofCalls config calls
    let t := Timeline.ofCalls config calls
    s.graph.withoutOrder = t.live ∧ s.history.present.withoutOrder = t.present ∧
    s.history.future.map Graph.withoutOrder = t.future ∧
    s.history.past.map Graph.withoutOrder <+: t.past ∧ s.history.past.length = t.retained ∧
    (s.graph.same s.history.present = false → s.recordLive.history.past.length =
      min (max config.historyCapacity 1) (s.history.past.length + 1)) ∧
    (s.undo.1 = true ↔ s.graph.same s.history.present = false ∨ s.history.past ≠ []) ∧
    (s.redo.1 = true ↔ s.graph.same s.history.present = true ∧ s.history.future ≠ []) ∧
    (1 + (ofConfig config).allocationsOf calls < 2 ^ 63 →
      s.history.present.SameStructure s.graph) := by
  intro s t
  have h : s.Refines (max config.historyCapacity 1) t := refines_ofCalls config calls
  have hlength := h.length_past
  have hrecorded := h.recordLive.length_past
  refine ⟨h.live, h.present, h.future, ?_, hlength, ?_, ?_, ?_, ?_⟩
  · rw [h.past]
    exact List.take_prefix _ _
  · intro hnew
    rw [hrecorded, Timeline.commit_of_new (h.same_eq.trans hnew), hlength]
  · rw [h.undo.2, ne_eq, ← List.length_eq_zero_iff, hlength]
    cases hsame : s.graph.same s.history.present with
    | true =>
      rw [Timeline.commit_of_same (h.same_eq.trans hsame)]
      simp [Nat.pos_iff_ne_zero]
    | false =>
      rw [Timeline.commit_of_new (h.same_eq.trans hsame)]
      simp
  · rw [h.redo.2]
    cases hsame : s.graph.same s.history.present with
    | true =>
      rw [Timeline.commit_of_same (h.same_eq.trans hsame), ← h.future]
      simp
    | false =>
      rw [Timeline.commit_of_new (h.same_eq.trans hsame)]
      simp
  · intro hroom
    have hnew : (ofConfig config).Refines (max config.historyCapacity 1) (.start newGraph) :=
      .newDocument rfl
    have hsound : (ofConfig config).Sound 1 := .newDocument (by decide) (Nat.le_refl 1) _
    have hpending : t.present.SameStructure t.live :=
      hnew.run_sameStructure calls hsound hroom (.refl _)
    rw [← h.present, ← h.live] at hpending
    exact ⟨⟨hpending.connections, hpending.nodes⟩, hpending.nextId_eq⟩

/-- A node is added and then a value edited: undo takes back first the one and then the other, and
both are ahead then. -/
theorem history_refines_undone :
    let calls : List SessionCall := [.execute (.add .math ⟨0, 0⟩),
      .execute (.setValue ⟨1, 1⟩ (.float 0.5)), .undo, .undo]
    let s := ofCalls .default calls
    let t := Timeline.ofCalls .default calls
    1 + (ofConfig .default).allocationsOf calls < 2 ^ 63 ∧ s.history.past = [] ∧
      s.history.future.map Graph.withoutOrder = t.future ∧ t.future.length = 2 ∧
      s.undo.1 = false ∧ s.redo.1 = true ∧ s.history.present.SameStructure s.graph := by
  intro calls s t
  have hroom : 1 + (ofConfig .default).allocationsOf calls < 2 ^ 63 := by decide +kernel
  obtain ⟨-, -, hfuture, -, -, -, hundo, hredo, hpending⟩ := history_refines .default calls
  have hpast : s.history.past = [] := List.length_eq_zero_iff.mp (by decide +kernel)
  have hahead : s.history.future.length = 2 := by decide +kernel
  have hsame : s.graph.same s.history.present = true := by decide +kernel
  have hsome : s.history.future ≠ [] := by
    intro hnil
    rw [hnil] at hahead
    exact absurd hahead (by decide)
  refine ⟨hroom, hpast, hfuture, ?_, ?_, hredo.mpr ⟨hsame, hsome⟩, hpending hroom⟩
  · rw [← hfuture, List.length_map, hahead]
  · rw [Bool.eq_false_iff, ne_eq, hundo]
    rintro (hnew | hentry)
    · exact absurd (hsame.symm.trans hnew) (by decide)
    · exact hentry hpast

end Session

end ShaderGraph
