import ShaderGraph.Graph.Edit
import ShaderGraph.History

/-!
# Stepping through a history

A step takes an entry off one side of a history and puts the live graph on the other, which is then
cut to the capacity. Both sides together never hold more entries than that, for recording a graph
ends all ways forward. So a step finds room for the live graph, drops no entry, and is taken back by
a step the other way.

Stepping forward is stepping back in a history whose sides are exchanged, and what holds of the one
is carried over to the other by that.
-/

set_option autoImplicit false

namespace ShaderGraph

/-- What can be asked of a history, with any graphs. -/
inductive HistoryCall
  | startOver (g : Graph)
  | record (g : Graph)
  | stepBack (live : Graph)
  | stepForward (live : Graph)

/-- The history after a call. -/
def HistoryCall.apply (h : History) : HistoryCall → History
  | startOver g => h.startOver g
  | record g => (h.record g).2
  | stepBack live => (h.stepBack live).2
  | stepForward live => (h.stepForward live).2

namespace History

variable {h : History} {g live : Graph} {past future : List Graph}

/-- The history that a list of calls makes of a new one. -/
def ofCalls (capacity : Nat) (calls : List HistoryCall) : History :=
  calls.foldl HistoryCall.apply (ofCapacity capacity)

/-- The history with its sides exchanged. -/
def mirror (h : History) : History := { h with past := h.future, future := h.past }

/-- A step forward is a step back in the mirror. -/
theorem stepForward_eq_mirror (h : History) (live : Graph) :
    h.stepForward live = ((h.mirror.stepBack live).1, (h.mirror.stepBack live).2.mirror) := by
  obtain ⟨present, past, future, capacity⟩ := h
  cases future <;> rfl

/-- Whether both sides together hold no more entries than the capacity. -/
def HasRoom (h : History) : Prop := h.past.length + h.future.length ≤ h.capacity

namespace HasRoom

/-- A history seen from the other end has room if it has. -/
theorem mirror (hroom : h.HasRoom) : h.mirror.HasRoom := by
  unfold HasRoom History.mirror at *
  simp only
  omega

/-- A step back loses no entry ahead. -/
theorem stepBack_eq (hroom : h.HasRoom) (hpast : h.past = g :: past) (live : Graph) :
    h.stepBack live = (g, { h with present := g, past, future := live :: h.future }) := by
  unfold HasRoom at hroom
  rw [hpast, List.length_cons] at hroom
  have hkeep : keep h.capacity live h.future = live :: h.future :=
    List.take_of_length_le (by rw [List.length_cons]; omega)
  simp only [stepBack, hpast, hkeep]

/-- A step forward loses no entry of the past. -/
theorem stepForward_eq (hroom : h.HasRoom) (hfuture : h.future = g :: future) (live : Graph) :
    h.stepForward live = (g, { h with present := g, past := live :: h.past, future }) := by
  rw [stepForward_eq_mirror, hroom.mirror.stepBack_eq hfuture]
  rfl

/-- Stepping back moves one entry across, so there is as much room as before. -/
theorem stepBack (hroom : h.HasRoom) (live : Graph) : (h.stepBack live).2.HasRoom := by
  cases hpast : h.past with
  | nil =>
    have hstay : h.stepBack live = (live, h) := by simp only [History.stepBack, hpast]
    rwa [hstay]
  | cons g past =>
    rw [hroom.stepBack_eq hpast]
    unfold HasRoom at *
    rw [hpast, List.length_cons] at hroom
    simp only [List.length_cons]
    omega

/-- Stepping forward keeps both sides within the capacity. -/
theorem stepForward (hroom : h.HasRoom) (live : Graph) : (h.stepForward live).2.HasRoom := by
  rw [stepForward_eq_mirror]
  exact (hroom.mirror.stepBack live).mirror

/-- A recorded graph takes the whole capacity at most, for nothing is ahead of it. -/
theorem record (hroom : h.HasRoom) (g : Graph) : (h.record g).2.HasRoom := by
  unfold History.record
  split
  · exact hroom
  · unfold HasRoom keep
    rw [List.length_take, List.length_nil, Nat.add_zero]
    exact Nat.min_le_left _ _

/-- **Every call leaves both sides together within the capacity.** -/
theorem apply (hroom : h.HasRoom) (c : HistoryCall) : (c.apply h).HasRoom := by
  cases c with
  | startOver g => exact Nat.zero_le _
  | record g => exact hroom.record g
  | stepBack live => exact hroom.stepBack live
  | stepForward live => exact hroom.stepForward live

/-- A step forward takes back a step back. -/
theorem stepForward_stepBack (hroom : h.HasRoom) (hback : h.canStepBack = true) (live : Graph) :
    (h.stepBack live).2.stepForward (h.stepBack live).1 = (live, { h with present := live }) := by
  cases hpast : h.past with
  | nil => simp [canStepBack, hpast] at hback
  | cons g past =>
    have hnext := hroom.stepBack live
    rw [hroom.stepBack_eq hpast] at hnext ⊢
    rw [hnext.stepForward_eq rfl, ← hpast]

/-- A step back takes back a step forward. -/
theorem stepBack_stepForward (hroom : h.HasRoom) (hforward : h.canStepForward = true)
    (live : Graph) : (h.stepForward live).2.stepBack (h.stepForward live).1 =
      (live, { h with present := live }) := by
  have hmirror := hroom.mirror.stepForward_stepBack hforward live
  rw [stepForward_eq_mirror] at hmirror ⊢
  have hlive := congrArg Prod.fst hmirror
  have hsides := congrArg (fun result => result.2.mirror) hmirror
  exact Prod.ext hlive hsides

end HasRoom

/-- No call changes the capacity. -/
theorem capacity_apply (h : History) (c : HistoryCall) : (c.apply h).capacity = h.capacity := by
  cases c with
  | startOver g => rfl
  | record g =>
    simp only [HistoryCall.apply, record]
    split <;> rfl
  | stepBack live =>
    simp only [HistoryCall.apply, stepBack]
    split <;> rfl
  | stepForward live =>
    simp only [HistoryCall.apply, stepForward]
    split <;> rfl

/-- Every run keeps the capacity and leaves both sides together within it. -/
theorem hasRoom_ofCalls (capacity : Nat) (calls : List HistoryCall) :
    (ofCalls capacity calls).capacity = max capacity 1 ∧ (ofCalls capacity calls).HasRoom := by
  have hrun : ∀ (calls : List HistoryCall) (h : History), h.HasRoom →
      (calls.foldl HistoryCall.apply h).capacity = h.capacity ∧
        (calls.foldl HistoryCall.apply h).HasRoom := by
    intro calls
    induction calls with
    | nil => exact fun _ hroom => ⟨rfl, hroom⟩
    | cons c rest ih =>
      intro h hroom
      obtain ⟨hcapacity, hrest⟩ := ih _ (hroom.apply c)
      exact ⟨hcapacity.trans (h.capacity_apply c), hrest⟩
  exact hrun calls (ofCapacity capacity) (Nat.zero_le _)

/-- **No step drops an entry, and every step can be taken back.** After any calls, with any graphs,
both sides of a history together hold no more entries than the capacity. Where there is an entry to
step to, the live graph comes in front of all entries of the other side; stepping the other way then
gives the live graph back and leaves both sides as they were, entry for entry. -/
theorem steps_reversible (capacity : Nat) (calls : List HistoryCall) (live : Graph) :
    let h := ofCalls capacity calls
    h.capacity = max capacity 1 ∧ h.past.length + h.future.length ≤ h.capacity ∧
    (h.canStepBack = true → (h.stepBack live).2.future = live :: h.future ∧
      (h.stepBack live).2.stepForward (h.stepBack live).1 = (live, { h with present := live })) ∧
    (h.canStepForward = true → (h.stepForward live).2.past = live :: h.past ∧
      (h.stepForward live).2.stepBack (h.stepForward live).1 =
        (live, { h with present := live })) := by
  intro h
  obtain ⟨hcapacity, hroom⟩ : h.capacity = max capacity 1 ∧ h.HasRoom :=
    hasRoom_ofCalls capacity calls
  refine ⟨hcapacity, hroom, fun hback => ⟨?_, hroom.stepForward_stepBack hback live⟩,
    fun hforward => ⟨?_, hroom.stepBack_stepForward hforward live⟩⟩
  · obtain ⟨g, past, hpast⟩ := List.ne_nil_iff_exists_cons.mp (by simpa [canStepBack] using hback)
    rw [hroom.stepBack_eq hpast]
  · obtain ⟨g, future, hfuture⟩ :=
      List.ne_nil_iff_exists_cons.mp (by simpa [canStepForward] using hforward)
    rw [hroom.stepForward_eq hfuture]

/-- A history that is full, with an entry on each side: a step drops neither. -/
theorem steps_reversible_full :
    let one := (Graph.empty.add .math ⟨0, 0⟩).2
    let two := (one.add .value ⟨0, 0⟩).2
    let h := ofCalls 2 [.record one, .record two, .stepBack two]
    h.past.length + h.future.length = h.capacity ∧
    h.canStepBack = true ∧ (h.stepBack two).2.future = two :: h.future ∧
    (h.stepBack two).2.stepForward (h.stepBack two).1 = (two, { h with present := two }) ∧
    h.canStepForward = true ∧ (h.stepForward two).2.past = two :: h.past ∧
    (h.stepForward two).2.stepBack (h.stepForward two).1 = (two, { h with present := two }) := by
  intro one two h
  have hback : h.canStepBack = true := by decide +kernel
  have hforward : h.canStepForward = true := by decide +kernel
  obtain ⟨-, -, hfirst, hsecond⟩ :=
    steps_reversible 2 [.record one, .record two, .stepBack two] two
  obtain ⟨hahead, hagain⟩ := hfirst hback
  obtain ⟨hbehind, hundone⟩ := hsecond hforward
  exact ⟨by decide +kernel, hback, hahead, hagain, hforward, hbehind, hundone⟩

end History

end ShaderGraph
