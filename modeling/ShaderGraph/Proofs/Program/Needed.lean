import Mathlib.Data.List.Perm.Subperm
import Mathlib.Logic.Relation
import ShaderGraph.Program.Expr

/-!
# Helpers that are needed

A search for needed helpers keeps those found and, among them, those whose calls were not looked at
yet. A step takes one of these and puts what it calls to both, where it is new. So a function is
pending once at most, and as many steps as there are functions are enough; what is found in the end
is what was called and whatever that leads to, however deep helpers call each other.
-/

set_option autoImplicit false

namespace ShaderGraph.Builtin

open Relation (ReflTransGen)

/-- Whether a function calls another one. -/
def Calls (f g : Builtin) : Prop := g ∈ f.dependencies

variable {f g : Builtin} {called : List Builtin} {state : List Builtin × List Builtin}

/-- Every function is in the list of all. -/
theorem mem_all (f : Builtin) : f ∈ all := by
  cases f <;> decide

/-- No function is listed twice. -/
theorem all_nodup : all.Nodup := by decide

/-! ## One step -/

/-- What holds between two steps of a search that began with some functions, of those needed and
those pending. -/
structure Searching (start : List Builtin) (state : List Builtin × List Builtin) : Prop where
  /-- What the search began with is needed. -/
  started : ∀ f ∈ start, f ∈ state.1
  /-- What is pending is needed. -/
  pending : ∀ f ∈ state.2, f ∈ state.1
  /-- What a needed function calls is needed, unless the function is still pending. -/
  looked : ∀ f ∈ state.1, f ∈ state.2 ∨ ∀ g, Calls f g → g ∈ state.1
  /-- Only what is led to is needed. -/
  led : ∀ f ∈ state.1, ∃ h ∈ start, ReflTransGen Calls h f
  /-- Nothing is found twice. -/
  distinct : state.1.Nodup

/-- A function that is required is needed. -/
theorem mem_require : g ∈ (require state f).1 ↔ g = f ∨ g ∈ state.1 := by
  unfold require
  dsimp only
  split_ifs with hf
  · constructor
    · exact .inr
    · rintro (rfl | hg)
      · simpa using hf
      · exact hg
  · exact List.mem_cons

/-- A function that is required is pending if it is new. -/
theorem mem_require_pending :
    g ∈ (require state f).2 ↔ g ∈ state.2 ∨ (g = f ∧ f ∉ state.1) := by
  unfold require
  dsimp only
  split_ifs with hf
  · have hmem : f ∈ state.1 := by simpa using hf
    simp [hmem]
  · have hnew : f ∉ state.1 := by simpa using hf
    simp [hnew, or_comm]

/-- A function that is required is found once. -/
theorem nodup_require (hd : state.1.Nodup) : (require state f).1.Nodup := by
  unfold require
  dsimp only
  split_ifs with hf
  · exact hd
  · exact List.nodup_cons.mpr ⟨by simpa using hf, hd⟩

/-- As many functions become pending as become needed. -/
theorem require_balance (state : List Builtin × List Builtin) (f : Builtin) :
    (require state f).2.length + state.1.length = state.2.length + (require state f).1.length := by
  unfold require
  dsimp only
  split_ifs
  · rfl
  · simp only [List.length_cons]
    omega

variable {fs : List Builtin}

/-- Functions that are required are needed. -/
theorem mem_foldl_require : g ∈ (fs.foldl require state).1 ↔ g ∈ fs ∨ g ∈ state.1 := by
  induction fs generalizing state with
  | nil => simp
  | cons f rest ih =>
    rw [List.foldl_cons, ih, mem_require, List.mem_cons]
    tauto

/-- Whatever becomes needed becomes pending. -/
theorem pending_foldl_require (fs : List Builtin) (state : List Builtin × List Builtin) :
    (∀ g ∈ state.2, g ∈ (fs.foldl require state).2) ∧
      ∀ g ∈ (fs.foldl require state).1, g ∈ state.1 ∨ g ∈ (fs.foldl require state).2 := by
  induction fs generalizing state with
  | nil => exact ⟨fun _ h => h, fun _ h => .inl h⟩
  | cons f rest ih =>
    obtain ⟨hkept, hnew⟩ := ih (require state f)
    refine ⟨fun g hg => hkept g (mem_require_pending.mpr (.inl hg)), fun g hg => ?_⟩
    rcases hnew g hg with hg | hg
    · by_cases hstate : g ∈ state.1
      · exact .inl hstate
      · have hgf : g = f := (mem_require.mp hg).resolve_right hstate
        exact .inr (hkept g (mem_require_pending.mpr (.inr ⟨hgf, hgf ▸ hstate⟩)))
    · exact .inr hg

/-- Nothing is pending but what was, and what is required. -/
theorem mem_of_pending_foldl (hg : g ∈ (fs.foldl require state).2) : g ∈ state.2 ∨ g ∈ fs := by
  induction fs generalizing state with
  | nil => exact .inl hg
  | cons f rest ih =>
    rcases ih hg with hg | hg
    · rcases mem_require_pending.mp hg with hg | ⟨rfl, -⟩
      · exact .inl hg
      · exact .inr List.mem_cons_self
    · exact .inr (List.mem_cons_of_mem _ hg)

/-- Functions that are required are found once. -/
theorem nodup_foldl_require (hd : state.1.Nodup) : (fs.foldl require state).1.Nodup := by
  induction fs generalizing state with
  | nil => exact hd
  | cons f rest ih => exact ih (nodup_require hd)

/-- As many functions become pending as become needed. -/
theorem foldl_require_balance (fs : List Builtin) (state : List Builtin × List Builtin) :
    (fs.foldl require state).2.length + state.1.length =
      state.2.length + (fs.foldl require state).1.length := by
  induction fs generalizing state with
  | nil => rfl
  | cons f rest ih =>
    have hrest := ih (require state f)
    have hfirst := require_balance state f
    rw [List.foldl_cons]
    omega

namespace Searching

variable {start needed pending : List Builtin}

/-- A search begins with the functions that are called, all of them pending. -/
theorem begin (hd : start.Nodup) : Searching start (start, start.reverse) where
  started _ hf := hf
  pending _ hf := List.mem_reverse.mp hf
  looked _ hf := .inl (List.mem_reverse.mpr hf)
  led f hf := ⟨f, hf, .refl⟩
  distinct := hd

/-- **A step** looks at one function that is pending, and requires what it calls. -/
theorem step (h : Searching start (needed, f :: pending)) :
    Searching start (f.dependencies.foldl require (needed, pending)) where
  started g hg := mem_foldl_require.mpr (.inr (h.started g hg))
  pending g hg := by
    rcases mem_of_pending_foldl hg with hg | hg
    · exact mem_foldl_require.mpr (.inr (h.pending g (List.mem_cons_of_mem _ hg)))
    · exact mem_foldl_require.mpr (.inl hg)
  looked g hg := by
    obtain ⟨hkept, hnew⟩ := pending_foldl_require f.dependencies (needed, pending)
    rcases hnew g hg with hneeded | hpending
    · rcases h.looked g hneeded with hpending | hcalls
      · rcases List.mem_cons.mp hpending with rfl | hpending
        · -- the function that was looked at
          exact .inr fun k hk => mem_foldl_require.mpr (.inl hk)
        · exact .inl (hkept g hpending)
      · exact .inr fun k hk => mem_foldl_require.mpr (.inr (hcalls k hk))
    · exact .inl hpending
  led g hg := by
    rcases mem_foldl_require.mp hg with hg | hg
    · obtain ⟨k, hk, hled⟩ := h.led f (h.pending f List.mem_cons_self)
      exact ⟨k, hk, hled.tail hg⟩
    · exact h.led g hg
  distinct := nodup_foldl_require h.distinct

/-- No more functions are needed than there are. -/
theorem length_le (h : Searching start state) : state.1.length ≤ all.length :=
  (h.distinct.subperm fun f _ => mem_all f).length_le

/-- With nothing pending, what is found is what the search began with and all that leads to. -/
theorem mem_iff_of_done (h : Searching start (needed, [])) :
    f ∈ needed ↔ ∃ k ∈ start, ReflTransGen Calls k f := by
  refine ⟨h.led f, ?_⟩
  rintro ⟨k, hk, hled⟩
  induction hled with
  | refl => exact h.started k hk
  | tail _ hcalls ih => exact (h.looked _ ih).resolve_left List.not_mem_nil _ hcalls

/-- **A run** with a step for everything that is pending or still to be found ends with nothing
pending. -/
theorem mem_expand_iff {steps : Nat} (h : Searching start state)
    (hsteps : state.2.length + all.length ≤ steps + state.1.length) :
    f ∈ expand steps state ↔ ∃ k ∈ start, ReflTransGen Calls k f := by
  induction steps generalizing state with
  | zero =>
    have hle := h.length_le
    obtain ⟨needed, pending⟩ := state
    dsimp only at hsteps hle
    obtain rfl : pending = [] := List.eq_nil_of_length_eq_zero (by omega)
    exact h.mem_iff_of_done
  | succ steps ih =>
    obtain ⟨needed, _ | ⟨first, pending⟩⟩ := state
    · exact h.mem_iff_of_done
    · have hbalance := foldl_require_balance first.dependencies (needed, pending)
      dsimp only at hsteps hbalance
      rw [List.length_cons] at hsteps
      exact ih h.step (by omega)

end Searching

/-! ## The helpers -/

/-- **The helpers found** are those called and all that they lead to. -/
theorem mem_closure :
    f ∈ closure called ↔ ∃ h ∈ called, h.isHelper = true ∧ ReflTransGen Calls h f := by
  have hd : (all.filter fun f => f.isHelper && called.contains f).Nodup := all_nodup.filter _
  unfold closure
  rw [List.mem_filter, List.contains_iff_mem, and_iff_right (mem_all f),
    (Searching.begin hd).mem_expand_iff
      (Nat.le_of_eq (by rw [List.length_reverse, Nat.add_comm]))]
  simp only [List.mem_filter, mem_all, true_and, Bool.and_eq_true, List.contains_iff_mem]
  constructor
  · rintro ⟨h, ⟨hhelper, hcalled⟩, hled⟩
    exact ⟨h, hcalled, hhelper, hled⟩
  · rintro ⟨h, hcalled, hhelper, hled⟩
    exact ⟨h, ⟨hhelper, hcalled⟩, hled⟩

/-- What a needed helper calls is needed. -/
theorem closure_dependencies (hf : f ∈ closure called) (hg : g ∈ f.dependencies) :
    g ∈ closure called := by
  obtain ⟨h, hcalled, hhelper, hled⟩ := mem_closure.mp hf
  exact mem_closure.mpr ⟨h, hcalled, hhelper, hled.tail hg⟩

/-- What a function calls calls no other. -/
theorem dependencies_nil (f : Builtin) : ∀ g ∈ f.dependencies, g.dependencies = [] := by
  cases f <;> decide

/-- **One look at each helper called is enough**, for what a helper calls calls no other. -/
theorem closure_eq (called : List Builtin) : closure called =
    all.filter fun f => (called.filter isHelper).contains f ||
      (called.filter isHelper).any fun h => h.dependencies.contains f := by
  have hself : closure called = all.filter (closure called).contains := by
    unfold closure
    dsimp only
    refine List.filter_congr fun f hf => ?_
    simp [mem_all f]
  rw [hself]
  refine List.filter_congr fun f _ => ?_
  rw [Bool.eq_iff_iff, List.contains_iff_mem, mem_closure]
  simp only [Bool.or_eq_true, List.any_eq_true, List.contains_iff_mem, List.mem_filter]
  constructor
  · rintro ⟨h, hcalled, hhelper, hled⟩
    rcases hled.cases_head with rfl | ⟨k, hk, hled⟩
    · exact .inl ⟨hcalled, hhelper⟩
    · rcases hled.cases_head with rfl | ⟨l, hl, -⟩
      · exact .inr ⟨h, ⟨hcalled, hhelper⟩, hk⟩
      · rw [Calls, dependencies_nil h k hk] at hl
        exact absurd hl List.not_mem_nil
  · rintro (⟨hcalled, hhelper⟩ | ⟨h, ⟨hcalled, hhelper⟩, hk⟩)
    · exact ⟨f, hcalled, hhelper, .refl⟩
    · exact ⟨h, hcalled, hhelper, .single hk⟩

end ShaderGraph.Builtin
