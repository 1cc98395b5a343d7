import Mathlib.Tactic.Common

/-!
# Answers and refusals

A computation gives an answer or refuses with an error. What a chain of computations refuses with is
what the first of them to refuse gives; a chain gives an answer exactly if each link does.
-/

set_option autoImplicit false

namespace ShaderGraph

section

variable {ε α β : Type} {x : Except ε α} {f : α → Except ε β}

/-! ## Answers -/

/-- Two steps succeed one after the other exactly if each of them does. -/
theorem bind_eq_ok_iff {b : β} : x >>= f = .ok b ↔ ∃ a, x = .ok a ∧ f a = .ok b := by
  cases x with
  | error e =>
    constructor
    · intro h
      cases h
    · rintro ⟨a, h, -⟩
      cases h
  | ok a =>
    constructor
    · intro h
      exact ⟨a, rfl, h⟩
    · rintro ⟨a', h, hf⟩
      obtain rfl : a = a' := Except.ok.inj h
      exact hf

/-- If a function succeeds on every entry of a list, mapping it over the list succeeds. -/
theorem mapM_eq_ok {f' : α → β} {entries : List α} (h : ∀ a ∈ entries, f a = .ok (f' a)) :
    entries.mapM f = .ok (entries.map f') := by
  induction entries with
  | nil => rfl
  | cons a rest ih =>
    rw [List.mapM_cons, h a List.mem_cons_self,
      ih fun b hb => h b (List.mem_cons_of_mem _ hb)]
    rfl

/-- What a function gives on the entries of a list, one by one. -/
theorem mapM_ok_mem {entries : List α} {answers : List β} (h : entries.mapM f = .ok answers) :
    ∀ b ∈ answers, ∃ a ∈ entries, f a = .ok b := by
  induction entries generalizing answers with
  | nil =>
    obtain rfl := Except.ok.inj h
    exact List.forall_mem_nil _
  | cons a rest ih =>
    rw [List.mapM_cons, bind_eq_ok_iff] at h
    obtain ⟨first, hfirst, h⟩ := h
    obtain ⟨others, hothers, h⟩ := bind_eq_ok_iff.mp h
    obtain rfl := Except.ok.inj h
    intro b hb
    rcases List.mem_cons.mp hb with rfl | hb
    · exact ⟨a, List.mem_cons_self, hfirst⟩
    · obtain ⟨a', ha', hb⟩ := ih hothers b hb
      exact ⟨a', List.mem_cons_of_mem _ ha', hb⟩

/-- What every step of a fold keeps, a fold that succeeds keeps. -/
theorem foldlM_ok_induction {f : β → α → Except ε β} {P : β → Prop}
    (hstep : ∀ b a b', P b → f b a = .ok b' → P b') (entries : List α) {b b' : β} (hb : P b)
    (hfold : entries.foldlM f b = .ok b') : P b' := by
  induction entries generalizing b with
  | nil =>
    obtain rfl : b = b' := Except.ok.inj hfold
    exact hb
  | cons a rest ih =>
    rw [List.foldlM_cons, bind_eq_ok_iff] at hfold
    obtain ⟨next, hf, hrest⟩ := hfold
    exact ih (hstep b a next hb hf) hrest

end

/-! ## Refusals -/

/-- Why something was refused, if it was. -/
def refusal? {ε α : Type} : Except ε α → Option ε
  | .error error => some error
  | .ok _ => none

section

variable {ε α β : Type} {answer : Except ε α}

/-- The refusal of an answer is its error. -/
theorem refusal?_eq_some_iff {error : ε} :
    refusal? answer = some error ↔ answer = .error error := by
  cases answer <;> simp [refusal?]

/-- There is no refusal exactly if there is a result. -/
theorem refusal?_eq_none_iff : refusal? answer = none ↔ ∃ a, answer = .ok a := by
  cases answer <;> simp [refusal?]

/-- Two steps refuse as the first of them to refuse does, if the second refuses alike whatever the
first gives. -/
theorem refusal?_bind {f : α → Except ε β} {later : Option ε} (h : ∀ a, refusal? (f a) = later) :
    refusal? (answer >>= f) = (refusal? answer).or later := by
  cases answer with
  | ok a => exact h a
  | error e => rfl

/-- A step that refuses nothing leaves the refusal of the one before it. -/
theorem refusal?_bind_ok {f : α → Except ε β} (h : ∀ a, refusal? (f a) = none) :
    refusal? (answer >>= f) = refusal? answer := by
  rw [refusal?_bind h, Option.or_none]

/-- What is made of a result does not change the refusal. -/
theorem refusal?_map (f : α → β) : refusal? (answer.map f) = refusal? answer := by
  cases answer <;> rfl

/-- Mapping over a list refuses as the first entry does for which the function refuses. -/
theorem refusal?_mapM (f : α → Except ε β) (entries : List α) :
    refusal? (entries.mapM f) = entries.findSome? fun a => refusal? (f a) := by
  induction entries with
  | nil => rfl
  | cons a rest ih =>
    have htail : ∀ b, refusal? (rest.mapM f >>= fun bs => pure (b :: bs)) =
        rest.findSome? fun a => refusal? (f a) := by
      intro b
      rw [refusal?_bind_ok fun _ => rfl, ih]
    rw [List.mapM_cons, refusal?_bind htail, List.findSome?_cons]
    cases refusal? (f a) <;> rfl

end

end ShaderGraph
