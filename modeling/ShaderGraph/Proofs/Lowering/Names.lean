import Mathlib.Tactic.Common
import Std.Data.String.ToNat
import ShaderGraph.Lowering.Template

/-!
# Names are unique

The name of a variable or parameter is a letter, the number of its node and the index of its slot.
No number has an underscore among its digits, so a name says which slot it stands for, whatever the
size of the numbers, and the first letter says what kind of name it is.
-/

set_option autoImplicit false

namespace ShaderGraph

/-- Up to the first separator, two equal texts are equal. -/
theorem append_separator_inj {a b c d : List Char} {separator : Char} (ha : separator ∉ a)
    (hb : separator ∉ b) (h : a ++ separator :: c = b ++ separator :: d) : a = b ∧ c = d := by
  induction a generalizing b with
  | nil =>
    cases b with
    | nil => exact ⟨rfl, (List.cons.inj h).2⟩
    | cons y b =>
      rw [List.nil_append, List.cons_append, List.cons.injEq] at h
      exact absurd (h.1 ▸ List.mem_cons_self) hb
  | cons x a ih =>
    cases b with
    | nil =>
      rw [List.nil_append, List.cons_append, List.cons.injEq] at h
      exact absurd (h.1 ▸ List.mem_cons_self) ha
    | cons y b =>
      rw [List.cons_append, List.cons_append, List.cons.injEq] at h
      obtain ⟨rfl, h⟩ := h
      obtain ⟨rfl, rfl⟩ := ih (fun hmem => ha (List.mem_cons_of_mem _ hmem))
        (fun hmem => hb (List.mem_cons_of_mem _ hmem)) h
      exact ⟨rfl, rfl⟩

/-- The name of an output spells its node and its index in decimal. -/
theorem toList_varName (slot : SlotId) : (varName slot).toList =
    'v' :: '_' :: 'n' :: (Nat.toDigits 10 slot.node ++ '_' :: Nat.toDigits 10 slot.index) := by
  simp [varName, NodeId.label]

/-- The name of a parameter spells its node and its index in decimal. -/
theorem toList_paramName (slot : SlotId) : (paramName slot).toList =
    'p' :: '_' :: 'n' :: (Nat.toDigits 10 slot.node ++ '_' :: Nat.toDigits 10 slot.index) := by
  simp [paramName, NodeId.label]

/-- The name of an intermediate value spells its node in decimal, and then its tag. -/
theorem toList_tempName (node : NodeId) (tag : String) : (tempName node tag).toList =
    't' :: '_' :: 'n' :: (Nat.toDigits 10 node ++ '_' :: tag.toList) := by
  simp [tempName, NodeId.label]

/-- Digits determine the number. -/
theorem toDigits_injective {m n : Nat} (h : Nat.toDigits 10 m = Nat.toDigits 10 n) : m = n := by
  rw [← Nat.ofDigitChars_ten_toDigits (n := m), h, Nat.ofDigitChars_ten_toDigits]

/-- The numbers of a slot can be read off its digits with an underscore between them. -/
theorem slotId_eq_of_digits {a b : SlotId}
    (h : Nat.toDigits 10 a.node ++ '_' :: Nat.toDigits 10 a.index =
      Nat.toDigits 10 b.node ++ '_' :: Nat.toDigits 10 b.index) : a = b := by
  obtain ⟨hnode, hindex⟩ := append_separator_inj Nat.underscore_not_in_toDigits
    Nat.underscore_not_in_toDigits h
  obtain ⟨node, index⟩ := a
  exact (SlotId.mk.injEq ..).mpr ⟨toDigits_injective hnode, toDigits_injective hindex⟩

/-- No two output slots share a name. -/
theorem varName_injective : Function.Injective varName := by
  intro a b h
  have hlist := congrArg String.toList h
  rw [toList_varName, toList_varName] at hlist
  exact slotId_eq_of_digits (by simpa using hlist)

/-- No two input slots share a name. -/
theorem paramName_injective : Function.Injective paramName := by
  intro a b h
  have hlist := congrArg String.toList h
  rw [toList_paramName, toList_paramName] at hlist
  exact slotId_eq_of_digits (by simpa using hlist)

/-- Intermediate values have other names than outputs. -/
theorem tempName_ne_varName {node : NodeId} {tag : String} {slot : SlotId} :
    tempName node tag ≠ varName slot := by
  intro h
  have hlist := congrArg String.toList h
  rw [toList_tempName, toList_varName] at hlist
  simp at hlist

/-- Whether a name is that of an output or of an intermediate value of a node. -/
def BelongsTo (node : NodeId) (name : String) : Prop :=
  (∃ index, name = varName ⟨node, index⟩) ∨ ∃ tag, name = tempName node tag

/-- The name of an output belongs to the node of its slot. -/
theorem BelongsTo.output {node : NodeId} {index : Nat} : BelongsTo node (varName ⟨node, index⟩) :=
  Or.inl ⟨index, rfl⟩

/-- The name of an intermediate value belongs to its node. -/
theorem BelongsTo.temp {node : NodeId} {tag : String} : BelongsTo node (tempName node tag) :=
  Or.inr ⟨tag, rfl⟩

/-- The name of an output belongs to no other node. -/
theorem belongsTo_varName {node : NodeId} {slot : SlotId} :
    BelongsTo node (varName slot) ↔ slot.node = node := by
  constructor
  · rintro (⟨index, h⟩ | ⟨tag, h⟩)
    · rw [varName_injective h]
    · exact absurd h.symm tempName_ne_varName
  · rintro rfl
    exact .output

/-- The name of an intermediate value belongs to no other node. -/
theorem belongsTo_tempName {node other : NodeId} {tag : String} :
    BelongsTo node (tempName other tag) ↔ other = node := by
  constructor
  · rintro (⟨index, h⟩ | ⟨tag', h⟩)
    · exact absurd h tempName_ne_varName
    · have hlist := congrArg String.toList h
      rw [toList_tempName, toList_tempName] at hlist
      simp only [List.cons.injEq, true_and] at hlist
      exact toDigits_injective (append_separator_inj Nat.underscore_not_in_toDigits
        Nat.underscore_not_in_toDigits hlist).1
  · rintro rfl
    exact .temp

/-- No name belongs to two nodes. -/
theorem BelongsTo.unique {a b : NodeId} {name : String} (ha : BelongsTo a name)
    (hb : BelongsTo b name) : a = b := by
  rcases ha with ⟨index, rfl⟩ | ⟨tag, rfl⟩
  · exact belongsTo_varName.mp hb
  · exact belongsTo_tempName.mp hb

end ShaderGraph
