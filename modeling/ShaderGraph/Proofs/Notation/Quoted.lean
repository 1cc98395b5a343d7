import Std.Data.String.ToNat
import ShaderGraph.Proofs.Notation.Words

/-!
# Reading quoted text

In its debug form every character of a text is shown as it is, by a short escape or by its code
point. Each of these is read back as the character, and a quote ends the text only where it is not
escaped.
-/

set_option autoImplicit false

namespace ShaderGraph.Notation

/-! ## Code points -/

/-- A hexadecimal digit is read as the value it was written for. -/
theorem hexDigit?_digitChar {digit : Nat} (h : digit < 16) :
    hexDigit? digit.digitChar = some digit := by
  have hall : ∀ digit < 16, hexDigit? (Nat.digitChar digit) = some digit := by decide
  exact hall digit h

/-- No hexadecimal digit closes a code point. -/
theorem digitChar_ne_brace {digit : Nat} (h : digit < 16) : digit.digitChar ≠ '\x7d' := by
  have hall : ∀ digit < 16, Nat.digitChar digit ≠ '\x7d' := by decide
  exact hall digit h

/-- One digit of a code point. -/
theorem codePoint_digit {digit : Nat} (h : digit < 16) (left : Nat) (any : Bool) (value : Nat)
    (rest : List Char) : codePoint (left + 1) any value (digit.digitChar :: rest) =
      codePoint left true (16 * value + digit) rest := by
  rw [codePoint, if_neg (digitChar_ne_brace h), hexDigit?_digitChar h]
  rfl

/-- All digits of a number in a code point. -/
theorem codePoint_digits (n left : Nat) (any : Bool) (value : Nat) (rest : List Char) :
    codePoint ((Nat.toDigits 16 n).length + left) any value (Nat.toDigits 16 n ++ rest) =
      codePoint left true (16 ^ (Nat.toDigits 16 n).length * value + n) rest := by
  induction n using Nat.strongRecOn generalizing left any value rest with
  | ind n ih =>
    rcases Nat.lt_or_ge n 16 with hlt | hge
    · rw [Nat.toDigits_of_lt_base hlt, List.singleton_append, List.length_singleton,
        Nat.add_comm 1 left, codePoint_digit hlt, Nat.pow_one]
    · rw [Nat.toDigits_of_base_le (by decide) hge, List.length_append, List.length_singleton,
        List.append_assoc, List.singleton_append, Nat.add_assoc,
        ih (n / 16) (Nat.div_lt_self (by omega) (by omega)), Nat.add_comm 1 left,
        codePoint_digit (Nat.mod_lt n (by omega))]
      congr 1
      rw [Nat.pow_succ, Nat.mul_add, ← Nat.mul_assoc, Nat.mul_comm 16 (16 ^ _), Nat.add_assoc,
        Nat.div_add_mod]

/-- A character is read from the digits of its code point. -/
theorem codePoint_char (c : Char) (rest : List Char) :
    codePoint 6 false 0 (Nat.toDigits 16 c.toNat ++ '\x7d' :: rest) = some (c, rest) := by
  have hvalid : c.toNat < 0xd800 ∨ 0xdfff < c.toNat ∧ c.toNat < 0x110000 := c.valid
  have hlength : (Nat.toDigits 16 c.toNat).length ≤ 6 :=
    (Nat.length_toDigits_le_iff (by decide) (by decide)).mpr (by omega)
  obtain ⟨left, hleft⟩ := Nat.exists_eq_add_of_le hlength
  have hclosed : codePoint left true c.toNat ('\x7d' :: rest) =
      some (Char.ofNat c.toNat, rest) := by
    rw [codePoint.eq_def]
    dsimp only
    rw [if_pos rfl, if_pos (by simpa using hvalid)]
  rw [hleft, codePoint_digits, Nat.mul_zero, Nat.zero_add, hclosed, Char.ofNat_toNat]

/-! ## Characters and texts -/

/-- Whether a character is shown in a form that is read back as one step. -/
theorem escapedChars_escapeDebug (c : Char) (fuel : Nat) (rest : List Char) :
    escapedChars .text (fuel + 1) ((Text.escapeDebug true c).toList ++ rest) =
      (escapedChars .text fuel rest).map fun (chars, rest) => (c :: chars, rest) := by
  have hmap (c : Char) : (do
      let (chars, rest) ← escapedChars .text fuel rest
      return (c :: chars, rest)) =
      (escapedChars .text fuel rest).map fun (chars, rest) => (c :: chars, rest) := by
    cases escapedChars .text fuel rest <;> rfl
  unfold Text.escapeDebug
  split
  case h_8 hzero htab hnewline hreturn hsingle hdouble hbackslash =>
    split_ifs with hinvisible
    · have hchars : ("\\u\x7b" ++ Text.hex c.toNat ++ "\x7d").toList ++ rest =
          '\\' :: 'u' :: '\x7b' :: (Nat.toDigits 16 c.toNat ++ '\x7d' :: rest) := by
        simp [Text.hex]
      have hescape : escape .text ('u' :: '\x7b' :: (Nat.toDigits 16 c.toNat ++ '\x7d' :: rest)) =
          some (c, rest) := codePoint_char c rest
      rw [hchars, escapedChars, if_neg (by decide), if_pos rfl, hescape]
      exact hmap c
    · rw [String.toList_singleton, List.singleton_append, escapedChars, if_neg hdouble,
        if_neg hbackslash]
      exact hmap c
  all_goals exact hmap _

/-- Shown characters are read up to the closing quote. -/
theorem escapedChars_shown (chars : List Char) {fuel : Nat} (hfuel : chars.length < fuel)
    (rest : List Char) :
    escapedChars .text fuel (chars.flatMap (fun c => (Text.escapeDebug true c).toList) ++
      '"' :: rest) = some (chars, rest) := by
  induction chars generalizing fuel with
  | nil =>
    obtain ⟨fuel, rfl⟩ := Nat.exists_eq_succ_of_ne_zero (Nat.ne_zero_of_lt hfuel)
    rfl
  | cons c chars ih =>
    obtain ⟨fuel, rfl⟩ := Nat.exists_eq_succ_of_ne_zero (Nat.ne_zero_of_lt hfuel)
    rw [List.flatMap_cons, List.append_assoc, escapedChars_escapeDebug,
      ih (Nat.lt_of_succ_lt_succ hfuel)]
    rfl

/-- Every character is shown by at least one. -/
theorem escapeDebug_ne_nil (c : Char) : (Text.escapeDebug true c).toList ≠ [] := by
  unfold Text.escapeDebug
  split
  case h_8 => split_ifs <;> simp
  all_goals decide

/-- A text is quoted character by character, each escaped on its own. -/
theorem toList_quoteDebug (s : String) : (Text.quoteDebug true s).toList =
    '"' :: (s.toList.flatMap (fun c => (Text.escapeDebug true c).toList) ++ ['"']) := by
  simp [Text.quoteDebug, List.flatMap_map]

/-- A text is read from its debug form. -/
theorem string_append (s : String) (rest : List Char) :
    string ((Text.quoteDebug true s).toList ++ rest) = some (s, rest) := by
  have hfuel := length_lt_flatMap_append escapeDebug_ne_nil s.toList ('"' :: rest)
  rw [toList_quoteDebug, List.cons_append, List.append_assoc, List.singleton_append, string,
    escapedChars_shown s.toList hfuel]
  simp

end ShaderGraph.Notation
