import ShaderGraph.Proofs.Notation.Words

/-!
# Reading numbers

An integer is written as its decimal digits, with a minus if it is negative, and a finite number as
digits with a point among them. Neither is mistaken for a word or another base, and no suffix
follows, so both are read back as they are.
-/

set_option autoImplicit false

namespace ShaderGraph.Notation

open Binary32 (signChars signAt_signChars isDigit_toDigits toList_toString_int)

/-- The codes of the decimal digits. -/
theorem toNat_of_isDigit {c : Char} (hc : c.isDigit = true) : 48 ≤ c.toNat ∧ c.toNat ≤ 57 :=
  Char.isDigit_iff_toNat.mp hc

/-- A digit can be the first character of a value. -/
theorem opens_of_isDigit {c : Char} (hc : c.isDigit = true) : opens c = true := by
  have hrange := toNat_of_isDigit hc
  have hne (d : Char) (hd : d.toNat < 48 ∨ 57 < d.toNat) : (c == d) = false := by
    rw [beq_eq_false_iff_ne]
    rintro rfl
    omega
  simp [opens, isBlank, bne, hne]

/-! ## Integers -/

/-- The characters of an integer end where its digits do. -/
theorem run_isIntegerChar {digits : List Char} (hdigits : ∀ c ∈ digits, c.isDigit = true)
    {rest : List Char} (hrest : Ended rest) :
    run isIntegerChar (digits ++ rest) = (digits, rest) := by
  refine run_append (fun c hc => ?_) (hrest.head_eq_false (by decide) (by decide))
  simp [isIntegerChar, hdigits c hc]

/-- Digits add up to their value. -/
theorem digitsBelow_digits {digits : List Char} (hdigits : ∀ c ∈ digits, c.isDigit = true)
    (value : Nat) : digitsBelow 10 value digits = some (Nat.ofDigitChars 10 digits value) := by
  induction digits generalizing value with
  | nil => simp [digitsBelow]
  | cons c digits ih =>
    have hc : c.isDigit = true := hdigits c List.mem_cons_self
    have hunderscore : c ≠ '_' := by
      rintro rfl
      exact absurd hc (by decide)
    have hlt : c.toNat - '0'.toNat < 10 := by
      have hrange := toNat_of_isDigit hc
      have hzero : '0'.toNat = 48 := rfl
      omega
    rw [digitsBelow, if_neg hunderscore, hexDigit?, if_pos hc]
    dsimp only
    rw [if_pos hlt, ih fun d hd => hdigits d (List.mem_cons_of_mem c hd), Nat.ofDigitChars_cons,
      Nat.mul_comm]

/-- Decimal digits announce no other base. -/
theorem baseAt_digits {digits : List Char} (hdigits : ∀ c ∈ digits, c.isDigit = true)
    (hne : digits ≠ []) {rest : List Char} (hrest : Ended rest) :
    baseAt (digits ++ rest) = (10, digits ++ rest) := by
  have hsecond : ∀ c d text, digits ++ rest = c :: d :: text →
      d.isDigit = true ∨ d = ',' ∨ d = ')' := by
    intro c d text heq
    obtain ⟨first, tail, rfl⟩ := List.exists_cons_of_ne_nil hne
    rw [List.cons_append, List.cons.injEq] at heq
    cases tail with
    | nil => exact Or.inr (hrest d (by rw [← List.nil_append rest, heq.2]; rfl))
    | cons e tail =>
      rw [List.cons_append, List.cons.injEq] at heq
      exact Or.inl (heq.2.1 ▸ hdigits e (by simp))
  unfold baseAt
  split
  · next heq => exact absurd (hsecond _ _ _ heq) (by decide)
  · next heq => exact absurd (hsecond _ _ _ heq) (by decide)
  · next heq => exact absurd (hsecond _ _ _ heq) (by decide)
  · rfl

/-- Decimal digits are read as their number, up to the end of the value. -/
theorem unsignedDigits_append {digits : List Char} (hdigits : ∀ c ∈ digits, c.isDigit = true)
    (hne : digits ≠ []) {rest : List Char} (hrest : Ended rest) :
    unsignedDigits (digits ++ rest) = some (Nat.ofDigitChars 10 digits 0, rest) := by
  have hhead : (digits.isEmpty || digits.head? == some '_') = false := by
    obtain ⟨first, tail, rfl⟩ := List.exists_cons_of_ne_nil hne
    have hfirst : first ≠ '_' := by
      rintro rfl
      exact absurd (hdigits '_' (by simp)) (by decide)
    simpa using hfirst
  rw [unsignedDigits, baseAt_digits hdigits hne hrest]
  dsimp only
  rw [run_isIntegerChar hdigits hrest]
  dsimp only
  rw [hhead, if_neg (by simp), digitsBelow_digits hdigits]
  rfl

/-- No suffix follows where a value ends. -/
theorem word_ended {suffix : String} {first : Char} (hsuffix : suffix.toList.head? = some first)
    (hcomma : first ≠ ',') (hclose : first ≠ ')') {rest : List Char} (hrest : Ended rest) :
    word suffix rest = none := by
  refine word_eq_none_of_fixed (fixed_eq_none ?_ ?_)
  · intro c hc d hd
    rw [hsuffix, Option.mem_some_iff] at hd
    rcases hrest c hc with rfl | rfl
    · exact hd ▸ hcomma.symm
    · exact hd ▸ hclose.symm
  · intro hnil
    rw [hnil] at hsuffix
    exact absurd hsuffix (by simp)

/-- Digits at the end of a value have no type behind them. -/
theorem suffixAt?_digits {digits : List Char} (hdigits : ∀ c ∈ digits, c.isDigit = true)
    {rest : List Char} (hrest : Ended rest) : suffixAt? (digits ++ rest) = none := by
  have hdrop : (digits ++ rest).dropWhile isIntegerChar = rest :=
    congrArg Prod.snd (run_isIntegerChar hdigits hrest)
  have hfirst : ∀ type ∈ IntegerType.all, type.suffix.toList.head? = some 'i' ∨
      type.suffix.toList.head? = some 'u' := by
    simp [IntegerType.all, IntegerType.signed, IntegerType.unsigned]
  rw [suffixAt?, hdrop, List.find?_eq_none]
  intro type htype
  rcases hfirst type htype with hsuffix | hsuffix
  · simp [word_ended hsuffix (by decide) (by decide) hrest]
  · simp [word_ended hsuffix (by decide) (by decide) hrest]

/-- An integer within the bounds of a type is read from its sign and digits. -/
theorem integer_append (type : IntegerType) (negative : Bool) (n : Nat)
    (hleast : type.least ≤ if negative then -(n : Int) else n)
    (hgreatest : (if negative then -(n : Int) else n) ≤ type.greatest)
    {rest : List Char} (hrest : Ended rest) :
    integer type (signChars negative ++ (Nat.toDigits 10 n ++ rest)) =
      some (if negative then -(n : Int) else n, rest) := by
  have hdigits := isDigit_toDigits n
  have hne : Nat.toDigits 10 n ≠ [] := Nat.toDigits_ne_nil
  have hhead : ∀ c ∈ (Nat.toDigits 10 n ++ rest).head?, c.isDigit = true := by
    obtain ⟨first, tail, hcons⟩ := List.exists_cons_of_ne_nil hne
    intro c hc
    rw [hcons] at hc hdigits
    exact hdigits c (by simp_all)
  simp only [integer, signAt_signChars negative hhead, suffixAt?_digits hdigits hrest,
    unsignedDigits_append hdigits hne hrest, Nat.ofDigitChars_ten_toDigits]
  simp [hleast, hgreatest, guard]

/-- A natural number of a width is read from its digits. -/
theorem nat_append {width n : Nat} (hn : n < 2 ^ width) (ctx : Context) {rest : List Char}
    (hrest : Ended rest) : nat width ctx (Nat.toDigits 10 n ++ rest) = some (n, rest) := by
  have hgreatest : (n : Int) ≤ 2 ^ width - 1 := by
    have hcast : (n : Int) < 2 ^ width := by exact_mod_cast hn
    omega
  have hread : integer (.unsigned width) (Nat.toDigits 10 n ++ rest) = some ((n : Int), rest) :=
    integer_append (.unsigned width) false n (Int.natCast_nonneg n) hgreatest hrest
  rw [nat, hread]
  rfl

/-- A machine integer is read from its sign and digits. -/
theorem int32_append (n : Int32) (ctx : Context) {rest : List Char} (hrest : Ended rest) :
    int32 ctx ((toString n.toInt).toList ++ rest) = some (n, rest) := by
  have hvalue : (if decide (n.toInt < 0) = true then -(n.toInt.natAbs : Int) else n.toInt.natAbs) =
      n.toInt := by
    split_ifs with h <;> simp only [decide_eq_true_eq] at h <;> omega
  have hread := integer_append (.signed 32) (decide (n.toInt < 0)) n.toInt.natAbs
    (by rw [hvalue]; exact n.le_toInt) (by rw [hvalue]; exact Int.le_sub_one_of_lt n.toInt_lt) hrest
  rw [int32, toList_toString_int, List.append_assoc, hread, hvalue]
  change some (Int32.ofInt n.toInt, rest) = _
  rw [Int32.ofInt_toInt]

/-! ## Decimals -/

/-- A decimal without underscores stays as it is. -/
theorem withoutUnderscores_eq {token : List Char} (htoken : ∀ c ∈ token, c ≠ '_')
    (allowed : Bool) : withoutUnderscores allowed token = some token := by
  induction token generalizing allowed with
  | nil => rfl
  | cons c token ih =>
    rw [withoutUnderscores, if_neg (htoken c List.mem_cons_self)]
    dsimp only
    rw [ih fun d hd => htoken d (List.mem_cons_of_mem c hd)]
    rfl

/-- A decimal at the end of a value has no suffix. -/
theorem decimalSuffix_ended (suffixes : List String) {rest : List Char} (hrest : Ended rest) :
    decimalSuffix suffixes rest = some rest := by
  have hnone : ["f32", "f64"].find? (fun suffix => (word suffix rest).isSome) = none := by
    rw [List.find?_eq_none]
    intro suffix hsuffix
    have hfirst : suffix.toList.head? = some 'f' := by
      rcases List.mem_pair.mp hsuffix with rfl | rfl <;> rfl
    simp [word_ended hfirst (by decide) (by decide) hrest]
  rw [decimalSuffix, hnone]

/-- A sign and a digit begin none of the words for numbers. -/
theorem namedNumber_digits (suffixes : List String) (negative : Bool) {c : Char}
    (hc : c.isDigit = true) (text : List Char) :
    namedNumber suffixes (signChars negative ++ c :: text) = none := by
  have hne (d : Char) (hd : d.isDigit = false) : d ≠ c := by
    rintro rfl
    rw [hc] at hd
    exact absurd hd (by decide)
  have hi := hne 'i' (by decide)
  have hN := hne 'N' (by decide)
  have hplus := hne '+' (by decide)
  have hminus := hne '-' (by decide)
  rw [namedNumber, List.findSome?_eq_none_iff]
  intro entry hentry
  have hfixed : fixed entry.1 (signChars negative ++ c :: text) = none := by
    rw [fixed, if_neg]
    simp only [namedNumbers, List.mem_cons, List.not_mem_nil, or_false] at hentry
    cases negative <;> rcases hentry with rfl | rfl | rfl | rfl | rfl | rfl <;>
      simp [signChars, hi, hN, hplus, hminus]
  dsimp only
  rw [hfixed]
  rfl

/-- A finite number is read from its positional text. -/
theorem float_append {x : Binary32} (hx : x.isFinite = true) {rest : List Char}
    (hrest : Ended rest) : float ((numberLayout.write x).toList ++ rest) = some (x, rest) := by
  have hvalue : Binary32.ofText? (numberLayout.write x).toList = some x :=
    Binary32.ofText?_write numberLayout hx
  have hlayout : numberLayout.positional = none := rfl
  obtain ⟨whole, fraction, htext, hne, hwhole, hfraction⟩ :=
    Binary32.Layout.write_spec hlayout hx
  obtain ⟨first, tail, rfl⟩ := List.exists_cons_of_ne_nil hne
  have hfirst : first.isDigit = true := hwhole first List.mem_cons_self
  rw [htext] at hvalue ⊢
  generalize htoken : signChars x.isNegative ++ (first :: tail ++ '.' :: fraction) = token at *
  have hchars : ∀ c ∈ token, c = '-' ∨ c = '.' ∨ c.isDigit = true := by
    intro c hc
    rw [← htoken, List.mem_append, List.mem_append] at hc
    rcases hc with hc | hc | hc
    · left
      cases hnegative : x.isNegative <;> simp_all [signChars]
    · exact Or.inr (Or.inr (hwhole c hc))
    · rcases List.mem_cons.mp hc with rfl | hc
      · exact Or.inr (Or.inl rfl)
      · exact Or.inr (Or.inr (hfraction c hc))
  have hrun : run isDecimalChar (token ++ rest) = (token, rest) := by
    refine run_append (fun c hc => ?_) (hrest.head_eq_false (by decide) (by decide))
    rcases hchars c hc with rfl | rfl | hc
    · rfl
    · rfl
    · simp [isDecimalChar, hc]
  have hunderscores : ∀ c ∈ token, c ≠ '_' := by
    rintro c hc rfl
    exact absurd (hchars '_' hc) (by decide)
  have hnamed : namedNumber ["f32"] (token ++ rest) = none := by
    rw [← htoken]
    simpa using namedNumber_digits ["f32"] x.isNegative hfirst (tail ++ '.' :: fraction ++ rest)
  rw [float, decimal, hnamed]
  dsimp only
  rw [hrun]
  dsimp only
  rw [withoutUnderscores_eq hunderscores, Option.bind_eq_bind, Option.bind_some,
    decimalSuffix_ended _ hrest, Option.bind_eq_bind, Option.bind_some, hvalue]
  rfl

end ShaderGraph.Notation
