import ShaderGraph.Proofs.Binary32.Decimal

/-!
# Texts read back

A finite number is written as an optional minus and a numeral: digits with a point among them, an
exponent behind them, or both. Reading such a text rounds the decimal it shows, which is the
shortest decimal of the number, so it gives the number back. Infinities and NaNs are written in
words.
-/

set_option autoImplicit false

namespace ShaderGraph.Binary32

/-! ## Runs of digits -/

/-- Adding up digits is what the library does when it reads a number in base ten. -/
theorem digitsValue_eq (digits : List Char) :
    digitsValue digits = Nat.ofDigitChars 10 digits 0 := by
  have hstep : (fun (value : ℕ) (c : Char) => value * 10 + (c.toNat - '0'.toNat)) =
      fun value c => 10 * value + (c.toNat - '0'.toNat) := by
    funext value c
    rw [Nat.mul_comm]
  rw [digitsValue, hstep, Nat.ofDigitChars_eq_foldl]

/-- The digits of a natural number are digits. -/
theorem isDigit_toDigits (n : ℕ) : ∀ c ∈ Nat.toDigits 10 n, c.isDigit = true := fun _ hc =>
  Nat.isDigit_of_mem_toDigits (by norm_num) le_rfl hc

/-- The noughts that fill up a numeral are digits. -/
theorem isDigit_replicate_zero (n : ℕ) : ∀ c ∈ List.replicate n '0', c.isDigit = true := by
  intro c hc
  rw [List.eq_of_mem_replicate hc]
  rfl

/-- The longest front of a kind ends where a character of another kind follows. -/
theorem takeWhile_dropWhile_append {p : Char → Bool} {front : List Char}
    (hfront : ∀ c ∈ front, p c = true) {rest : List Char} (hrest : ∀ c ∈ rest.head?, p c = false) :
    (front ++ rest).takeWhile p = front ∧ (front ++ rest).dropWhile p = rest := by
  rw [List.takeWhile_append_of_pos hfront, List.dropWhile_append_of_pos hfront]
  cases rest with
  | nil => simp
  | cons c rest =>
    have hc := hrest c rfl
    simp [hc]

/-- A run of digits ends where another character follows. -/
theorem digitRun_append {digits : List Char} (hdigits : ∀ c ∈ digits, c.isDigit = true)
    {rest : List Char} (hrest : ∀ c ∈ rest.head?, c.isDigit = false) :
    digitRun (digits ++ rest) = (digits, rest) := by
  obtain ⟨htake, hdrop⟩ := takeWhile_dropWhile_append hdigits hrest
  rw [digitRun, htake, hdrop]

/-- The characters of a sign: a minus or nothing. -/
def signChars (negative : Bool) : List Char := if negative then ['-'] else []

/-- The sign in front of a digit. -/
theorem signAt_signChars (negative : Bool) {text : List Char}
    (htext : ∀ c ∈ text.head?, c.isDigit = true) :
    signAt (signChars negative ++ text) = (negative, text) := by
  cases negative with
  | true => rfl
  | false =>
    change signAt text = (false, text)
    unfold signAt
    split
    · exact absurd (htext '-' rfl) (by decide)
    · exact absurd (htext '+' rfl) (by decide)
    · rfl

/-- The digits of an integer, with its sign. -/
theorem toList_toString_int (n : Int) :
    (toString n).toList = signChars (decide (n < 0)) ++ Nat.toDigits 10 n.natAbs := by
  cases n with
  | ofNat n =>
    change (toString n).toList = _
    simp [signChars]
  | negSucc n =>
    change ("-" ++ toString (n + 1)).toList = _
    simp [signChars]

/-! ## Numerals -/

/-- What stands behind the whole part of a numeral, if it has a fractional part. -/
def pointed (fraction : List Char) : List Char := if fraction = [] then [] else '.' :: fraction

/-- Digits with a point among them, an exponent behind them, or both. -/
structure IsNumeral (whole fraction exponent : List Char) (power : ℤ) : Prop where
  whole_ne : whole ≠ []
  whole_isDigit : ∀ c ∈ whole, c.isDigit = true
  fraction_isDigit : ∀ c ∈ fraction, c.isDigit = true
  exponent_chars : ∀ c ∈ exponent, c.isDigit = true ∨ c ∈ ['e', '+', '-']
  exponent_eq : exponentOf? exponent = some power
  fraction_ne : exponent = [] → fraction ≠ []

/-- The characters of an integer, perhaps with a plus in front, are read as a power of ten. -/
theorem exponentOf?_int (power : ℤ) (plus : Bool) (hplus : plus = true → 0 ≤ power) :
    exponentOf? ('e' :: ((if plus then ['+'] else []) ++ (toString power).toList)) =
      some power := by
  have hdigits := isDigit_toDigits power.natAbs
  have hvalue : digitsValue (Nat.toDigits 10 power.natAbs) = power.natAbs := by
    rw [digitsValue_eq, Nat.ofDigitChars_ten_toDigits]
  have hrun : digitRun (Nat.toDigits 10 power.natAbs) = (Nat.toDigits 10 power.natAbs, []) := by
    rw [← digitRun_append hdigits (by simp), List.append_nil]
  have hhead : ∀ c ∈ (Nat.toDigits 10 power.natAbs).head?, c.isDigit = true :=
    fun c hc => hdigits c (List.mem_of_mem_head? hc)
  have hsign : signAt ((if plus then ['+'] else []) ++ (toString power).toList) =
      (decide (power < 0), Nat.toDigits 10 power.natAbs) := by
    rw [toList_toString_int]
    cases plus with
    | false => exact signAt_signChars _ hhead
    | true =>
      have hnonneg : decide (power < 0) = false := by simpa using hplus rfl
      rw [hnonneg]
      rfl
  have hempty : (Nat.toDigits 10 power.natAbs).isEmpty = false := by simp
  simp only [exponentOf?, true_or, if_true, hsign, hrun, hvalue, hempty, List.isEmpty_nil,
    Bool.not_true, Bool.or_self, Bool.false_eq_true, if_false, decide_eq_true_eq,
    Option.some.injEq]
  split_ifs <;> omega

namespace IsNumeral

variable {whole fraction exponent : List Char} {power : ℤ}

/-- Neither the whole part nor the fraction goes on in the exponent. -/
theorem head_exponent (h : IsNumeral whole fraction exponent power) :
    ∀ c ∈ exponent.head?, c.isDigit = false ∧ c ≠ '.' := by
  have heq := h.exponent_eq
  cases exponent with
  | nil => simp
  | cons c rest =>
    intro d hd
    obtain rfl : c = d := by simpa using hd
    have hc : c = 'e' ∨ c = 'E' := by
      by_contra hno
      simp [exponentOf?, hno] at heq
    rcases hc with rfl | rfl <;> decide

/-- A numeral with a sign in front reads as the decimal that it shows. -/
theorem ofText?_eq (h : IsNumeral whole fraction exponent power) (negative : Bool) :
    ofText? (signChars negative ++ (whole ++ (pointed fraction ++ exponent))) =
      some (ofDecimal negative (digitsValue (whole ++ fraction))
        (power - fraction.length)) := by
  have hexponent := h.head_exponent
  have hhead : ∀ c ∈ (whole ++ (pointed fraction ++ exponent)).head?, c.isDigit = true := by
    obtain ⟨c, rest, rfl⟩ := List.exists_cons_of_ne_nil h.whole_ne
    intro d hd
    exact h.whole_isDigit d (by simp_all)
  have hempty : whole.isEmpty = false := by simpa using h.whole_ne
  have hwhole : digitRun (whole ++ (pointed fraction ++ exponent)) =
      (whole, pointed fraction ++ exponent) := by
    refine digitRun_append h.whole_isDigit fun c hc => ?_
    unfold pointed at hc
    split_ifs at hc with hnil
    · exact (hexponent c (by simpa using hc)).1
    · obtain rfl : '.' = c := by simpa using hc
      decide
  simp only [ofText?, signAt_signChars negative hhead, hwhole, hempty, Bool.false_and,
    Bool.false_eq_true, if_false]
  by_cases hnil : fraction = []
  · subst hnil
    -- no point follows, so the exponent is read at once
    have hpointed : pointed [] ++ exponent = exponent := rfl
    rw [hpointed]
    split
    · exact absurd rfl (hexponent '.' rfl).2
    · simp [h.exponent_eq]
  · have hpointed : pointed fraction = '.' :: fraction := if_neg hnil
    have hfraction : digitRun (fraction ++ exponent) = (fraction, exponent) :=
      digitRun_append h.fraction_isDigit fun c hc => (hexponent c hc).1
    rw [hpointed]
    simp [hfraction, h.exponent_eq]

end IsNumeral

/-! ## Layouts -/

/-- The positional text of a decimal is digits with a point among them, of the same value. -/
theorem Layout.writePositional_spec {d : Decimal} (hd : d.digits ≠ 0) :
    ∃ whole fraction : List Char, (writePositional d).toList = whole ++ '.' :: fraction ∧
      whole ≠ [] ∧ fraction ≠ [] ∧
      (∀ c ∈ whole, c.isDigit = true) ∧ (∀ c ∈ fraction, c.isDigit = true) ∧
      Decimal.value ⟨digitsValue (whole ++ fraction), -fraction.length⟩ = d.value := by
  obtain ⟨digits, exponent⟩ := d
  have hdigits := isDigit_toDigits digits
  have hvalue : Nat.ofDigitChars 10 (Nat.toDigits 10 digits) 0 = digits :=
    Nat.ofDigitChars_ten_toDigits
  unfold writePositional
  dsimp only
  generalize hshown : Nat.toDigits 10 digits = shown at *
  split_ifs with hwhole hpoint
  · -- a whole number
    refine ⟨shown ++ List.replicate exponent.toNat '0', ['0'], by simp, ?_, by simp, ?_, by simp,
      ?_⟩
    · rw [← hshown]
      simp
    · intro c hc
      rcases List.mem_append.mp hc with hc | hc
      · exact hdigits c hc
      · exact isDigit_replicate_zero _ c hc
    · obtain ⟨n, rfl⟩ := Int.eq_ofNat_of_zero_le hwhole
      rw [digitsValue_eq, Nat.ofDigitChars_append, Nat.ofDigitChars_append, hvalue,
        Nat.ofDigitChars_replicate_zero, Nat.ofDigitChars_cons, Nat.ofDigitChars_nil]
      simp only [Decimal.value]
      push_cast
      simp
      ring
  · -- the point stands among the digits
    generalize hplace : ((shown.length : ℤ) + exponent).toNat = place
    refine ⟨shown.take place, shown.drop place, by simp, ?_, ?_, ?_, ?_, ?_⟩
    · rw [ne_eq, List.take_eq_nil_iff]
      rintro (hzero | hnil)
      · omega
      · rw [hnil] at hvalue
        exact hd hvalue.symm
    · rw [ne_eq, List.drop_eq_nil_iff]
      omega
    · exact fun c hc => hdigits c (List.mem_of_mem_take hc)
    · exact fun c hc => hdigits c (List.mem_of_mem_drop hc)
    · rw [List.take_append_drop, digitsValue_eq, hvalue, List.length_drop]
      congr 2
      omega
  · -- zeros follow the point
    generalize hzeros : (-((shown.length : ℤ) + exponent)).toNat = zeros
    refine ⟨['0'], List.replicate zeros '0' ++ shown, by simp, by simp, ?_, by simp, ?_, ?_⟩
    · rw [← hshown]
      simp
    · intro c hc
      rcases List.mem_append.mp hc with hc | hc
      · exact isDigit_replicate_zero _ c hc
      · exact hdigits c hc
    · rw [digitsValue_eq, List.singleton_append, Nat.ofDigitChars_cons, Nat.ofDigitChars_append,
        Nat.ofDigitChars_replicate_zero, List.length_append, List.length_replicate]
      have hzero : 10 ^ zeros * (10 * 0 + ('0'.toNat - '0'.toNat)) = 0 := by simp
      rw [hzero, hvalue]
      congr 2
      omega

/-- One digit, a point before the others if there are any, and an exponent. -/
theorem Layout.writeScientific_spec (plusSign : Bool) (d : Decimal) :
    ∃ (whole fraction exponent : List Char) (power : ℤ),
      (writeScientific plusSign d).toList = whole ++ (pointed fraction ++ exponent) ∧
      IsNumeral whole fraction exponent power ∧
      Decimal.value ⟨digitsValue (whole ++ fraction), power - fraction.length⟩ = d.value := by
  obtain ⟨digits, exponent⟩ := d
  have hdigits := isDigit_toDigits digits
  have hvalue : Nat.ofDigitChars 10 (Nat.toDigits 10 digits) 0 = digits :=
    Nat.ofDigitChars_ten_toDigits
  have hne : Nat.toDigits 10 digits ≠ [] := Nat.toDigits_ne_nil
  unfold writeScientific
  dsimp only
  generalize Nat.toDigits 10 digits = shown at *
  generalize hpower : (shown.length : ℤ) + exponent - 1 = power
  have hplus : ∀ plus : Bool, (if plus then "+" else "").toList = if plus then ['+'] else [] := by
    decide
  have hpoint : (if (shown.drop 1).isEmpty = true then ""
      else "." ++ String.ofList (shown.drop 1)).toList = pointed (shown.drop 1) := by
    generalize shown.drop 1 = fraction
    cases fraction <;> simp [pointed]
  refine ⟨shown.take 1, shown.drop 1,
    'e' :: ((if plusSign && decide (0 ≤ power) then ['+'] else []) ++ (toString power).toList),
    power, ?_, ⟨?_, ?_, ?_, ?_, ?_, by simp⟩, ?_⟩
  · simp only [String.toList_append, String.toList_ofList, hpoint, hplus, List.append_assoc]
    rfl
  · rw [ne_eq, List.take_eq_nil_iff]
    simp [hne]
  · exact fun c hc => hdigits c (List.mem_of_mem_take hc)
  · exact fun c hc => hdigits c (List.mem_of_mem_drop hc)
  · intro c hc
    rw [toList_toString_int] at hc
    rcases List.mem_cons.mp hc with rfl | hc
    · simp
    rcases List.mem_append.mp hc with hc | hc
    · split_ifs at hc <;> simp_all
    rcases List.mem_append.mp hc with hc | hc
    · unfold signChars at hc
      split_ifs at hc <;> simp_all
    · exact Or.inl (isDigit_toDigits _ c hc)
  · exact exponentOf?_int power _ fun h => by simpa using (Bool.and_eq_true_iff.mp h).2
  · have hlength : 0 < shown.length := List.length_pos_iff.mpr hne
    rw [List.take_append_drop, digitsValue_eq, hvalue, List.length_drop]
    congr 2
    omega

/-- A positive decimal is written as a numeral of the same value, which has no exponent if all
magnitudes are written positionally. -/
theorem Layout.writeDecimal_spec (layout : Layout) {d : Decimal} (hd : d.digits ≠ 0) :
    ∃ (whole fraction exponent : List Char) (power : ℤ),
      (layout.writeDecimal d).toList = whole ++ (pointed fraction ++ exponent) ∧
      IsNumeral whole fraction exponent power ∧ (layout.positional = none → exponent = []) ∧
      Decimal.value ⟨digitsValue (whole ++ fraction), power - fraction.length⟩ = d.value := by
  have hpositional : ∃ whole fraction : List Char,
      (writePositional d).toList = whole ++ (pointed fraction ++ []) ∧
      IsNumeral whole fraction [] 0 ∧
      Decimal.value ⟨digitsValue (whole ++ fraction), 0 - fraction.length⟩ = d.value := by
    obtain ⟨whole, fraction, htext, hne, hne', hwhole, hfraction, hvalue⟩ :=
      writePositional_spec hd
    refine ⟨whole, fraction, ?_, ⟨hne, hwhole, hfraction, by simp, rfl, fun _ => hne'⟩, ?_⟩
    · rw [htext, pointed, if_neg hne', List.append_nil]
    · rw [zero_sub, hvalue]
  obtain ⟨whole, fraction, htext, hnumeral, hvalue⟩ := hpositional
  cases hlayout : layout.positional with
  | none =>
    refine ⟨whole, fraction, [], 0, ?_, hnumeral, fun _ => rfl, hvalue⟩
    rw [writeDecimal, hlayout, htext]
  | some range =>
    obtain ⟨least, greatest⟩ := range
    simp only [writeDecimal, hlayout]
    split_ifs
    · exact ⟨whole, fraction, [], 0, htext, hnumeral, fun _ => rfl, hvalue⟩
    · obtain ⟨whole, fraction, exponent, power, htext, hnumeral, hvalue⟩ :=
        writeScientific_spec layout.plusSign d
      exact ⟨whole, fraction, exponent, power, htext, hnumeral, by simp, hvalue⟩

/-- A finite number is written as a numeral with a sign, which reads as the number. -/
theorem Layout.exists_numeral (layout : Layout) {x : Binary32} (hx : x.isFinite = true) :
    ∃ (whole fraction exponent : List Char) (power : ℤ),
      (layout.write x).toList =
        signChars x.isNegative ++ (whole ++ (pointed fraction ++ exponent)) ∧
      IsNumeral whole fraction exponent power ∧ (layout.positional = none → exponent = []) ∧
      ofText? (layout.write x).toList = some x := by
  have hfinite : x.magnitude < infiniteMagnitude := by simpa [isFinite] using hx
  have hsign : (if x.isNegative = true then "-" else "").toList = signChars x.isNegative := by
    cases x.isNegative <;> rfl
  have hnan : x.isNaN = false := by
    simp only [isNaN, decide_eq_false_iff_not]
    omega
  rw [write, hnan, if_neg (by simp), if_neg hfinite.ne, String.toList_append, hsign]
  rcases Nat.eq_zero_or_pos x.magnitude with hzero | hpos
  · rw [if_pos hzero]
    have hnumeral : IsNumeral ['0'] ['0'] [] 0 :=
      ⟨by simp, by simp, by simp, by simp, rfl, by simp⟩
    refine ⟨['0'], ['0'], [], 0, rfl, hnumeral, fun _ => rfl, ?_⟩
    calc ofText? (signChars x.isNegative ++ ['0', '.', '0'])
        = some (ofDecimal x.isNegative (digitsValue ['0', '0']) (0 - 1)) :=
          hnumeral.ofText?_eq x.isNegative
      _ = some (ofMagnitude x.isNegative 0) := rfl
      _ = some x := by rw [← hzero, ofMagnitude_magnitude]
  · rw [if_neg hpos.ne']
    have hround : RoundsTo (shortest layout.tie x.magnitude).value x.magnitude :=
      shortest_roundsTo hpos hfinite
    obtain ⟨whole, fraction, exponent, power, htext, hnumeral, hpositional, hvalue⟩ :=
      layout.writeDecimal_spec (hround.digits_ne hpos hfinite)
    refine ⟨whole, fraction, exponent, power, by rw [htext], hnumeral, hpositional, ?_⟩
    rw [← hvalue] at hround
    rw [htext, hnumeral.ofText?_eq, ofDecimal_eq hpos hfinite hround, ofMagnitude_magnitude]

/-- **A finite number is read back from its text**, bit for bit, whatever the layout. -/
theorem ofText?_write (layout : Layout) {x : Binary32} (hx : x.isFinite = true) :
    ofText? (layout.write x).toList = some x := by
  obtain ⟨_, _, _, _, _, _, _, hread⟩ := layout.exists_numeral hx
  exact hread

/-- A number that is not finite is an infinity, which is written as a word. -/
theorem Layout.write_infinite (layout : Layout) {x : Binary32} (hnan : x.isNaN = false)
    (hx : x.isFinite = false) :
    x = ofMagnitude x.isNegative infiniteMagnitude ∧
      layout.write x = (if x.isNegative then "-" else "") ++ "inf" := by
  have hmagnitude : x.magnitude = infiniteMagnitude := by
    simp only [isNaN, isFinite, decide_eq_false_iff_not] at hnan hx
    omega
  constructor
  · rw [← hmagnitude, ofMagnitude_magnitude]
  · have hne : x.magnitude ≠ 0 := by
      rw [hmagnitude]
      decide
    rw [write, hnan, if_neg Bool.false_ne_true, if_neg hne, if_pos hmagnitude]

/-- The text of a finite number in a layout without exponents: a sign, digits, a point, digits. -/
theorem Layout.write_spec {layout : Layout} (hlayout : layout.positional = none) {x : Binary32}
    (hx : x.isFinite = true) :
    ∃ whole fraction : List Char,
      (layout.write x).toList = signChars x.isNegative ++ (whole ++ '.' :: fraction) ∧
      whole ≠ [] ∧ (∀ c ∈ whole, c.isDigit = true) ∧ (∀ c ∈ fraction, c.isDigit = true) := by
  obtain ⟨whole, fraction, exponent, power, htext, hnumeral, hpositional, -⟩ :=
    layout.exists_numeral hx
  obtain rfl : exponent = [] := hpositional hlayout
  have hpointed : pointed fraction = '.' :: fraction := if_neg (hnumeral.fraction_ne rfl)
  rw [hpointed, List.append_nil] at htext
  exact ⟨whole, fraction, htext, hnumeral.whole_ne, hnumeral.whole_isDigit,
    hnumeral.fraction_isDigit⟩

end ShaderGraph.Binary32
