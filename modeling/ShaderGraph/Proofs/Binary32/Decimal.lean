import ShaderGraph.Binary32.Layout
import ShaderGraph.Binary32.Reading
import ShaderGraph.Proofs.Binary32.Rounding

/-!
# Decimals read back

The shortest decimal of a number lies in the interval of the number, and its grid is fine enough
that one is always found. Reading the decimal therefore rounds to the number again, bit for bit, and
so does reading its digits in any positional layout.
-/

set_option autoImplicit false

namespace ShaderGraph.Binary32

/-- The exact value of a decimal. -/
def Decimal.value (d : Decimal) : ℚ := d.digits * 10 ^ d.exponent

/-- Powers of ten are positive, whatever the sign of the exponent. -/
theorem ten_zpow_pos (e : ℤ) : (0 : ℚ) < 10 ^ e := zpow_pos (by norm_num) e

/-- A decimal as a ratio of natural numbers. -/
theorem Decimal.value_eq (d : Decimal) : d.value =
    ((d.digits * 10 ^ d.exponent.toNat : ℕ) : ℚ) / ((10 ^ (-d.exponent).toNat : ℕ) : ℚ) := by
  have hscaled := ratio_scaled d.digits 1 10 (by norm_num) (-d.exponent)
  rw [neg_neg, Nat.one_mul, Nat.cast_one, div_one, zpow_neg, div_inv_eq_mul] at hscaled
  rw [hscaled]
  rfl

/-! ## Grids -/

/-- A grid point in quarters of the unit of a magnitude. -/
theorem grid_ratio (a : ℕ) (q k : ℤ) :
    ((a * (2 ^ (2 - q).toNat * 10 ^ k.toNat) : ℕ) : ℚ) /
      ((2 ^ (q - 2).toNat * 10 ^ (-k).toNat : ℕ) : ℚ) = Decimal.value ⟨a, k⟩ / 2 ^ (q - 2) := by
  have hscaled := ratio_scaled (a * 10 ^ k.toNat) (10 ^ (-k).toNat) 2 two_pos (q - 2)
  rw [neg_sub, Nat.cast_ofNat] at hscaled
  rw [Decimal.value_eq, ← hscaled]
  congr 2 <;> ring

/-- Whether a point of a grid is taken for a magnitude. -/
def takesPoint (magnitude : ℕ) (k : ℤ) (a : ℕ) : Bool :=
  let (m, q) := parts magnitude
  let num := 2 ^ (q - 2).toNat * 10 ^ (-k).toNat
  let den := 2 ^ (2 - q).toNat * 10 ^ k.toNat
  if m % 2 = 0 then lowQuarters m q * num ≤ a * den && a * den ≤ (4 * m + 2) * num
  else lowQuarters m q * num < a * den && a * den < (4 * m + 2) * num

/-- The points taken for a magnitude are those in its interval. -/
theorem takesPoint_iff {magnitude : ℕ} {k : ℤ} {a : ℕ} :
    takesPoint magnitude k a = true ↔ RoundsTo (Decimal.value ⟨a, k⟩) magnitude := by
  unfold takesPoint
  dsimp only
  generalize hm : (parts magnitude).1 = m
  generalize hq : (parts magnitude).2 = q
  have hratio := grid_ratio a q k
  generalize a * (2 ^ (2 - q).toNat * 10 ^ k.toNat) = place at *
  generalize hunit : 2 ^ (q - 2).toNat * 10 ^ (-k).toNat = unit at *
  have hpos : (0 : ℚ) < unit := by
    rw [← hunit]
    positivity
  have hlow : (lowQuarters m q : ℚ) ≤ place / unit ↔ lowQuarters m q * unit ≤ place := by
    rw [le_div_iff₀ hpos]
    norm_cast
  have hhigh : (place / unit : ℚ) ≤ 4 * m + 2 ↔ place ≤ (4 * m + 2) * unit := by
    rw [div_le_iff₀ hpos]
    norm_cast
  have hlow_ne : (lowQuarters m q : ℚ) ≠ place / unit ↔ lowQuarters m q * unit ≠ place := by
    rw [ne_eq, eq_div_iff hpos.ne']
    norm_cast
  have hhigh_ne : (place / unit : ℚ) ≠ 4 * m + 2 ↔ place ≠ (4 * m + 2) * unit := by
    rw [ne_eq, div_eq_iff hpos.ne']
    norm_cast
  constructor
  · intro h
    constructor <;> rw [hm, hq, ← hratio]
    · rw [hlow]
      split_ifs at h <;> simp at h <;> omega
    · rw [hhigh]
      split_ifs at h <;> simp at h <;> omega
    · intro hodd
      rw [hlow_ne]
      rw [if_neg (by omega)] at h
      simp at h
      omega
    · intro hodd
      rw [hhigh_ne]
      rw [if_neg (by omega)] at h
      simp at h
      omega
  · rintro ⟨h₁, h₂, h₃, h₄⟩
    rw [hm, hq, ← hratio] at h₁ h₂ h₃ h₄
    rw [hlow] at h₁
    rw [hhigh] at h₂
    rw [hlow_ne] at h₃
    rw [hhigh_ne] at h₄
    split_ifs with heven
    · simpa using ⟨h₁, h₂⟩
    · have hodd : m % 2 = 1 := by omega
      simpa using ⟨lt_of_le_of_ne h₁ (h₃ hodd), lt_of_le_of_ne h₂ (h₄ hodd)⟩

/-- A grid gives the point below the magnitude or the one above it, if one of them is taken. -/
theorem onGrid_eq (tie : Tie) (magnitude : ℕ) (k : ℤ) : ∃ (below : ℕ) (choice : Bool),
    below = 4 * (parts magnitude).1 * (2 ^ ((parts magnitude).2 - 2).toNat * 10 ^ (-k).toNat) /
      (2 ^ (2 - (parts magnitude).2).toNat * 10 ^ k.toNat) ∧
    onGrid tie magnitude k =
      match takesPoint magnitude k below, takesPoint magnitude k (below + 1) with
      | true, true => some ⟨if choice then below else below + 1, k⟩
      | true, false => some ⟨below, k⟩
      | false, true => some ⟨below + 1, k⟩
      | false, false => none :=
  ⟨_, _, rfl, rfl⟩

/-- The point that a grid gives lies in the interval. -/
theorem onGrid_roundsTo {tie : Tie} {magnitude : ℕ} {k : ℤ} {d : Decimal}
    (h : onGrid tie magnitude k = some d) : RoundsTo d.value magnitude := by
  obtain ⟨below, choice, -, hgrid⟩ := onGrid_eq tie magnitude k
  rw [hgrid] at h
  split at h
  · next hbelow habove =>
    rw [← Option.some.inj h, ← takesPoint_iff]
    cases choice
    · exact habove
    · exact hbelow
  · next hbelow _ =>
    rw [← Option.some.inj h, ← takesPoint_iff]
    exact hbelow
  · next _ habove =>
    rw [← Option.some.inj h, ← takesPoint_iff]
    exact habove
  · exact absurd h (by simp)

/-- The finest grid has a point for every magnitude. -/
theorem onGrid_finest {tie : Tie} {magnitude : ℕ} (hpos : 0 < magnitude)
    (hfinite : magnitude < infiniteMagnitude) : (onGrid tie magnitude (-59)).isSome := by
  obtain ⟨hm, -, hq, -⟩ := parts_spec hpos hfinite
  obtain ⟨below, choice, hbelow, hgrid⟩ := onGrid_eq tie magnitude (-59)
  have htaken : takesPoint magnitude (-59) below = true := by
    unfold takesPoint
    dsimp only
    generalize (parts magnitude).1 = m at *
    generalize (parts magnitude).2 = q at *
    obtain ⟨-, hlow⟩ := lowQuarters_bounds hm q
    generalize lowQuarters m q = low at *
    generalize hnum : 2 ^ (q - 2).toNat * 10 ^ (-(-59 : ℤ)).toNat = num at *
    generalize hden : 2 ^ (2 - q).toNat * 10 ^ (-59 : ℤ).toNat = den at *
    have hdenpos : 0 < den := by
      rw [← hden]
      positivity
    -- a step of the grid is less than a quarter of the unit
    have hstep : den < num := by
      calc den = 2 ^ (2 - q).toNat := by
            rw [← hden]
            exact Nat.mul_one _
        _ ≤ 2 ^ 151 := Nat.pow_le_pow_right two_pos (by omega)
        _ < 10 ^ 59 := by norm_num
        _ ≤ 2 ^ (q - 2).toNat * 10 ^ 59 := Nat.le_mul_of_pos_left _ (by positivity)
        _ = num := hnum
    have hsplit : den * below + 4 * m * num % den = 4 * m * num := by
      rw [hbelow]
      exact Nat.div_add_mod _ _
    have hmod := Nat.mod_lt (4 * m * num) hdenpos
    have hlowmul : low * num + num ≤ 4 * m * num := by
      rw [← Nat.succ_mul]
      exact Nat.mul_le_mul_right num hlow
    have hhighmul : (4 * m + 2) * num = 4 * m * num + 2 * num := Nat.add_mul _ _ _
    rw [Nat.mul_comm below den]
    split_ifs <;> simp <;> omega
  rw [hgrid, htaken]
  split <;> simp_all

/-- The shortest decimal of a magnitude lies in the interval of the magnitude. -/
theorem shortest_roundsTo {tie : Tie} {magnitude : ℕ} (hpos : 0 < magnitude)
    (hfinite : magnitude < infiniteMagnitude) :
    RoundsTo (shortest tie magnitude).value magnitude := by
  unfold shortest
  generalize hk : ((List.range 100).map fun (i : ℕ) => (40 : ℤ) - i) = grids
  have hsome : (grids.findSome? (onGrid tie magnitude)).isSome := by
    rw [List.findSome?_isSome_iff, ← hk]
    exact ⟨-59, List.mem_map.mpr ⟨99, by simp, by norm_num⟩, onGrid_finest hpos hfinite⟩
  obtain ⟨d, hd⟩ := Option.isSome_iff_exists.mp hsome
  rw [hd, Option.getD_some]
  obtain ⟨k, -, hgrid⟩ := List.exists_of_findSome?_eq_some hd
  exact onGrid_roundsTo hgrid

/-! ## Rounding decimals -/

/-- A number is above every power of ten below its leading digit, and below the next. -/
theorem Decimal.value_bounds {d : Decimal} (hd : d.digits ≠ 0) :
    (10 : ℚ) ^ (((Nat.toDigits 10 d.digits).length : ℤ) + d.exponent - 1) ≤ d.value ∧
      d.value < 10 ^ (((Nat.toDigits 10 d.digits).length : ℤ) + d.exponent) := by
  obtain ⟨digits, exponent⟩ := d
  generalize hlength : (Nat.toDigits 10 digits).length = length
  have hpow := ten_zpow_pos exponent
  have hlt : digits < 10 ^ length := by
    refine (Nat.length_toDigits_le_iff (by norm_num) ?_).mp hlength.le
    rw [← hlength]
    exact Nat.length_toDigits_pos
  have hle : 10 ^ (length - 1) ≤ digits := by
    rcases Nat.lt_or_ge 1 length with hlong | hshort
    · by_contra hmore
      have := (Nat.length_toDigits_le_iff (b := 10) (by norm_num) (by omega)).mpr
        (not_le.mp hmore)
      omega
    · rw [Nat.sub_eq_zero_of_le hshort]
      exact Nat.pos_of_ne_zero hd
  have hlengthpos : 1 ≤ length := by
    rw [← hlength]
    exact Nat.length_toDigits_pos
  have hltq : (digits : ℚ) < 10 ^ length := by exact_mod_cast hlt
  have hleq : (10 : ℚ) ^ (length - 1) ≤ digits := by exact_mod_cast hle
  unfold value
  constructor
  · calc (10 : ℚ) ^ ((length : ℤ) + exponent - 1) = 10 ^ (length - 1) * 10 ^ exponent := by
          rw [← zpow_natCast, ← zpow_add₀ (by norm_num)]
          congr 1
          omega
      _ ≤ digits * 10 ^ exponent := by gcongr
  · calc (digits : ℚ) * 10 ^ exponent < 10 ^ length * 10 ^ exponent := by gcongr
      _ = (10 : ℚ) ^ ((length : ℤ) + exponent) := by
          rw [← zpow_natCast, ← zpow_add₀ (by norm_num)]

/-- What rounds to a finite magnitude lies between the least positive number and infinity. -/
theorem RoundsTo.bounds {v : ℚ} {magnitude : ℕ} (hv : RoundsTo v magnitude) (hpos : 0 < magnitude)
    (hfinite : magnitude < infiniteMagnitude) : 2 ^ (-150 : ℤ) ≤ v ∧ v ≤ 2 ^ (128 : ℤ) := by
  obtain ⟨hm, hm24, hq, hq104, -⟩ := parts_spec hpos hfinite
  obtain ⟨hlow, hhigh, -, -⟩ := hv
  generalize (parts magnitude).1 = m at *
  generalize (parts magnitude).2 = q at *
  obtain ⟨hbound, -⟩ := lowQuarters_bounds hm q
  have hpow := two_zpow_pos (q - 2)
  rw [le_div_iff₀ hpow] at hlow
  rw [div_le_iff₀ hpow] at hhigh
  constructor
  · have htwo : (2 : ℚ) ≤ lowQuarters m q := by
      have : 2 ≤ lowQuarters m q := by omega
      exact_mod_cast this
    calc (2 : ℚ) ^ (-150 : ℤ) = 2 * 2 ^ (-151 : ℤ) := by norm_num
      _ ≤ 2 * 2 ^ (q - 2) := by
          gcongr
          · norm_num
          · omega
      _ ≤ lowQuarters m q * 2 ^ (q - 2) := by gcongr
      _ ≤ v := hlow
  · have hsignificand : 4 * (m : ℚ) + 2 ≤ 2 ^ 26 := by
      have : 4 * m + 2 ≤ 2 ^ 26 := by omega
      exact_mod_cast this
    calc v ≤ (4 * m + 2) * 2 ^ (q - 2) := hhigh
      _ ≤ 2 ^ 26 * 2 ^ (102 : ℤ) := by
          gcongr
          · norm_num
          · omega
      _ = 2 ^ (128 : ℤ) := by norm_num

/-- A decimal that rounds to a positive finite magnitude has a digit other than nought. -/
theorem RoundsTo.digits_ne {d : Decimal} {magnitude : ℕ} (hd : RoundsTo d.value magnitude)
    (hpos : 0 < magnitude) (hfinite : magnitude < infiniteMagnitude) : d.digits ≠ 0 := by
  intro hzero
  obtain ⟨hlow, -⟩ := hd.bounds hpos hfinite
  rw [Decimal.value, hzero, Nat.cast_zero, zero_mul] at hlow
  exact absurd hlow (not_le.mpr (two_zpow_pos _))

/-- A decimal rounds to the magnitude in whose interval it lies. -/
theorem ofDecimal_eq {d : Decimal} {magnitude : ℕ} (hpos : 0 < magnitude)
    (hfinite : magnitude < infiniteMagnitude) (hd : RoundsTo d.value magnitude)
    (negative : Bool) :
    ofDecimal negative d.digits d.exponent = ofMagnitude negative magnitude := by
  obtain ⟨hlow, hhigh⟩ := hd.bounds hpos hfinite
  have hdigits := hd.digits_ne hpos hfinite
  obtain ⟨hleast, hless⟩ := Decimal.value_bounds hdigits
  generalize horder : ((Nat.toDigits 10 d.digits).length : ℤ) + d.exponent = order at *
  have hsmall : ¬order < -50 := by
    intro h
    have hle : (10 : ℚ) ^ order ≤ 10 ^ (-51 : ℤ) :=
      zpow_le_zpow_right₀ (by norm_num) (by omega)
    have hlt : (10 : ℚ) ^ (-51 : ℤ) < 2 ^ (-150 : ℤ) := by norm_num
    linarith
  have hlarge : ¬50 < order := by
    intro h
    have hle : (10 : ℚ) ^ (50 : ℤ) ≤ 10 ^ (order - 1) :=
      zpow_le_zpow_right₀ (by norm_num) (by omega)
    have hlt : (2 : ℚ) ^ (128 : ℤ) < 10 ^ (50 : ℤ) := by norm_num
    linarith
  unfold ofDecimal
  dsimp only [Nat.pow_eq]
  rw [horder, if_neg (by simpa using ⟨hdigits, not_lt.mp hsmall⟩), if_neg hlarge, ofRatio]
  rw [Decimal.value_eq] at hd
  rw [nearestMagnitude_eq (by positivity) hpos hfinite hd]

/-- A number is given by its sign and its magnitude. -/
theorem ofMagnitude_magnitude (x : Binary32) : ofMagnitude x.isNegative x.magnitude = x := by
  obtain ⟨bits⟩ := x
  have hbits := bits.toNat_lt
  unfold ofMagnitude isNegative magnitude
  congr 1
  rw [← UInt32.toNat_inj, UInt32.toNat_ofNat']
  dsimp only
  split_ifs with h <;> simp only [decide_eq_true_eq] at h <;> omega

end ShaderGraph.Binary32
