import Mathlib.Algebra.Order.Field.Power
import Mathlib.Data.Rat.Cast.Order
import Mathlib.Tactic.FieldSimp
import Mathlib.Tactic.GCongr
import Mathlib.Tactic.Linarith
import Mathlib.Tactic.Positivity
import Mathlib.Tactic.Ring
import ShaderGraph.Binary32.Shortest

/-!
# The nearest number

A finite magnitude is a significand times a power of two. The rationals that round to it reach half
way to its neighbours on both sides; the half way points themselves belong to it if its significand
is even. Below the least significand of a binade the neighbour is only half as far away. Rounding a
ratio finds the magnitude whose interval the ratio lies in.
-/

set_option autoImplicit false

namespace ShaderGraph.Binary32

/-! ## Scaled ratios -/

/-- Powers of two are positive, whatever the sign of the exponent. -/
theorem two_zpow_pos (e : ℤ) : (0 : ℚ) < 2 ^ e := zpow_pos two_pos e

/-- A power with an integer exponent, split over the two sides of a ratio. -/
theorem ratio_scaled (num den base : ℕ) (hbase : 0 < base) (e : ℤ) :
    ((num * base ^ (-e).toNat : ℕ) : ℚ) / ((den * base ^ e.toNat : ℕ) : ℚ) =
      (num : ℚ) / den / (base : ℚ) ^ e := by
  have hne : (base : ℚ) ≠ 0 := by exact_mod_cast hbase.ne'
  push_cast
  obtain ⟨n, rfl | rfl⟩ := e.eq_nat_or_neg
  · simp only [Int.toNat_neg_natCast, pow_zero, mul_one, Int.toNat_natCast, zpow_natCast]
    rw [div_div]
  · simp only [neg_neg, Int.toNat_natCast, Int.toNat_neg_natCast, pow_zero, mul_one, zpow_neg,
      zpow_natCast]
    rw [div_inv_eq_mul, div_mul_eq_mul_div]

/-! ## The intervals -/

/-- A finite magnitude holds a significand of at most 24 bits and a binary exponent; all exponents
but the least need all 24 bits. -/
theorem parts_spec {magnitude : ℕ} (hpos : 0 < magnitude)
    (hfinite : magnitude < infiniteMagnitude) :
    0 < (parts magnitude).1 ∧ (parts magnitude).1 < 2 ^ 24 ∧
      -149 ≤ (parts magnitude).2 ∧ (parts magnitude).2 ≤ 104 ∧
      (-149 < (parts magnitude).2 → 2 ^ 23 ≤ (parts magnitude).1) ∧
      magnitude = ((parts magnitude).2 + 149).toNat * 0x800000 + (parts magnitude).1 := by
  simp only [infiniteMagnitude] at hfinite
  unfold parts
  dsimp only
  split_ifs with h <;> dsimp only <;> omega

/-- Where the interval of a significand begins, in quarters of its unit. -/
def lowQuarters (m : ℕ) (q : ℤ) : ℕ :=
  if m = 0x800000 && decide (-149 < q) then 4 * m - 1 else 4 * m - 2

/-- The rationals that round to a finite magnitude, in quarters of its unit. -/
structure RoundsTo (v : ℚ) (magnitude : ℕ) : Prop where
  low_le : (lowQuarters (parts magnitude).1 (parts magnitude).2 : ℚ) ≤
    v / 2 ^ ((parts magnitude).2 - 2)
  le_high : v / 2 ^ ((parts magnitude).2 - 2) ≤ 4 * (parts magnitude).1 + 2
  low_ne : (parts magnitude).1 % 2 = 1 →
    (lowQuarters (parts magnitude).1 (parts magnitude).2 : ℚ) ≠ v / 2 ^ ((parts magnitude).2 - 2)
  high_ne : (parts magnitude).1 % 2 = 1 →
    v / 2 ^ ((parts magnitude).2 - 2) ≠ 4 * (parts magnitude).1 + 2

/-- An interval begins at least two and at most one quarter below its magnitude. -/
theorem lowQuarters_bounds {m : ℕ} (hm : 0 < m) (q : ℤ) :
    4 * m ≤ lowQuarters m q + 2 ∧ lowQuarters m q + 1 ≤ 4 * m := by
  unfold lowQuarters
  split_ifs <;> omega

/-! ## Rounding a ratio to an integer -/

/-- The integer nearest to a ratio, the even one of two. -/
def roundedRatio (n d : ℕ) : ℕ :=
  if d < 2 * (n % d) || (2 * (n % d) == d && n / d % 2 == 1) then n / d + 1 else n / d

/-- An integer at most a half away is the nearest one, if it is even where it is a half away. -/
theorem roundedRatio_eq {n d k : ℕ} (hd : 0 < d) (hlow : 2 * (k * d) ≤ 2 * n + d)
    (hhigh : 2 * n ≤ 2 * (k * d) + d) (hodd : k % 2 = 1 → 2 * (k * d) ≠ 2 * n + d ∧
      2 * n ≠ 2 * (k * d) + d) : roundedRatio n d = k := by
  have hsplit : d * (n / d) + n % d = n := Nat.div_add_mod n d
  have hmod : n % d < d := Nat.mod_lt n hd
  have hcomm : k * d = d * k := Nat.mul_comm k d
  -- the nearest integer is the quotient or the one above it
  have hle : k ≤ n / d + 1 := by
    by_contra hlt
    have hmul : d * (n / d + 2) ≤ d * k := Nat.mul_le_mul_left d (by omega)
    rw [Nat.mul_add] at hmul
    omega
  have hge : n / d ≤ k := by
    by_contra hlt
    have hmul : d * (k + 1) ≤ d * (n / d) := Nat.mul_le_mul_left d (by omega)
    rw [Nat.mul_add] at hmul
    omega
  unfold roundedRatio
  simp only [Bool.or_eq_true, decide_eq_true_eq, Bool.and_eq_true, beq_iff_eq]
  obtain rfl | rfl : k = n / d ∨ k = n / d + 1 := by omega
  · rw [if_neg]
    rintro (hmore | ⟨hhalf, hquotient⟩)
    · omega
    · obtain ⟨-, hne⟩ := hodd hquotient
      omega
  · rw [if_pos]
    rw [Nat.mul_add] at hcomm
    by_cases hmore : d < 2 * (n % d)
    · exact Or.inl hmore
    · refine Or.inr ⟨by omega, ?_⟩
      by_contra heven
      obtain ⟨hne, -⟩ := hodd (by omega)
      omega

/-! ## The exponent of a ratio -/

/-- The exponent that rounding a ratio starts from. -/
def exponentOf (num den : ℕ) : ℤ :=
  let low := max ((num.log2 : ℤ) - den.log2 - 24) (-149)
  if num * 2 ^ (-low).toNat / (den * 2 ^ low.toNat) < 0x1000000 then low else low + 1

/-- Whether the significand of a number has at most 24 bits at an exponent, and not fewer unless
the exponent is the least one. -/
structure Fits (v : ℚ) (e : ℤ) : Prop where
  least_le : -149 ≤ e
  lt : v < 2 ^ 24 * 2 ^ e
  le : -149 < e → 2 ^ 23 * 2 ^ e ≤ v

/-- Smaller exponents leave no room. -/
theorem Fits.le_of_fits {v : ℚ} {e e' : ℤ} (h : Fits v e) (h' : Fits v e') : e' ≤ e := by
  by_contra hlt
  have hleast := h.least_le
  have hle := h'.le (by omega)
  have hpow : (2 : ℚ) ^ (e + 1) ≤ 2 ^ e' := zpow_le_zpow_right₀ one_le_two (by omega)
  have hdouble : (2 : ℚ) ^ (e + 1) = 2 ^ e * 2 := zpow_add_one₀ two_ne_zero e
  have hmore := h.lt
  linarith

/-- A ratio lies between the powers of two that its parts' lengths give. -/
theorem ratio_bounds {num den : ℕ} (hnum : 0 < num) (hden : 0 < den) :
    (2 : ℚ) ^ ((num.log2 : ℤ) - den.log2 - 1) < num / den ∧
      (num : ℚ) / den < 2 ^ ((num.log2 : ℤ) - den.log2 + 1) := by
  have hdenq : (0 : ℚ) < den := by exact_mod_cast hden
  have hnum₁ : (2 : ℚ) ^ num.log2 ≤ num := by exact_mod_cast Nat.log2_self_le hnum.ne'
  have hnum₂ : (num : ℚ) < 2 ^ (num.log2 + 1) := by exact_mod_cast Nat.lt_log2_self
  have hden₁ : (2 : ℚ) ^ den.log2 ≤ den := by exact_mod_cast Nat.log2_self_le hden.ne'
  have hden₂ : (den : ℚ) < 2 ^ (den.log2 + 1) := by exact_mod_cast Nat.lt_log2_self
  have hlow : (2 : ℚ) ^ ((num.log2 : ℤ) - den.log2 - 1) = 2 ^ num.log2 / 2 ^ (den.log2 + 1) := by
    rw [sub_sub, zpow_sub₀ two_ne_zero, zpow_natCast]
    norm_cast
  have hhigh : (2 : ℚ) ^ ((num.log2 : ℤ) - den.log2 + 1) = 2 ^ (num.log2 + 1) / 2 ^ den.log2 := by
    rw [sub_add_eq_add_sub, zpow_sub₀ two_ne_zero, zpow_natCast]
    norm_cast
  rw [hlow, hhigh, div_lt_div_iff₀ (by positivity) hdenq, div_lt_div_iff₀ hdenq (by positivity)]
  constructor
  · calc (2 : ℚ) ^ num.log2 * den ≤ num * den := by gcongr
      _ < num * 2 ^ (den.log2 + 1) := by gcongr
  · calc (num : ℚ) * 2 ^ den.log2 ≤ num * den := by gcongr
      _ < 2 ^ (num.log2 + 1) * den := by gcongr

/-- The exponent that rounding starts from fits. -/
theorem fits_exponentOf {num den : ℕ} (hnum : 0 < num) (hden : 0 < den) :
    Fits (num / den) (exponentOf num den) := by
  obtain ⟨hlow, hhigh⟩ := ratio_bounds hnum hden
  unfold exponentOf
  dsimp only
  generalize hl : max ((num.log2 : ℤ) - den.log2 - 24) (-149) = low
  have hpow := two_zpow_pos low
  have hnext : (2 : ℚ) ^ (low + 1) = 2 ^ low * 2 := zpow_add_one₀ two_ne_zero low
  -- one step above `low` there is room for the significand
  have hlt : (num : ℚ) / den < 2 ^ 24 * 2 ^ (low + 1) := by
    calc (num : ℚ) / den < 2 ^ ((num.log2 : ℤ) - den.log2 + 1) := hhigh
      _ ≤ 2 ^ ((24 : ℤ) + (low + 1)) := zpow_le_zpow_right₀ one_le_two (by omega)
      _ = 2 ^ 24 * 2 ^ (low + 1) := by rw [zpow_add₀ two_ne_zero]; norm_cast
  have hge : -149 < low → 2 ^ 23 * (2 : ℚ) ^ low ≤ num / den := by
    intro hleast
    calc 2 ^ 23 * (2 : ℚ) ^ low = 2 ^ ((23 : ℤ) + low) := by rw [zpow_add₀ two_ne_zero]; norm_cast
      _ ≤ 2 ^ ((num.log2 : ℤ) - den.log2 - 1) := zpow_le_zpow_right₀ one_le_two (by omega)
      _ ≤ num / den := hlow.le
  have htest : num * 2 ^ (-low).toNat / (den * 2 ^ low.toNat) < 0x1000000 ↔
      (num : ℚ) / den < 2 ^ 24 * 2 ^ low := by
    have hscaled := ratio_scaled num den 2 two_pos low
    rw [Nat.div_lt_iff_lt_mul (by positivity), ← div_lt_iff₀ hpow]
    rw [Nat.cast_ofNat] at hscaled
    rw [← hscaled, div_lt_iff₀ (by positivity)]
    norm_cast
  split_ifs with h
  · exact ⟨by omega, htest.mp h, hge⟩
  · refine ⟨by omega, hlt, fun _ => ?_⟩
    have hmore := not_lt.mp (mt htest.mpr h)
    linarith

/-! ## Rounding a ratio -/

/-- A ratio whose significand at the right exponent is nearest to `k` rounds to `k`. -/
theorem nearestMagnitude_of_fits {num den : ℕ} (hnum : 0 < num) (hden : 0 < den) {e : ℤ}
    (he : Fits (num / den) e) {k : ℕ} (hlow : (2 * k - 1 : ℚ) * 2 ^ e ≤ 2 * (num / den))
    (hhigh : 2 * (num / den : ℚ) ≤ (2 * k + 1) * 2 ^ e)
    (hodd : k % 2 = 1 → (2 * k - 1 : ℚ) * 2 ^ e ≠ 2 * (num / den) ∧
      2 * (num / den : ℚ) ≠ (2 * k + 1) * 2 ^ e) :
    nearestMagnitude num den = min ((e + 149).toNat * 0x800000 + k) infiniteMagnitude := by
  have hexponent : exponentOf num den = e :=
    le_antisymm (he.le_of_fits (fits_exponentOf hnum hden))
      ((fits_exponentOf hnum hden).le_of_fits he)
  have hpow := two_zpow_pos e
  generalize hn : num * 2 ^ (-e).toNat = n
  generalize hd : den * 2 ^ e.toNat = d
  have hdpos : 0 < d := by
    rw [← hd]
    positivity
  have hdq : (0 : ℚ) < d := by exact_mod_cast hdpos
  have hratio : (num : ℚ) / den = n / d * 2 ^ e := by
    have hscaled := ratio_scaled num den 2 two_pos e
    rw [Nat.cast_ofNat, hn, hd] at hscaled
    rw [hscaled, div_mul_cancel₀ _ hpow.ne']
  rw [hratio] at hlow hhigh hodd
  -- the same comparisons between natural numbers
  have hleft : ((2 * (k * d) : ℕ) : ℚ) - ((2 * n + d : ℕ) : ℚ) =
      ((2 * k - 1) * 2 ^ e - 2 * (n / d * 2 ^ e)) * (d / 2 ^ e) := by
    push_cast
    field_simp
    ring
  have hright : ((2 * n : ℕ) : ℚ) - ((2 * (k * d) + d : ℕ) : ℚ) =
      (2 * (n / d * 2 ^ e) - (2 * k + 1) * 2 ^ e) * (d / 2 ^ e) := by
    push_cast
    field_simp
  have hscale : (0 : ℚ) < d / 2 ^ e := div_pos hdq hpow
  have hrounded : roundedRatio n d = k := by
    refine roundedRatio_eq hdpos ?_ ?_ fun hk => ⟨fun heq => ?_, fun heq => ?_⟩
    · rw [← Nat.cast_le (α := ℚ), ← sub_nonpos, hleft]
      exact mul_nonpos_of_nonpos_of_nonneg (sub_nonpos.mpr hlow) hscale.le
    · rw [← Nat.cast_le (α := ℚ), ← sub_nonpos, hright]
      exact mul_nonpos_of_nonpos_of_nonneg (sub_nonpos.mpr hhigh) hscale.le
    · rw [heq, sub_self, zero_eq_mul, sub_eq_zero] at hleft
      exact hleft.elim (hodd hk).1 hscale.ne'
    · rw [heq, sub_self, zero_eq_mul, sub_eq_zero] at hright
      exact hright.elim (hodd hk).2 hscale.ne'
  have hdef : nearestMagnitude num den =
      min ((exponentOf num den + 149).toNat * 0x800000 +
        roundedRatio (num * 2 ^ (-exponentOf num den).toNat) (den * 2 ^ (exponentOf num den).toNat))
        infiniteMagnitude := by
    rw [nearestMagnitude, if_neg hnum.ne']
    rfl
  rw [hdef, hexponent, hn, hd, hrounded]

/-- A ratio rounds to the magnitude in whose interval it lies. -/
theorem nearestMagnitude_eq {num den magnitude : ℕ} (hden : 0 < den) (hpos : 0 < magnitude)
    (hfinite : magnitude < infiniteMagnitude) (hv : RoundsTo (num / den) magnitude) :
    nearestMagnitude num den = magnitude := by
  obtain ⟨hm, hm24, hq, hq104, hnormal, hmagnitude⟩ := parts_spec hpos hfinite
  obtain ⟨hlow, hhigh, hlow_ne, hhigh_ne⟩ := hv
  generalize (parts magnitude).1 = m at *
  generalize (parts magnitude).2 = q at *
  obtain ⟨hbound, hbound'⟩ := lowQuarters_bounds hm q
  have hpow := two_zpow_pos (q - 2)
  have hquarter : (2 : ℚ) ^ q = 2 ^ (q - 2) * 4 := by
    rw [zpow_sub₀ two_ne_zero]
    norm_num
  have hnum : 0 < num := by
    rcases Nat.eq_zero_or_pos num with rfl | h
    · rw [Nat.cast_zero, zero_div, zero_div] at hlow
      have hzero : lowQuarters m q ≤ 0 := by exact_mod_cast hlow
      omega
    · exact h
  rw [le_div_iff₀ hpow] at hlow
  rw [div_le_iff₀ hpow] at hhigh
  have hmq : (m : ℚ) + 1 ≤ 2 ^ 24 := by exact_mod_cast hm24
  have hlowq : 4 * (m : ℚ) - 2 ≤ lowQuarters m q := by
    have hcast : (4 * m : ℚ) ≤ lowQuarters m q + 2 := by exact_mod_cast hbound
    linarith
  by_cases hsmall : -149 < q ∧ (num / den : ℚ) < 2 ^ 23 * 2 ^ q
  · -- just below the binade of the magnitude: the significand there is the least one of the next
    obtain ⟨hleast, hlt⟩ := hsmall
    have hm23 : m = 0x800000 := by
      have hless : lowQuarters m q < 2 ^ 25 := by
        have hcast : (lowQuarters m q : ℚ) < 2 ^ 25 := by
          refine lt_of_mul_lt_mul_right (hlow.trans_lt ?_) hpow.le
          linarith
        exact_mod_cast hcast
      have := hnormal hleast
      omega
    have hlowm : lowQuarters m q = 2 ^ 25 - 1 := by
      simp [lowQuarters, hm23, hleast]
    have hhalf : (2 : ℚ) ^ (q - 1) = 2 ^ (q - 2) * 2 := by
      rw [← zpow_add_one₀ two_ne_zero]
      congr 1
      ring
    rw [hlowm] at hlow
    have hfits : Fits (num / den) (q - 1) := by
      refine ⟨by omega, ?_, fun _ => ?_⟩
      · rw [hhalf]
        linarith
      · rw [hhalf]
        refine le_trans ?_ hlow
        rw [Nat.cast_sub (by norm_num)]
        push_cast
        nlinarith
    rw [nearestMagnitude_of_fits hnum hden hfits (k := 2 ^ 24) ?_ ?_ (by norm_num)]
    · omega
    · rw [hhalf]
      push_cast at hlow ⊢
      nlinarith
    · rw [hhalf]
      push_cast
      nlinarith
  · have hfits : Fits (num / den) q := by
      refine ⟨hq, ?_, fun hleast => not_lt.mp fun hlt => hsmall ⟨hleast, hlt⟩⟩
      rw [hquarter]
      nlinarith
    rw [nearestMagnitude_of_fits hnum hden hfits (k := m) ?_ ?_ ?_]
    · omega
    · rw [hquarter]
      nlinarith
    · rw [hquarter]
      nlinarith
    · intro hodd
      have hlowm : (lowQuarters m q : ℚ) = 4 * m - 2 := by
        unfold lowQuarters
        rw [if_neg (by simp; omega), Nat.cast_sub (by omega)]
        push_cast
        ring
      rw [hlowm] at hlow_ne
      rw [hquarter]
      refine ⟨fun heq => hlow_ne hodd ?_, fun heq => hhigh_ne hodd ?_⟩
      · rw [eq_div_iff hpow.ne']
        linarith
      · rw [div_eq_iff hpow.ne']
        linarith

end ShaderGraph.Binary32
