import ShaderGraph.Binary32

/-!
# Shortest decimals

The shortest decimal of a number is the coarsest power-of-ten grid that has a point which still
rounds to the number, and on that grid the point nearer to it. A point exactly half way is decided
by a `Tie` rule, because formats disagree about it.
-/

set_option autoImplicit false

namespace ShaderGraph.Binary32

/-- The decimal number `digits * 10 ^ exponent`. -/
structure Decimal where
  digits : Nat
  exponent : Int
deriving DecidableEq, Inhabited

/-- Which of two equally near grid points is taken. -/
inductive Tie
  /-- The larger one. -/
  | up
  /-- The one with an even last digit. -/
  | even
deriving DecidableEq

/-- Significand and binary exponent: a finite magnitude is `m * 2 ^ q`. -/
def parts (magnitude : Nat) : Nat × Int :=
  let fraction := magnitude % 0x800000
  let exponent := magnitude / 0x800000
  if exponent = 0 then (fraction, -149) else (fraction + 0x800000, (exponent : Int) - 150)

/-- The point of the grid `10 ^ k` that stands for the magnitude, if the grid has one. -/
def onGrid (tie : Tie) (magnitude : Nat) (k : Int) : Option Decimal :=
  let (m, q) := parts magnitude
  -- Everything is measured in units of `2 ^ (q - 2)`; a grid step is `den / num` such units.
  let num := Nat.pow 2 (q - 2).toNat * Nat.pow 10 (-k).toNat
  let den := Nat.pow 2 (2 - q).toNat * Nat.pow 10 k.toNat
  let value := 4 * m * num
  let low := (if m = 0x800000 && decide (-149 < q) then 4 * m - 1 else 4 * m - 2) * num
  let high := (4 * m + 2) * num
  let inside (a : Nat) : Bool :=
    if m % 2 = 0 then low ≤ a * den && a * den ≤ high else low < a * den && a * den < high
  let below := value / den
  let toBelow := value - below * den
  let toAbove := (below + 1) * den - value
  let takesBelow := toBelow < toAbove ||
    (toBelow == toAbove && tie == .even && below % 2 == 0)
  match inside below, inside (below + 1) with
  | true, true => some ⟨if takesBelow then below else below + 1, k⟩
  | true, false => some ⟨below, k⟩
  | false, true => some ⟨below + 1, k⟩
  | false, false => none

/-- The shortest decimal of a finite nonzero magnitude. -/
def shortest (tie : Tie) (magnitude : Nat) : Decimal :=
  (((List.range 100).map fun (i : Nat) => (40 : Int) - i).findSome? (onGrid tie magnitude)).getD
    ⟨0, 0⟩

end ShaderGraph.Binary32
