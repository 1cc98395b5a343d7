import Mathlib.Tactic.Common
import ShaderGraph.Node

/-!
# Finite values

A value without fault holds finite numbers only. Finite numbers are equal to themselves, so a value
without fault is the same as itself, which a value with a NaN would not be.
-/

set_option autoImplicit false

namespace ShaderGraph

/-- A finite number is the same as itself. -/
theorem Binary32.sameNumber_self {x : Binary32} (hx : x.isFinite = true) :
    x.sameNumber x = true := by
  have hnan : x.isNaN = false := by
    simp only [isFinite, decide_eq_true_eq] at hx
    simp only [isNaN, decide_eq_false_iff_not]
    omega
  simp [sameNumber, hnan]

/-- Whether all numbers of a curve are finite. -/
def Curve.Finite (curve : Curve) : Prop :=
  ∀ p ∈ curve.points, p.x.isFinite = true ∧ p.y.isFinite = true

/-- Whether all numbers of a color stop are finite. -/
def ColorStop.Finite (stop : ColorStop) : Prop :=
  stop.position.isFinite = true ∧ ∀ x ∈ stop.color.toList, x.isFinite = true

/-- Whether all numbers of a value are finite. -/
def SlotValue.Finite : SlotValue → Prop
  | bool _ | int _ | enum _ | image _ => True
  | float v => v.isFinite = true
  | vector v | color v => ∀ x ∈ v.toList, x.isFinite = true
  | colorRamp ramp => ∀ stop ∈ ramp.stops, stop.Finite
  | rgbCurve curves => ∀ curve ∈ curves.curves, curve.Finite
  | vectorCurve curves => ∀ curve ∈ curves.curves, curve.Finite

/-! ## Values without fault -/

/-- A stop that passes its check is finite. -/
theorem ColorStop.finite_of_faultless {stop : ColorStop} (h : stop.fault? = none) :
    stop.Finite := by
  unfold fault? at h
  split_ifs at h with hnumbers
  rw [Bool.or_eq_true, not_or] at hnumbers
  exact ⟨by simpa using hnumbers.1, by simpa using hnumbers.2⟩

/-- All stops of a ramp that passes its check are finite. -/
theorem ColorRamp.finite_of_faultless {ramp : ColorRamp} (h : ramp.fault? = none) :
    ∀ stop ∈ ramp.stops, stop.Finite := by
  have hstops : ramp.stops.findSome? ColorStop.fault? = none := by
    cases hfault : ramp.stops.findSome? ColorStop.fault? with
    | none => rfl
    | some fault =>
      simp only [ColorRamp.fault?, hfault] at h
      split_ifs at h
  rw [List.findSome?_eq_none_iff] at hstops
  exact fun stop hstop => ColorStop.finite_of_faultless (hstops stop hstop)

/-- A curve that passes its check is finite. -/
theorem Curve.finite_of_faultless {curve : Curve} (h : curve.fault? = none) : curve.Finite := by
  unfold fault? at h
  split_ifs at h with hshort hnumbers
  intro p hp
  simp only [List.any_eq_true, not_exists, not_and] at hnumbers
  have hfinite := hnumbers p hp
  rw [Bool.or_eq_true, not_or] at hfinite
  exact ⟨by simpa using hfinite.1, by simpa using hfinite.2⟩

/-- A value without fault is finite. -/
theorem SlotValue.finite_of_faultless {value : SlotValue} (h : value.fault? = none) :
    value.Finite := by
  cases value with
  | bool _ | int _ | enum _ | image _ => trivial
  | float x => simpa [fault?, Finite] using h
  | vector v | color v => simpa [fault?, Finite] using h
  | colorRamp ramp => exact ColorRamp.finite_of_faultless h
  | rgbCurve curves =>
    have hcurves := List.findSome?_eq_none_iff.mp h
    exact fun curve hcurve => Curve.finite_of_faultless (hcurves curve hcurve)
  | vectorCurve curves =>
    have hcurves := List.findSome?_eq_none_iff.mp h
    exact fun curve hcurve => Curve.finite_of_faultless (hcurves curve hcurve)

/-! ## Equality with itself -/

/-- Each entry of a list stands beside itself when the list is compared with itself. -/
theorem all_zip_self {α : Type} {p : α × α → Bool} {items : List α}
    (h : ∀ a ∈ items, p (a, a) = true) : (items.zip items).all p = true := by
  induction items with
  | nil => rfl
  | cons a items ih =>
    rw [List.zip_cons_cons, List.all_cons, h a List.mem_cons_self,
      ih fun b hb => h b (List.mem_cons_of_mem a hb)]
    rfl

/-- A vector of three finite numbers is the same as itself. -/
theorem Vec3.sameNumbers_self {v : Vec3} (hv : ∀ x ∈ v.toList, x.isFinite = true) :
    v.sameNumbers v = true := by
  have h : ∀ x ∈ v.toList, x.sameNumber x = true := fun x hx => Binary32.sameNumber_self (hv x hx)
  simp only [toList, List.forall_mem_cons] at h
  simp [sameNumbers, h]

/-- A vector of four finite numbers is the same as itself. -/
theorem Vec4.sameNumbers_self {v : Vec4} (hv : ∀ x ∈ v.toList, x.isFinite = true) :
    v.sameNumbers v = true := by
  have h : ∀ x ∈ v.toList, x.sameNumber x = true := fun x hx => Binary32.sameNumber_self (hv x hx)
  simp only [toList, List.forall_mem_cons] at h
  simp [sameNumbers, h]

/-- A ramp of finite stops is the same as itself. -/
theorem ColorRamp.sameNumbers_self {ramp : ColorRamp} (h : ∀ stop ∈ ramp.stops, stop.Finite) :
    ramp.sameNumbers ramp = true := by
  rw [sameNumbers, all_zip_self]
  · simp
  · intro stop hstop
    obtain ⟨hposition, hcolor⟩ := h stop hstop
    simp [ColorStop.sameNumbers, Binary32.sameNumber_self hposition, Vec4.sameNumbers_self hcolor]

/-- A finite curve is the same as itself. -/
theorem Curve.sameNumbers_self {curve : Curve} (h : curve.Finite) :
    curve.sameNumbers curve = true := by
  rw [sameNumbers, all_zip_self]
  · simp
  · intro p hp
    simp [Binary32.sameNumber_self (h p hp).1, Binary32.sameNumber_self (h p hp).2]

/-- A finite value is the same as itself. -/
theorem SlotValue.same_self {value : SlotValue} (h : value.Finite) : value.same value = true := by
  cases value with
  | bool _ | int _ | enum _ | image _ => simp [same]
  | float x => exact Binary32.sameNumber_self h
  | vector v | color v => exact Vec3.sameNumbers_self h
  | colorRamp ramp => exact ColorRamp.sameNumbers_self h
  | rgbCurve curves =>
    have hcurves : ∀ curve ∈ curves.curves, curve.sameNumbers curve = true :=
      fun curve hcurve => Curve.sameNumbers_self (h curve hcurve)
    simp only [ColorCurves.curves, List.forall_mem_cons] at hcurves
    simp [same, ColorCurves.sameNumbers, hcurves]
  | vectorCurve curves =>
    have hcurves : ∀ curve ∈ curves.curves, curve.sameNumbers curve = true :=
      fun curve hcurve => Curve.sameNumbers_self (h curve hcurve)
    simp only [VectorCurves.curves, List.forall_mem_cons] at hcurves
    simp [same, VectorCurves.sameNumbers, hcurves]

end ShaderGraph
