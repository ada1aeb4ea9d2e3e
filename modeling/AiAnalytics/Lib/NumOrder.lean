import AiAnalytics.Lib.PyOps
import Mathlib.Algebra.Order.Ring.Defs

/-!
# The order of numbers

Sums of floats are compared with limits. What such comparisons need of the arithmetic is little, and
rounding keeps it: the order is total, and sums grow with their terms. A float that is no number has
no place in it. -/

namespace AiAnalytics.Lib

variable {Float : Type}

/-- `not x > y` -/
def NumOps.le (num : NumOps Float) (x y : Float) : Prop := num.gt x y = false

/-- `max(x, y)` -/
def NumOps.larger (num : NumOps Float) (x y : Float) : Float := if num.gt y x then y else x

structure NumOps.Ordered (num : NumOps Float) : Prop where
  asymm {x y : Float} : num.gt x y = true → num.le y x
  trans {x y z : Float} : num.le x y → num.le y z → num.le x z
  add {x y x' y' : Float} : num.le x x' → num.le y y' → num.le (num.add x y) (num.add x' y')

namespace NumOps.Ordered

variable {num : NumOps Float} {x y z : Float}

theorem refl (hnum : num.Ordered) (x : Float) : num.le x x := by
  by_contra hgt
  exact hgt (hnum.asymm (Bool.ne_false_iff.mp hgt))

theorem le_larger_left (hnum : num.Ordered) : num.le x (num.larger x y) := by
  unfold larger
  split
  case isTrue hgt => exact hnum.asymm hgt
  case isFalse => exact hnum.refl x

theorem le_larger_right (hnum : num.Ordered) : num.le y (num.larger x y) := by
  unfold larger
  split
  case isTrue => exact hnum.refl y
  case isFalse hgt => exact Bool.eq_false_iff.mpr hgt

end NumOps.Ordered

section Exact

variable (K : Type) [Ring K] [Div K] [LinearOrder K]

def NumOps.exact : NumOps K where
  ofInt n := some n
  zero := 0
  isZero x := x = 0
  isPositive x := 0 < x
  add := (· + ·)
  sub := (· - ·)
  mul := (· * ·)
  div := (· / ·)

variable {K} in
theorem NumOps.exact_le_iff [IsOrderedAddMonoid K] {x y : K} : (NumOps.exact K).le x y ↔ x ≤ y := by
  simp [NumOps.le, NumOps.gt, NumOps.exact]

variable {K} in
theorem NumOps.exact_larger [IsOrderedAddMonoid K] (x y : K) :
    (NumOps.exact K).larger x y = max x y := by
  unfold larger
  split
  case isTrue hgt =>
    have hlt : x < y := by simpa [NumOps.gt, NumOps.exact] using hgt
    exact (max_eq_right hlt.le).symm
  case isFalse hgt => exact (max_eq_left (exact_le_iff.mp (Bool.eq_false_iff.mpr hgt))).symm

theorem NumOps.exact_ordered [IsOrderedAddMonoid K] : (NumOps.exact K).Ordered where
  asymm {x y} hgt := by
    have hlt : y < x := by simpa [NumOps.gt, NumOps.exact] using hgt
    exact exact_le_iff.mpr hlt.le
  trans hxy hyz := exact_le_iff.mpr ((exact_le_iff.mp hxy).trans (exact_le_iff.mp hyz))
  add hx hy := exact_le_iff.mpr (add_le_add (exact_le_iff.mp hx) (exact_le_iff.mp hy))

end Exact

end AiAnalytics.Lib
