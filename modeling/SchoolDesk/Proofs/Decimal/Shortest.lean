import SchoolDesk.Decimal.Shortest
import Mathlib.Data.Nat.Digits.Defs

/-!
# The digits of a double

A double that is not zero has a digit that is not zero: the search begins on a grid with
units no larger than the double, so the neighbour below it is at least one unit
(`one_le_floor`), and it goes on to finer grids only.  Hence the shortest decimal of a
double is zero only if it is the plain zero, whose exponent is zero
(`exponent_ofFloat_of_digits_eq_zero`).
-/

namespace SchoolDesk.Decimal

theorem digits_trim_ne_zero {d : Decimal} (h : d.digits ≠ 0) : d.trim.digits ≠ 0 := by
  fun_induction trim d with
  | case1 d more ih => exact ih (by simp only; omega)
  | case2 d done => exact h

/-- Two numbers compare on finer grids as they do on one of them. -/
theorem mul_ten_pow_le {u v k shift a b : Nat} (h : u * 10 ^ k ≤ v * Nat.pow 10 shift)
    (finer : a + shift ≤ k + b) : u * 10 ^ a ≤ v * 10 ^ b := by
  refine Nat.le_of_mul_le_mul_right ?_ (show 0 < 10 ^ shift from Nat.pow_pos (by decide))
  calc u * 10 ^ a * 10 ^ shift
      = u * 10 ^ (a + shift) := by rw [Nat.mul_assoc, ← Nat.pow_add]
    _ ≤ u * 10 ^ (k + b) := Nat.mul_le_mul_left _ (Nat.pow_le_pow_right (by decide) finer)
    _ = u * 10 ^ k * 10 ^ b := by rw [Nat.pow_add, Nat.mul_assoc]
    _ ≤ v * 10 ^ shift * 10 ^ b := Nat.mul_le_mul_right _ h
    _ = v * 10 ^ b * 10 ^ shift := Nat.mul_right_comm _ _ _

theorem two_pow_le_ten_pow {n k : Nat} (h : n ≤ 3 * k) : Nat.pow 2 n ≤ Nat.pow 10 k :=
  calc Nat.pow 2 n
      ≤ 2 ^ (3 * k) := Nat.pow_le_pow_right (by decide) h
    _ = (2 ^ 3) ^ k := Nat.pow_mul ..
    _ ≤ 10 ^ k := Nat.pow_le_pow_left (by decide) k

/-- A number is at least the power of ten at its first digit. -/
theorem ten_pow_le {n : Nat} (h : 1 ≤ n) : 10 ^ ((Nat.toDigits 10 n).length - 1) ≤ n := by
  by_cases one : (Nat.toDigits 10 n).length = 1
  · rw [one]
    exact h
  · have length : 0 < (Nat.toDigits 10 n).length := Nat.length_toDigits_pos
    have more : ¬ (Nat.toDigits 10 n).length ≤ (Nat.toDigits 10 n).length - 1 := by omega
    rw [Nat.length_toDigits_le_iff (by decide) (by omega)] at more
    exact Nat.le_of_not_lt more

namespace Rounding

variable {r : Rounding}

/-- The double is so large that its product with `10 ^ k` is not below one. -/
def IsLarge (r : Rounding) (k : Nat) : Prop := 0 < r.unit ∧ r.unit ≤ r.value * Nat.pow 10 k

/-- On a grid that is `k` places finer than the leading digit the double is at least `10 ^ k`
units. -/
theorem ten_pow_le_floor (large : r.IsLarge 400) {e : Int} {k : Nat}
    (h : e + k ≤ r.leadingExponent) : 10 ^ k ≤ (r.inUnitsOf e).floor := by
  unfold leadingExponent at h
  -- No step needs the power of ten itself.
  generalize shift : (400 : Nat) = j at large h
  obtain ⟨unit, large⟩ := large
  have power := ten_pow_le ((Nat.one_le_div_iff unit).mpr large)
  rw [Nat.le_div_iff_mul_le unit, Nat.mul_comm] at power
  have pos : 0 < r.unit * 10 ^ e.toNat := Nat.mul_pos unit (Nat.pow_pos (by decide))
  refine (Nat.le_div_iff_mul_le pos).mpr ?_
  have finer := mul_ten_pow_le (a := k + e.toNat) (b := (-e).toNat) power (by omega)
  calc 10 ^ k * (r.unit * 10 ^ e.toNat)
      = r.unit * 10 ^ (k + e.toNat) := by rw [Nat.pow_add, Nat.mul_left_comm]
    _ ≤ r.value * 10 ^ (-e).toNat := finer

theorem one_le_floor (large : r.IsLarge 400) {e : Int} (h : e ≤ r.leadingExponent) :
    1 ≤ (r.inUnitsOf e).floor :=
  ten_pow_le_floor (k := 0) large (by simpa using h)

theorem floor_le_nearest (r : Rounding) : r.floor ≤ r.nearest := by
  simp only [nearest]
  split <;> omega

theorem floor_le_neighbour {n : Nat} (h : r.neighbour? = some n) : r.floor ≤ n := by
  have near := floor_le_nearest r
  simp only [neighbour?] at h
  split at h <;> cases h <;> omega

/-- The search finds no zero, by induction on the number of grids that are left. -/
theorem digits_search_ne_zero (large : r.IsLarge 400) (more : Nat) {e : Int}
    (h : e ≤ r.leadingExponent) : (r.search more e).digits ≠ 0 := by
  have one := one_le_floor large h
  induction more generalizing e with
  | zero =>
      have near := floor_le_nearest (r.inUnitsOf e)
      simp only [search]
      omega
  | succ more ih =>
      simp only [search]
      split
      · next n found =>
          have near := floor_le_neighbour found
          simp only
          omega
      · have finer : e - 1 ≤ r.leadingExponent := by omega
        exact ih finer (one_le_floor large finer)

/-- Every double but zero is large. -/
theorem isLarge_ofFields {fraction exponent k : Nat} (h : ¬ (fraction = 0 ∧ exponent = 0))
    (hk : 1077 ≤ 3 * k) : (ofFields fraction exponent).IsLarge k := by
  have mantissa : 1 ≤ if exponent = 0 then fraction else Nat.pow 2 52 + fraction := by
    have leading : 1 ≤ Nat.pow 2 52 := Nat.one_le_two_pow
    split <;> omega
  have scale : 1 ≤ Nat.pow 2 (max exponent 1 - 1077) := Nat.one_le_two_pow
  have value : 0 < (ofFields fraction exponent).value :=
    Nat.mul_pos (Nat.mul_pos (by decide) mantissa) scale
  have power : Nat.pow 2 (1077 - max exponent 1) ≤ Nat.pow 10 k := two_pow_le_ten_pow (by omega)
  exact ⟨Nat.two_pow_pos _, power.trans (Nat.le_mul_of_pos_left _ value)⟩

end Rounding

/-- The shortest decimal of a double is zero only as the plain zero. -/
theorem exponent_ofFloat_of_digits_eq_zero {x : Float} (h : (ofFloat x).digits = 0) :
    (ofFloat x).exponent = 0 := by
  rw [ofFloat] at h ⊢
  simp only at h ⊢
  split
  · rfl
  · next other =>
      rw [if_neg other] at h
      have large := Rounding.isLarge_ofFields (k := 400) other (by decide)
      exact absurd h (digits_trim_ne_zero
        (Rounding.digits_search_ne_zero large 16 (Int.le_refl _)))

end SchoolDesk.Decimal
