import SchoolDesk.Proofs.Decimal.Double
import SchoolDesk.Proofs.Decimal.Shortest
import Mathlib.Tactic.LinearCombination

/-!
# The shortest decimal of a double is read back as the double

The interval of a double is kept in whole numbers, over one denominator, and grids of powers of
ten are laid over it.  What the search finds on a grid of up to sixteen digits lies in the
interval because it was looked at.  On the last grid, of seventeen digits, the point
nearest to the double is taken unseen.  It is at most half a unit away, and the interval
reaches farther to both sides (`nearest_inside`), as the double has so many units before the
point there (`ten_pow_le_floor`).  So whatever the search returns lies in the interval
(`holds_search`).

The ends of the interval are the middles between the double and its neighbours
(`isNear_of_holds`).  Zeros at the end of the digits do not count (`value_trim`).  So the
shortest decimal is rounded to the double (`roundsTo_ofFloat`).
-/

namespace SchoolDesk.Decimal

theorem value_trim (d : Decimal) : d.trim.value = d.value := by
  fun_induction trim d with
  | case1 d more ih =>
      obtain ⟨k, tens⟩ := Nat.dvd_of_mod_eq_zero more.2
      rw [ih]
      simp only [value]
      rw [tens, Nat.mul_div_cancel_left k (by decide), zpow_add_one₀ (by norm_num)]
      push_cast
      ring
  | case2 d done => rfl

namespace Rounding

variable {r : Rounding}

/-- A number in the interval. -/
structure Holds (r : Rounding) (q : ℚ) : Prop where
  low : r.low ≤ q * r.unit
  high : q * r.unit ≤ r.high
  inside : r.closed = false → r.low < q * r.unit ∧ q * r.unit < r.high

theorem contains_of_neighbour {n : Nat} (h : r.neighbour? = some n) : r.contains n = true := by
  simp only [neighbour?] at h
  split at h
  · next below above =>
      cases h
      simp only [nearest]
      split
      · exact below
      · rcases Nat.mod_two_eq_zero_or_one r.floor with even | odd
        · rw [even]
          exact below
        · rw [odd]
          exact above
      · exact above
  · next below _ =>
      cases h
      exact below
  · next above =>
      cases h
      exact above
  · cases h

/-- The nearest whole number of units is at most half a unit away. -/
theorem nearest_bounds (pos : 0 < r.unit) :
    2 * r.value ≤ (2 * r.nearest + 1) * r.unit ∧
      2 * r.nearest * r.unit ≤ 2 * r.value + r.unit := by
  have below : r.floor * r.unit ≤ r.value := Nat.div_mul_le_self _ _
  have above : r.value < (r.floor + 1) * r.unit := by
    rw [Nat.mul_comm]
    exact Nat.lt_mul_div_succ _ pos
  simp only [nearest]
  split
  · next less =>
      rw [Nat.compare_eq_lt] at less
      constructor <;> linarith
  · next same =>
      rw [Nat.compare_eq_eq] at same
      rcases Nat.mod_two_eq_zero_or_one r.floor with even | odd
      · rw [even]
        constructor <;> linarith
      · rw [odd]
        constructor <;> linarith
  · next more =>
      rw [Nat.compare_eq_gt] at more
      constructor <;> linarith

/-- In finer units both sides of a comparison grow alike. -/
theorem scaled_units (n unit : Nat) (e : Int) :
    (n * 10 ^ e * unit * 10 ^ (-e).toNat : ℚ) = n * (unit * 10 ^ e.toNat) := by
  have power : (10 : ℚ) ^ e * 10 ^ (-e).toNat = 10 ^ e.toNat := by
    rw [← zpow_natCast, ← zpow_natCast, ← zpow_add₀ (by norm_num)]
    congr 1
    omega
  rw [← power]
  ring

theorem le_units_iff {a n unit : Nat} {e : Int} :
    a * Nat.pow 10 (-e).toNat ≤ n * (unit * Nat.pow 10 e.toNat) ↔
      (a : ℚ) ≤ n * 10 ^ e * unit := by
  have pos : (0 : ℚ) < 10 ^ (-e).toNat := by positivity
  rw [← mul_le_mul_iff_left₀ pos, scaled_units]
  exact_mod_cast Iff.rfl

theorem units_le_iff {a n unit : Nat} {e : Int} :
    n * (unit * Nat.pow 10 e.toNat) ≤ a * Nat.pow 10 (-e).toNat ↔
      (n * 10 ^ e * unit : ℚ) ≤ a := by
  have pos : (0 : ℚ) < 10 ^ (-e).toNat := by positivity
  rw [← mul_le_mul_iff_left₀ pos, scaled_units]
  exact_mod_cast Iff.rfl

/-- A point of a grid between the ends of the interval. -/
theorem holds_of_lt {n : Nat} {e : Int}
    (low : (r.inUnitsOf e).low < n * (r.inUnitsOf e).unit)
    (high : n * (r.inUnitsOf e).unit < (r.inUnitsOf e).high) : r.Holds (n * 10 ^ e) := by
  have low := not_le.mp (units_le_iff.not.mp (not_le.mpr low))
  have high := not_le.mp (le_units_iff.not.mp (not_le.mpr high))
  exact ⟨low.le, high.le, fun _ => ⟨low, high⟩⟩

theorem holds_of_contains {n : Nat} {e : Int} (h : (r.inUnitsOf e).contains n = true) :
    r.Holds (n * 10 ^ e) := by
  have same : (r.inUnitsOf e).closed = r.closed := rfl
  cases closed : r.closed with
  | true =>
      simp only [contains, same, closed, if_true, Bool.and_eq_true, decide_eq_true_eq] at h
      exact ⟨le_units_iff.mp h.1, units_le_iff.mp h.2, by simp [closed]⟩
  | false =>
      simp only [contains, same, closed, Bool.false_eq_true, if_false, Bool.and_eq_true,
        decide_eq_true_eq] at h
      exact holds_of_lt h.1 h.2

/-- The interval reaches so far to both sides that every grid of seventeen digits has a point
in it. -/
structure IsWide (r : Rounding) : Prop where
  low : r.value ≤ 2 ^ 54 * (r.value - r.low)
  high : r.value ≤ 2 ^ 54 * (r.high - r.value)

theorem IsWide.inUnitsOf (wide : r.IsWide) (e : Int) : (r.inUnitsOf e).IsWide where
  low := by
    have low := Nat.mul_le_mul_right (Nat.pow 10 (-e).toNat) wide.low
    rwa [Nat.mul_assoc, Nat.sub_mul] at low
  high := by
    have high := Nat.mul_le_mul_right (Nat.pow 10 (-e).toNat) wide.high
    rwa [Nat.mul_assoc, Nat.sub_mul] at high

/-- If a double has seventeen digits before the point, the nearest whole number lies in its
interval. -/
theorem nearest_inside (wide : r.IsWide) (pos : 0 < r.unit) (digits : 10 ^ 16 ≤ r.floor) :
    r.low < r.nearest * r.unit ∧ r.nearest * r.unit < r.high := by
  obtain ⟨above, below⟩ := nearest_bounds pos
  obtain ⟨low, high⟩ := wide
  rw [floor, Nat.le_div_iff_mul_le pos] at digits
  rw [Nat.add_mul, Nat.one_mul] at above
  rw [Nat.mul_assoc] at above below
  -- The products are as good as variables from here on.
  generalize r.nearest * r.unit = point at above below ⊢
  omega

/-- On a grid of seventeen digits the nearest point lies in the interval. -/
theorem holds_nearest (large : r.IsLarge 400) (wide : r.IsWide) {e : Int}
    (h : e + 16 ≤ r.leadingExponent) : r.Holds ((r.inUnitsOf e).nearest * 10 ^ e) := by
  have pos : 0 < (r.inUnitsOf e).unit := Nat.mul_pos large.1 (Nat.pow_pos (by decide))
  have digits := ten_pow_le_floor (k := 16) large h
  obtain ⟨low, high⟩ := nearest_inside (wide.inUnitsOf e) pos digits
  exact holds_of_lt low high

/-- What the search finds lies in the interval, by induction on the number of grids that are
left. -/
theorem holds_search (large : r.IsLarge 400) (wide : r.IsWide) (more : Nat) {e : Int}
    (h : e + 16 ≤ r.leadingExponent + more) : r.Holds (r.search more e).value := by
  induction more generalizing e with
  | zero => exact holds_nearest large wide (by simpa using h)
  | succ more ih =>
      simp only [search]
      split
      · next n found => exact holds_of_contains (contains_of_neighbour found)
      · exact ih (by push_cast at h; omega)

end Rounding

end SchoolDesk.Decimal

namespace SchoolDesk.Double

open Decimal

/-! ## The interval of a double in whole numbers -/

/-- The interval of a double. -/
def rounding (x : Float) : Rounding := .ofFields (fractionField x) (exponentField x)

/-- How many quarters of a step the interval reaches down. -/
def quarters (x : Float) : Nat := if fractionField x = 0 ∧ 1 < exponentField x then 1 else 2

variable {x : Float}

theorem below_eq (x : Float) : below (mantissa x) (scale x) = quarters x / 2 * 2 ^ scale x := by
  have hf : fractionField x < 2 ^ 52 := Nat.mod_lt _ (by decide)
  have border : (mantissa x = 2 ^ 52 ∧ scale x ≠ -1074) ↔
      (fractionField x = 0 ∧ 1 < exponentField x) := by
    unfold mantissa scale
    split_ifs <;> omega
  unfold below quarters
  simp only [border]
  split_ifs <;> push_cast <;> ring

theorem quarters_le (some : 0 < mantissa x) : quarters x ≤ 4 * mantissa x := by
  unfold quarters
  split_ifs <;> omega

/-- What scales the ends of the interval and the double. -/
def factor (x : Float) : Nat := Nat.pow 2 (max (exponentField x) 1 - 1077)

theorem isWide (finite : x.isFinite = true) (some : 0 < mantissa x) : (rounding x).IsWide := by
  have small := (isBinary finite).small
  have reach : 4 * mantissa x ≤ 2 ^ 54 * quarters x ∧ quarters x ≤ 2 := by
    unfold mantissa quarters at *
    split_ifs at * <;> omega
  constructor
  · have room : (rounding x).value - (rounding x).low = quarters x * factor x := by
      show 4 * mantissa x * factor x - (4 * mantissa x - quarters x) * factor x = _
      rw [← Nat.sub_mul, Nat.sub_sub_self (quarters_le some)]
    rw [room, ← Nat.mul_assoc]
    exact Nat.mul_le_mul_right (factor x) reach.1
  · have room : (rounding x).high - (rounding x).value = 2 * factor x := by
      show (4 * mantissa x + 2) * factor x - 4 * mantissa x * factor x = _
      rw [← Nat.sub_mul, Nat.add_sub_cancel_left]
    have reach : 4 * mantissa x ≤ 2 ^ 54 * 2 := by omega
    rw [room, ← Nat.mul_assoc]
    exact Nat.mul_le_mul_right (factor x) reach

theorem unit_pos (x : Float) : (0 : ℚ) < (rounding x).unit := by
  exact_mod_cast Nat.two_pow_pos (1077 - max (exponentField x) 1)

theorem four_mul_factor (x : Float) : (4 * factor x : ℚ) = 2 ^ scale x * (rounding x).unit := by
  have power : (factor x : ℚ) = 2 ^ (max (exponentField x) 1 - 1077) := Nat.cast_pow 2 _
  have unit : ((rounding x).unit : ℚ) = 2 ^ (1077 - max (exponentField x) 1) := Nat.cast_pow 2 _
  have four : (4 : ℚ) = 2 ^ (2 : ℤ) := by norm_num
  rw [power, unit, four, ← zpow_natCast, ← zpow_natCast, ← zpow_add₀ (by norm_num),
    ← zpow_add₀ (by norm_num)]
  congr 1
  unfold scale
  omega

theorem low_rounding (some : 0 < mantissa x) : ((rounding x).low : ℚ) =
    (mantissa x * 2 ^ scale x - below (mantissa x) (scale x) / 2) * (rounding x).unit := by
  have form : ((rounding x).low : ℚ) = (4 * mantissa x - quarters x) * factor x := by
    show (((4 * mantissa x - quarters x) * factor x : Nat) : ℚ) = _
    push_cast [quarters_le some]
    rfl
  rw [form, below_eq]
  linear_combination (mantissa x - quarters x / 4 : ℚ) * four_mul_factor x

theorem high_rounding (x : Float) : ((rounding x).high : ℚ) =
    (mantissa x * 2 ^ scale x + 2 ^ scale x / 2) * (rounding x).unit := by
  have form : ((rounding x).high : ℚ) = (4 * mantissa x + 2) * factor x := by
    show (((4 * mantissa x + 2) * factor x : Nat) : ℚ) = _
    push_cast
    rfl
  rw [form]
  linear_combination (mantissa x + 1 / 2 : ℚ) * four_mul_factor x

/-- The ends of the interval are the middles between a double and the next ones. -/
theorem isNear_of_holds (some : 0 < mantissa x) {q : ℚ} (h : (rounding x).Holds q) :
    IsNear (mantissa x) (scale x) q := by
  obtain ⟨low, high, inside⟩ := h
  rw [low_rounding some] at low inside
  rw [high_rounding] at high inside
  have unit := unit_pos x
  refine ⟨le_of_mul_le_mul_right low unit, le_of_mul_le_mul_right high unit, fun odd => ?_⟩
  have isOpen : (rounding x).closed = false := decide_eq_false fun even : mantissa x % 2 = 0 => by
    omega
  exact ⟨lt_of_mul_lt_mul_right (inside isOpen).1 unit.le,
    lt_of_mul_lt_mul_right (inside isOpen).2 unit.le⟩

end SchoolDesk.Double

namespace SchoolDesk.Decimal

open Double

/-- The shortest decimal of a double is rounded to the double. -/
theorem roundsTo_ofFloat {x : Float} (finite : x.isFinite = true) :
    RoundsTo (unit x * (ofFloat x).value) x := by
  have fields : fractionField x = 0 ∧ exponentField x = 0 ↔ mantissa x = 0 := by
    unfold mantissa
    split_ifs <;> omega
  have form : ofFloat x = if fractionField x = 0 ∧ exponentField x = 0 then ⟨0, 0⟩ else
      ((rounding x).search 16 (rounding x).leadingExponent).trim := rfl
  rw [form]
  by_cases none : mantissa x = 0
  · rw [if_pos (fields.mpr none)]
    simpa [value] using roundsTo_zero finite none
  · rw [if_neg (fields.not.mpr none), value_trim]
    have some := Nat.pos_of_ne_zero none
    have large := Rounding.isLarge_ofFields (k := 400) (fields.not.mpr none) (by decide)
    have near := Rounding.holds_search large (isWide finite some) 16 (Int.le_refl _)
    exact (isNear_of_holds some near).roundsTo finite some

end SchoolDesk.Decimal
