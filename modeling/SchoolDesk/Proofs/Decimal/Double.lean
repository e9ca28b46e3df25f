import SchoolDesk.Decimal.Double
import Mathlib.Tactic.Linarith
import Mathlib.Tactic.Positivity
import Mathlib.Tactic.Ring

/-!
# Doubles and their neighbours

The bits of a double are its sign, a field for the exponent and a field for the fraction.
`unpack_eq` reads its parts off the fields, and `exact_eq` the number that it is.

Finite doubles do not lie anywhere.  Above one of them the next is a step away, and so is
the next below, or half a step if the double is a power of two (`gap`).  So a number that
is less than halfway to both is nearer to this double than to any other, and one that is just
halfway is as near to another (`IsNear.nearest`).  The number is then rounded to the double
(`IsNear.roundsTo`).
-/

namespace SchoolDesk.Double

open Float.Model (UnpackedFloat)

/-! ## Fields -/

/-- The field for the fraction. -/
def fractionField (x : Float) : Nat := x.toBits.toNat % 2 ^ 52

/-- The field for the exponent. -/
def exponentField (x : Float) : Nat := x.toBits.toNat / 2 ^ 52 % 2 ^ 11

/-- The whole number of a finite double, with its first bit, which has no place in the
fields. -/
def mantissa (x : Float) : Nat :=
  if exponentField x = 0 then fractionField x else 2 ^ 52 + fractionField x

/-- The power of two that scales it. -/
def scale (x : Float) : Int := (max (exponentField x) 1 : Nat) - 1075

/-- The sign of a double. -/
def sign (x : Float) : UnpackedFloat.Sign := if isNegative x then .negative else .positive

section

variable (x : Float)

theorem toNat_unpackMantissa :
    (@UnpackedFloat.unpackMantissa .binary64 x.toBits.toBitVec).toNat = fractionField x := by
  simp [UnpackedFloat.unpackMantissa, fractionField]

theorem toNat_unpackExponent :
    (@UnpackedFloat.unpackExponent .binary64 x.toBits.toBitVec).toNat = exponentField x := by
  simp [UnpackedFloat.unpackExponent, exponentField, Nat.shiftRight_eq_div_pow]

theorem ofBitVec_unpackSign : UnpackedFloat.Sign.ofBitVec
    (@UnpackedFloat.unpackSign .binary64 x.toBits.toBitVec) = sign x := by
  have bit : (@UnpackedFloat.unpackSign .binary64 x.toBits.toBitVec).toNat =
      x.toBits.toNat / 2 ^ 63 % 2 := by
    show (x.toBits.toBitVec.extractLsb 63 63).toNat = _
    simp [Nat.shiftRight_eq_div_pow]
  have plus : @UnpackedFloat.unpackSign .binary64 x.toBits.toBitVec = 0#1 ↔
      ¬ 2 ^ 63 ≤ x.toBits.toNat := by
    have size := x.toBits.toNat_lt
    rw [← BitVec.toNat_inj, bit, BitVec.toNat_ofNat]
    omega
  simp only [UnpackedFloat.Sign.ofBitVec, sign, isNegative, plus, ite_not, decide_eq_true_eq]
  rfl

theorem toNat_append_one (f : BitVec 52) : (1#1 ++ f).toNat = 2 ^ 52 + f.toNat := by
  rw [BitVec.toNat_append, ← Nat.shiftLeft_add_eq_or_of_lt f.isLt]
  rfl

/-- The proof that a whole number is positive does not matter. -/
theorem finite_congr {s : UnpackedFloat.Sign} {m m' : Nat} {e e' : Int} {h : 0 < m} {h' : 0 < m'}
    (hm : m = m') (he : e = e') : UnpackedFloat.finite s m e h = .finite s m' e' h' := by
  cases hm
  cases he
  rfl

/-- The parts of a double are what its fields say. -/
theorem unpack_eq : x.toModel.unpack =
    if exponentField x = 2047 then
      if fractionField x = 0 then .infinity (sign x) else .notANumber
    else if h : 0 < mantissa x then .finite (sign x) (mantissa x) (scale x) h
    else .zero (sign x) := by
  have hf := toNat_unpackMantissa x
  have he := toNat_unpackExponent x
  have noFraction : @UnpackedFloat.unpackMantissa .binary64 x.toBits.toBitVec = 0#52 ↔
      fractionField x = 0 := by
    rw [← hf, ← BitVec.toNat_inj]
    rfl
  have least : @UnpackedFloat.unpackExponent .binary64 x.toBits.toBitVec = 0#11 ↔
      exponentField x = 0 := by
    rw [← he, ← BitVec.toNat_inj]
    rfl
  have greatest : @UnpackedFloat.unpackExponent .binary64 x.toBits.toBitVec = -1#11 ↔
      exponentField x = 2047 := by
    rw [← he, ← BitVec.toNat_inj]
    rfl
  show UnpackedFloat.unpack .binary64 x.toBits.toBitVec = _
  delta UnpackedFloat.unpack
  dsimp only
  rw [ofBitVec_unpackSign]
  by_cases top : exponentField x = 2047
  · rw [if_pos (greatest.mpr top), if_pos top]
    simp only [noFraction]
  rw [if_neg (greatest.not.mpr top), if_neg top]
  by_cases bottom : exponentField x = 0
  · rw [if_pos (least.mpr bottom)]
    by_cases none : fractionField x = 0
    · rw [dif_pos (noFraction.mpr none), dif_neg (by simp [mantissa, bottom, none])]
    · have some : 0 < mantissa x := by simp [mantissa, bottom, Nat.pos_of_ne_zero none]
      rw [dif_neg (noFraction.not.mpr none), dif_pos some]
      refine finite_congr (by rw [hf, mantissa, if_pos bottom]) ?_
      rw [he]
      simp [scale, bottom, Float.Model.Format.exponentBias]
  · have many : max (exponentField x) 1 = exponentField x := by omega
    have some : 0 < mantissa x := by
      rw [mantissa, if_neg bottom]
      exact Nat.add_pos_left (Nat.two_pow_pos 52) _
    rw [if_neg (least.not.mpr bottom), dif_pos some]
    refine finite_congr (by rw [toNat_append_one, hf, mantissa, if_neg bottom]) ?_
    rw [he]
    simp [scale, many, Float.Model.Format.exponentBias]

end

theorem isFinite_iff {x : Float} : x.isFinite = true ↔ exponentField x ≠ 2047 := by
  show x.toModel.unpack.isFinite = true ↔ _
  rw [unpack_eq]
  by_cases top : exponentField x = 2047
  · rw [if_pos top]
    refine iff_of_false ?_ (not_not.mpr top)
    by_cases none : fractionField x = 0
    · rw [if_pos none]
      exact Bool.false_ne_true
    · rw [if_neg none]
      exact Bool.false_ne_true
  · rw [if_neg top]
    refine iff_of_true ?_ top
    by_cases some : 0 < mantissa x
    · rw [dif_pos some]
      rfl
    · rw [dif_neg some]
      rfl

/-- The sign of a double as a factor. -/
def unit (x : Float) : ℚ := if isNegative x then -1 else 1

theorem unit_cases (x : Float) : unit x = 1 ∨ unit x = -1 := by
  unfold unit
  split_ifs
  · exact .inr rfl
  · exact .inl rfl

theorem abs_unit_mul (x : Float) (q : ℚ) : |unit x * q| = |q| := by
  rcases unit_cases x with one | minus
  · rw [one, one_mul]
  · rw [minus, neg_one_mul, abs_neg]

theorem unit_mul_unit_mul (x : Float) (q : ℚ) : unit x * (unit x * q) = q := by
  rcases unit_cases x with one | minus
  · rw [one, one_mul, one_mul]
  · rw [minus, neg_one_mul, neg_one_mul, neg_neg]

/-- The number that a finite double is, by its fields. -/
theorem exact_eq {x : Float} (finite : x.isFinite = true) :
    exact x = unit x * (mantissa x * 2 ^ scale x) := by
  rw [exact, unpack_eq, if_neg (isFinite_iff.mp finite)]
  by_cases some : 0 < mantissa x
  · rw [dif_pos some]
    show ((sign x).apply (mantissa x) : ℚ) * 2 ^ scale x = _
    by_cases minus : isNegative x = true <;> simp [unit, sign, minus, UnpackedFloat.Sign.apply]
  · rw [dif_neg some]
    simp [Nat.eq_zero_of_not_pos some]

theorem significand_eq {x : Float} (finite : x.isFinite = true) : significand x = mantissa x := by
  rw [significand, unpack_eq, if_neg (isFinite_iff.mp finite)]
  by_cases some : 0 < mantissa x
  · rw [dif_pos some]
  · rw [dif_neg some]
    exact (Nat.eq_zero_of_not_pos some).symm

/-! ## Neighbours -/

/-- A whole number and the power of two that scales it, as finite doubles have them. -/
structure IsBinary (m : Nat) (e : Int) : Prop where
  small : m < 2 ^ 53
  least : -1074 ≤ e
  greatest : e ≤ 971
  normal : e = -1074 ∨ 2 ^ 52 ≤ m

theorem isBinary {x : Float} (finite : x.isFinite = true) : IsBinary (mantissa x) (scale x) := by
  have top := isFinite_iff.mp finite
  have hf : fractionField x < 2 ^ 52 := Nat.mod_lt _ (by decide)
  have he : exponentField x < 2 ^ 11 := Nat.mod_lt _ (by decide)
  have low : -1074 ≤ scale x := by unfold scale; omega
  have high : scale x ≤ 971 := by unfold scale; omega
  refine ⟨?_, low, high, ?_⟩
  · unfold mantissa
    split_ifs <;> omega
  · by_cases bottom : exponentField x = 0
    · exact .inl (by simp [scale, bottom])
    · rw [mantissa, if_neg bottom]
      exact .inr (Nat.le_add_right _ _)

/-- How far it is to the next double below. -/
def below (m : Nat) (e : Int) : ℚ := if m = 2 ^ 52 ∧ e ≠ -1074 then 2 ^ e / 2 else 2 ^ e

theorem below_le (m : Nat) (e : Int) : 0 < below m e ∧ below m e ≤ 2 ^ e := by
  have pos : (0 : ℚ) < 2 ^ e := by positivity
  unfold below
  split_ifs <;> constructor <;> linarith

/-- Between a double and the next ones below and above there is no other. -/
theorem gap {m m' : Nat} {e e' : Int} (h : IsBinary m e) (h' : IsBinary m' e') :
    (m' * 2 ^ e' : ℚ) = m * 2 ^ e ∨ (m' * 2 ^ e' : ℚ) ≤ m * 2 ^ e - below m e ∨
      (m * 2 ^ e + 2 ^ e : ℚ) ≤ m' * 2 ^ e' := by
  have pos : (0 : ℚ) < 2 ^ e := by positivity
  have near := (below_le m e).2
  obtain coarse | fine := le_or_gt e e'
  · -- The other is a multiple of the power that scales the first.
    obtain ⟨k, multiple⟩ : ∃ k : Nat, (m' * 2 ^ e' : ℚ) = k * 2 ^ e := by
      refine ⟨m' * 2 ^ (e' - e).toNat, ?_⟩
      have power : (2 : ℚ) ^ e' = 2 ^ (e' - e).toNat * 2 ^ e := by
        rw [← zpow_natCast, ← zpow_add₀ (by norm_num), Int.toNat_of_nonneg (by omega)]
        congr 1
        omega
      rw [power]
      push_cast
      ring
    rw [multiple]
    obtain less | same | more := lt_trichotomy k m
    · have step : (k : ℚ) + 1 ≤ m := by exact_mod_cast less
      have := mul_le_mul_of_nonneg_right step pos.le
      exact .inr (.inl (by linarith))
    · exact .inl (by rw [same])
    · have step : (m : ℚ) + 1 ≤ k := by exact_mod_cast more
      have := mul_le_mul_of_nonneg_right step pos.le
      exact .inr (.inr (by linarith))
  · -- The other is scaled by less, so it lies below the first power of two.
    have normal := h.normal.resolve_left (by have := h'.least; omega)
    have power : (2 : ℚ) ^ e' ≤ 2 ^ e / 2 := by
      have := zpow_le_zpow_right₀ (show (1 : ℚ) ≤ 2 by norm_num) (show e' ≤ e - 1 by omega)
      rwa [zpow_sub_one₀ (by norm_num), ← div_eq_mul_inv] at this
    have size : (m' : ℚ) ≤ 2 ^ 53 - 1 := by
      have next : (m' + 1 : ℚ) ≤ 2 ^ 53 := by exact_mod_cast h'.small
      linarith
    have bound : (m' * 2 ^ e' : ℚ) ≤ (2 ^ 53 - 1) * (2 ^ e / 2) := by
      apply mul_le_mul size power (by positivity) (by norm_num)
    refine .inr (.inl (bound.trans ?_))
    unfold below
    split_ifs with first
    · rw [first.1]
      push_cast
      linarith
    · have more : 2 ^ 52 + 1 ≤ m := by
        have := h'.least
        rcases normal.lt_or_eq with more | same
        · exact more
        · exact absurd ⟨same.symm, by omega⟩ first
      have more : (2 ^ 52 + 1 : ℚ) ≤ m := by exact_mod_cast more
      have := mul_le_mul_of_nonneg_right more pos.le
      linarith

/-! ## The interval of a double -/

/-- A number in the interval around a double, up to the middles between it and the next
ones.  An odd double does not have these middles. -/
structure IsNear (m : Nat) (e : Int) (q : ℚ) : Prop where
  low : m * 2 ^ e - below m e / 2 ≤ q
  high : q ≤ m * 2 ^ e + 2 ^ e / 2
  inside : m % 2 = 1 → m * 2 ^ e - below m e / 2 < q ∧ q < m * 2 ^ e + 2 ^ e / 2

section

variable {m : Nat} {e : Int} {q : ℚ}

/-- No double is nearer to such a number than the one it is around, and an odd double is
nearer than all others. -/
theorem IsNear.nearest {w : ℚ} (h : IsNear m e q)
    (other : w = m * 2 ^ e ∨ w ≤ m * 2 ^ e - below m e ∨ m * 2 ^ e + 2 ^ e ≤ w) :
    |q - m * 2 ^ e| ≤ |q - w| ∧
      (w ≠ m * 2 ^ e → |q - w| = |q - m * 2 ^ e| → m % 2 = 0) := by
  obtain ⟨low, high, inside⟩ := h
  have parity := Nat.mod_two_eq_zero_or_one m
  have pos := (below_le m e).1
  have power : (0 : ℚ) < 2 ^ e := by positivity
  rcases other with same | less | more
  · exact ⟨by rw [same], fun ne => absurd same ne⟩
  · have far := le_abs_self (q - w)
    refine ⟨(abs_le.mpr ⟨by linarith, by linarith⟩).trans far,
      fun _ tie => parity.resolve_right fun odd => ?_⟩
    obtain ⟨low, high⟩ := inside odd
    have nearer : |q - m * 2 ^ e| < q - w := abs_lt.mpr ⟨by linarith, by linarith⟩
    linarith
  · have far := neg_le_abs (q - w)
    refine ⟨(abs_le.mpr ⟨by linarith, by linarith⟩).trans far,
      fun _ tie => parity.resolve_right fun odd => ?_⟩
    obtain ⟨low, high⟩ := inside odd
    have nearer : |q - m * 2 ^ e| < -(q - w) := abs_lt.mpr ⟨by linarith, by linarith⟩
    linarith

/-- A double that is not zero is at least as large as the distance to the next one. -/
theorem below_le_value (some : 0 < m) : below m e ≤ m * 2 ^ e := by
  have one : (1 : ℚ) ≤ m := by exact_mod_cast some
  have power : (0 : ℚ) < 2 ^ e := by positivity
  have := mul_le_mul_of_nonneg_right one power.le
  linarith [(below_le m e).2]

/-- A number around a double is not too large to be rounded. -/
theorem IsNear.inRange (h : IsBinary m e) (near : IsNear m e q) (some : 0 < m) :
    |q| < 2 ^ 1024 - 2 ^ 970 := by
  have power : (0 : ℚ) < 2 ^ e := by positivity
  have largest : (2 ^ e : ℚ) ≤ 2 * 2 ^ 970 :=
    calc (2 ^ e : ℚ)
        ≤ 2 ^ (971 : ℤ) := zpow_le_zpow_right₀ (by norm_num) h.greatest
      _ = 2 * 2 ^ 970 := by rw [← pow_succ']; exact zpow_natCast 2 971
  have top : (2 ^ 1024 : ℚ) = 2 ^ 54 * 2 ^ 970 := by rw [← pow_add]
  have pos : 0 ≤ q := by linarith [near.low, below_le_value (e := e) some, (below_le m e).1]
  rw [abs_of_nonneg pos, top]
  have last := mul_le_mul_of_nonneg_left largest (show (0 : ℚ) ≤ 2 ^ 53 - 1 / 2 by norm_num)
  generalize (2 ^ 970 : ℚ) = half at last ⊢
  rcases Nat.mod_two_eq_zero_or_one m with even | odd
  · have size : (m : ℚ) + 2 ≤ 2 ^ 53 := by
      have small := h.small
      have : m + 2 ≤ 2 ^ 53 := by omega
      exact_mod_cast this
    have high := near.high
    have := mul_le_mul_of_nonneg_right size power.le
    linarith
  · have size : (m : ℚ) + 1 ≤ 2 ^ 53 := by exact_mod_cast h.small
    have high := (near.inside odd).2
    have := mul_le_mul_of_nonneg_right size power.le
    linarith

end

/-- Another double, with its sign turned as that of the first, is the first or is some way
from it. -/
theorem unit_mul_exact_cases {x y : Float} (hx : x.isFinite = true) (hy : y.isFinite = true)
    (some : 0 < mantissa x) :
    unit x * exact y = mantissa x * 2 ^ scale x ∨
      unit x * exact y ≤ mantissa x * 2 ^ scale x - below (mantissa x) (scale x) ∨
      mantissa x * 2 ^ scale x + 2 ^ scale x ≤ unit x * exact y := by
  have apart := gap (isBinary hx) (isBinary hy)
  have size : (0 : ℚ) ≤ mantissa y * 2 ^ scale y := by positivity
  have room := below_le_value (e := scale x) some
  rw [exact_eq hy, ← mul_assoc]
  have signs : unit x * unit y = 1 ∨ unit x * unit y = -1 := by
    rcases unit_cases x with hx | hx <;> rcases unit_cases y with hy | hy <;> simp [hx, hy]
  rcases signs with same | opposite
  · rw [same, one_mul]
    exact apart
  · rw [opposite, neg_one_mul]
    exact .inr (.inl (by linarith))

/-- A number around a double is rounded to this double. -/
theorem IsNear.roundsTo {x : Float} {q : ℚ} (finite : x.isFinite = true)
    (some : 0 < mantissa x) (near : IsNear (mantissa x) (scale x) q) :
    RoundsTo (unit x * q) x := by
  have distance (y : Float) : |unit x * q - exact y| = |q - unit x * exact y| := by
    rw [← abs_unit_mul x (q - _), mul_sub, unit_mul_unit_mul]
  have itself : unit x * exact x = mantissa x * 2 ^ scale x := by
    rw [exact_eq finite, unit_mul_unit_mul]
  refine ⟨finite, ?_, fun y hy => ?_, fun y hy ne tie => ?_⟩
  · rw [abs_unit_mul]
    exact near.inRange (isBinary finite) some
  · rw [distance, distance, itself]
    exact (near.nearest (unit_mul_exact_cases finite hy some)).1
  · rw [distance, distance, itself] at tie
    rw [significand_eq finite]
    refine (near.nearest (unit_mul_exact_cases finite hy some)).2 (fun same => ne ?_) tie
    rw [← unit_mul_unit_mul x (exact y), same, ← itself, unit_mul_unit_mul]

/-- A zero is rounded to a zero. -/
theorem roundsTo_zero {x : Float} (finite : x.isFinite = true) (none : mantissa x = 0) :
    RoundsTo 0 x := by
  have zero : exact x = 0 := by rw [exact_eq finite, none, Nat.cast_zero, zero_mul, mul_zero]
  refine ⟨finite, ?_, fun y hy => ?_, fun y hy ne tie => ?_⟩
  · rw [abs_zero, sub_pos]
    exact pow_lt_pow_right₀ (by norm_num) (by norm_num)
  · rw [zero, sub_zero, abs_zero]
    exact abs_nonneg _
  · rw [zero, sub_zero, abs_zero, abs_eq_zero, zero_sub, neg_eq_zero] at tie
    exact absurd (tie.trans zero.symm) ne

end SchoolDesk.Double
