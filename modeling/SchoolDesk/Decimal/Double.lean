import SchoolDesk.Decimal.Shortest
import Mathlib.Algebra.Order.Field.Power
import Mathlib.Data.Rat.Cast.Order

/-!
# The numbers that doubles are

A finite double is a whole number below `2 ^ 53` that is scaled by a power of two, and a
decimal is a whole number that is scaled by a power of ten.  Both are rational numbers.

Whoever reads a decimal as a double takes the nearest one.  Halfway between two doubles this
is the one with the even whole number, and from the middle between the largest double and the
next power of two on there is none.  `RoundsTo` says this without a word about how the double
is found.
-/

namespace SchoolDesk

/-- The number that a decimal is. -/
def Decimal.value (d : Decimal) : ℚ := d.digits * 10 ^ d.exponent

namespace Double

/-- The whole number of a finite double. -/
def significand (x : Float) : Nat :=
  match x.toModel.unpack with
  | .finite _ m _ _ => m
  | _ => 0

/-- The number that a finite double is. -/
def exact (x : Float) : ℚ :=
  match x.toModel.unpack with
  | .finite sign m e _ => sign.apply m * 2 ^ e
  | _ => 0

/-- A number is rounded to a double. -/
structure RoundsTo (q : ℚ) (x : Float) : Prop where
  finite : x.isFinite = true
  inRange : |q| < 2 ^ 1024 - 2 ^ 970
  /-- No other double is nearer. -/
  nearest : ∀ y : Float, y.isFinite = true → |q - exact x| ≤ |q - exact y|
  /-- If another is as near, the double is the even one. -/
  even : ∀ y : Float, y.isFinite = true → exact y ≠ exact x →
    |q - exact y| = |q - exact x| → significand x % 2 = 0

end Double

end SchoolDesk
