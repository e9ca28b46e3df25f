/-!
# Shortest decimals

A finite double stands for every real number that rounds to it.  These numbers
form an interval around the double, and its two ends belong to it if the
mantissa is even.  The *shortest decimal* of a double is the decimal with the
fewest digits in the interval.  Of two with the same number of digits it is the
one nearer to the double, and of two equally near ones the one whose last digit
is even.

The decimals with `n` digits near a double form a grid.  If a point of the grid
lies in the interval, then so does one of the two points next to the double.  So
the search looks at the two neighbours of the double on the grids of one digit,
two digits and so on, in whole-number arithmetic.  Seventeen digits always
suffice.
-/

namespace SchoolDesk

/-- The number `digits · 10 ^ exponent`. -/
structure Decimal where
  digits : Nat
  exponent : Int
deriving DecidableEq, Repr, Inhabited

namespace Decimal

/-- The same number without zeros at the end of its digits. -/
def trim (d : Decimal) : Decimal :=
  if h : d.digits ≠ 0 ∧ d.digits % 10 = 0 then
    trim ⟨d.digits / 10, d.exponent + 1⟩
  else d
termination_by d.digits
decreasing_by omega

/-- The positive numbers that round to a double, as fractions with one
denominator. -/
structure Rounding where
  /-- The numerator of the lower end. -/
  low : Nat
  /-- The numerator of the double. -/
  value : Nat
  /-- The numerator of the upper end. -/
  high : Nat
  /-- The denominator. -/
  unit : Nat
  /-- The two ends belong to the interval. -/
  closed : Bool

/-- The interval of a positive double, from its fraction and exponent fields.
Below a power of two the doubles lie closer, so the lower end is nearer there. -/
def Rounding.ofFields (fraction exponent : Nat) : Rounding :=
  let mantissa := if exponent = 0 then fraction else Nat.pow 2 52 + fraction
  let below := if fraction = 0 ∧ 1 < exponent then 1 else 2
  let steps := max exponent 1
  let scale := Nat.pow 2 (steps - 1077)
  { low := (4 * mantissa - below) * scale
    value := 4 * mantissa * scale
    high := (4 * mantissa + 2) * scale
    unit := Nat.pow 2 (1077 - steps)
    closed := mantissa % 2 = 0 }

namespace Rounding

/-- The same interval in units of `10 ^ e`. -/
def inUnitsOf (r : Rounding) (e : Int) : Rounding :=
  let up := Nat.pow 10 (-e).toNat
  { r with low := r.low * up, value := r.value * up, high := r.high * up
           unit := r.unit * Nat.pow 10 e.toNat }

/-- A whole number of units lies in the interval. -/
def contains (r : Rounding) (n : Nat) : Bool :=
  if r.closed then r.low ≤ n * r.unit && n * r.unit ≤ r.high
  else r.low < n * r.unit && n * r.unit < r.high

/-- The whole number of units below the double, or at it. -/
def floor (r : Rounding) : Nat := r.value / r.unit

/-- The whole number of units nearest to the double, the even one of two. -/
def nearest (r : Rounding) : Nat :=
  let n := r.floor
  match compare (2 * r.value) ((2 * n + 1) * r.unit) with
  | .lt => n
  | .eq => n + n % 2
  | .gt => n + 1

/-- The neighbour of the double on the grid of whole units that lies in the
interval, the nearer of two. -/
def neighbour? (r : Rounding) : Option Nat :=
  let n := r.floor
  match r.contains n, r.contains (n + 1) with
  | true, true => some r.nearest
  | true, false => some n
  | false, true => some (n + 1)
  | false, false => none

/-- The exponent of the first digit of the double.  No double is so small that
its product with `10 ^ 400` is below one. -/
def leadingExponent (r : Rounding) : Int :=
  ((Nat.toDigits 10 (r.value * Nat.pow 10 400 / r.unit)).length : Int) - 401

/-- Looks on the grid of units `10 ^ e`, and on `more` finer grids after it. -/
def search (r : Rounding) : Nat → Int → Decimal
  | 0, e => ⟨(r.inUnitsOf e).nearest, e⟩
  | more + 1, e =>
      match (r.inUnitsOf e).neighbour? with
      | some n => ⟨n, e⟩
      | none => search r more (e - 1)

end Rounding

/-- The shortest decimal of the size of a finite double. -/
def ofFloat (x : Float) : Decimal :=
  let bits := x.toBits.toNat
  let fraction := bits % Nat.pow 2 52
  let exponent := bits / Nat.pow 2 52 % Nat.pow 2 11
  if fraction = 0 ∧ exponent = 0 then ⟨0, 0⟩
  else
    let r := Rounding.ofFields fraction exponent
    (r.search 16 r.leadingExponent).trim

end Decimal

/-- A double has its sign bit set. -/
def isNegative (x : Float) : Bool := Nat.pow 2 63 ≤ x.toBits.toNat

end SchoolDesk
