import SchoolDesk.Decimal.Double
import SchoolDesk.Json.Spelling

/-!
# What the numbers of a JSON text stand for

A number of a JSON text stands for a rational number: its digits, without the point, scaled by
a power of ten.  The exponent, less the number of digits behind the point, says which power.
No digit is lost, unlike for a reader that puts the number into a double while it reads.

A number denotes a double if the double is what it is rounded to, and has its sign, which
matters for zero.
-/

namespace SchoolDesk.Json

namespace Number

/-- The whole number that digits spell. -/
def numeral (ds : Bytes) : Nat := ds.foldl (fun n b => 10 * n + Byte.digitValue b) 0

/-- The digits behind a point, if there is one. -/
def fractionDigits (s : Bytes) : Bytes :=
  if s.head? = some (Byte.of '.') then (s.drop 1).takeWhile Byte.isDigit else []

/-- What comes after a point and its digits. -/
def afterFraction (s : Bytes) : Bytes :=
  if s.head? = some (Byte.of '.') then dropDigits (s.drop 1) else s

/-- The exponent behind a mark, and zero if there is no mark. -/
def writtenExponent (s : Bytes) : Int :=
  if s.head?.any isMark then
    let (down, ds) := takeSign (s.drop 1)
    if down then -numeral ds else numeral ds
  else 0

/-- The size of a number without a sign. -/
def size (s : Bytes) : ℚ :=
  let rest := dropDigits s
  let fraction := fractionDigits rest
  numeral (s.takeWhile Byte.isDigit ++ fraction) *
    10 ^ (writtenExponent (afterFraction rest) - fraction.length)

/-- The rational number for which a number stands. -/
def exact (s : Bytes) : ℚ := if s.head? = some (Byte.of '-') then -size (s.drop 1) else size s

end Number

/-- A number that is read back as a double. -/
structure Denotes (s : Bytes) (x : Float) : Prop where
  form : IsNumber s
  sign : s.head? = some (Byte.of '-') ↔ 2 ^ 63 ≤ x.toBits.toNat
  rounds : Double.RoundsTo (Number.exact s) x

end SchoolDesk.Json
