import SchoolDesk.Decimal.Shortest

/-!
# Writing decimals

A decimal is written plainly, with a point between its digits, or with an
exponent.  Which of the two is a matter of the format and depends on the
exponent of the first digit.  A `Layout` holds what a format decides.

Plainly written numbers always have a fraction part, so a whole number ends in
a point and a zero.
-/

namespace SchoolDesk.Decimal

/-- What a format decides about its decimals. -/
structure Layout where
  /-- The least exponent of the first digit that is written plainly. -/
  plainFrom : Int
  /-- The greatest exponent of the first digit that is written plainly. -/
  plainTo : Int
  /-- What stands between whole and fraction part. -/
  point : Char := '.'
  /-- What stands before an exponent. -/
  mark : Char := 'e'
  /-- What stands before the size of an exponent that is not negative. -/
  plus : List Char := ['+']

namespace Layout

/-- Digits with a point after the first `whole` of them, and zeros where the
digits do not reach. -/
def plain (l : Layout) (digits : List Char) (whole : Int) : List Char :=
  if whole ≤ 0 then
    '0' :: l.point :: List.replicate (-whole).toNat '0' ++ digits
  else
    let n := whole.toNat
    if digits.length ≤ n then
      digits ++ List.replicate (n - digits.length) '0' ++ [l.point, '0']
    else digits.take n ++ l.point :: digits.drop n

/-- Digits with a point after the first, and an exponent. -/
def scientific (l : Layout) (digits : List Char) (exponent : Int) : List Char :=
  let fraction := if digits.length ≤ 1 then [] else l.point :: digits.drop 1
  let sign := if exponent < 0 then ['-'] else l.plus
  digits.take 1 ++ fraction ++ l.mark :: sign ++ Nat.toDigits 10 exponent.natAbs

/-- The text of a decimal that is not negative. -/
def write (l : Layout) (d : Decimal) : List Char :=
  let digits := Nat.toDigits 10 d.digits
  let exponent := d.exponent + digits.length - 1
  if l.plainFrom ≤ exponent ∧ exponent ≤ l.plainTo then l.plain digits (exponent + 1)
  else l.scientific digits exponent

/-- The text of a finite double, with the sign of a negative zero. -/
def writeFloat (l : Layout) (x : Float) : List Char :=
  let size := l.write (ofFloat x)
  if isNegative x then '-' :: size else size

end Layout

end SchoolDesk.Decimal
