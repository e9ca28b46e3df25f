/-!
# Number literals

A *literal word* is a run of ASCII digits and dots.  It is a number if it has at
least one digit and at most one dot, so `1.` and `.5` are numbers while `.` and
`1.2.3` are not.  The digits before and after the dot form one whole number, and
the digits after the dot count its decimal places.  `Float.ofScientific` turns
that pair into the nearest double, ties to even, however long the word is.

`value?_isSome` states which words are numbers.
-/

namespace SchoolDesk.Expression.Literal

/-- A character of a literal word. -/
def isWordChar (c : Char) : Bool := c.isDigit || c == '.'

/-- The number that a run of digits spells.  Characters that are no digits are
passed over. -/
def wholeNumber (word : List Char) : Nat :=
  (word.filter Char.isDigit).foldl (fun n c => 10 * n + (c.toNat - '0'.toNat)) 0

/-- The number of digits after the first dot. -/
def decimalPlaces (word : List Char) : Nat :=
  (word.dropWhile (· != '.')).countP Char.isDigit

/-- A word with a digit and with no second dot. -/
def isNumber (word : List Char) : Bool :=
  word.any Char.isDigit && word.count '.' ≤ 1

/-- The double nearest to the number that a word spells. -/
def value? (word : List Char) : Option Float :=
  if isNumber word then some (Float.ofScientific (wholeNumber word) true (decimalPlaces word))
  else none

@[simp] theorem value?_isSome (word : List Char) : (value? word).isSome = isNumber word := by
  unfold value?
  split <;> simp_all

end SchoolDesk.Expression.Literal
