/-!
# Blank characters

A character is *blank* if it belongs to the Unicode property White_Space.  The
property has twenty-five members: five controls, the space, and the separators
of general category Z.  Characters of no width that are not in the property,
such as U+200B and U+FEFF, are not blank, and neither are the information
separators U+001C to U+001F.

`strip` removes every blank of a text, wherever it stands, and `trim` those around
it.
-/

namespace SchoolDesk.Text

/-- The ranges of the property White_Space, ends included, in ascending order. -/
def blankRanges : List (Nat × Nat) :=
  [(0x0009, 0x000D), (0x0020, 0x0020), (0x0085, 0x0085), (0x00A0, 0x00A0), (0x1680, 0x1680),
   (0x2000, 0x200A), (0x2028, 0x2029), (0x202F, 0x202F), (0x205F, 0x205F), (0x3000, 0x3000)]

/-- A character of the property White_Space. -/
def isBlank (c : Char) : Bool :=
  blankRanges.any fun r => r.1 ≤ c.toNat && c.toNat ≤ r.2

/-- A text without its blanks. -/
def strip (s : List Char) : List Char := s.filter fun c => !isBlank c

/-- A text without the blanks in front. -/
def trimStart (s : List Char) : List Char := s.dropWhile isBlank

/-- A text without the blanks around it. -/
def trim (s : List Char) : List Char := (trimStart (trimStart s).reverse).reverse

@[simp] theorem strip_nil : strip [] = [] := rfl

@[simp] theorem strip_append (s t : List Char) : strip (s ++ t) = strip s ++ strip t := by
  simp [strip]

end SchoolDesk.Text
