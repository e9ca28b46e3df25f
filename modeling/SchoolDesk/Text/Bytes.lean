/-!
# Bytes

What comes from outside is a list of bytes, since nothing says that it is a text.
Most formats of the service give a meaning to the bytes of ASCII characters and
none to the others, so the classes and digits here are those of ASCII.
-/

namespace SchoolDesk

/-- What comes from outside, or is left of it. -/
abbrev Bytes := List UInt8

namespace Byte

/-- The byte of an ASCII character. -/
abbrev of (c : Char) : UInt8 := UInt8.ofNat c.toNat

/-- The ASCII character of a byte. -/
def toChar (b : UInt8) : Char := Char.ofNat b.toNat

/-- The text of ASCII bytes. -/
def text (s : Bytes) : String := String.ofList (s.map toChar)

/-- The byte of an ASCII digit. -/
def isDigit (b : UInt8) : Bool := 0x30 ≤ b && b ≤ 0x39

/-- The byte of an ASCII capital letter. -/
def isCapital (b : UInt8) : Bool := 0x41 ≤ b && b ≤ 0x5A

/-- The byte of an ASCII small letter. -/
def isSmall (b : UInt8) : Bool := 0x61 ≤ b && b ≤ 0x7A

/-- The byte of a space or a tab. -/
def isBlank (b : UInt8) : Bool := b == 0x20 || b == 0x09

/-- The byte of a visible ASCII character, a space or a tab. -/
def isVisible (b : UInt8) : Bool := (0x20 ≤ b && b ≤ 0x7E) || b == 0x09

/-- The byte of an ASCII letter or digit. -/
def isAlphanumeric (b : UInt8) : Bool := isDigit b || isCapital b || isSmall b

/-- The byte of the small letter, if it is that of a capital one. -/
def toSmall (b : UInt8) : UInt8 := if isCapital b then b + 0x20 else b

/-- The number of an ASCII digit. -/
def digitValue (b : UInt8) : Nat := b.toNat - 0x30

/-- The number of a hexadecimal digit of either case. -/
def hexValue? (b : UInt8) : Option Nat :=
  if isDigit b then some (digitValue b)
  else if 0x61 ≤ b && b ≤ 0x66 then some (b.toNat - 0x57)
  else if 0x41 ≤ b && b ≤ 0x46 then some (b.toNat - 0x37)
  else none

/-- The byte of a hexadecimal digit, with capital letters. -/
def hexDigit (n : Nat) : UInt8 :=
  if n < 10 then UInt8.ofNat (0x30 + n) else UInt8.ofNat (0x37 + n)

theorem hexValue?_hexDigit {n : Nat} (h : n < 16) : hexValue? (hexDigit n) = some n := by
  have digits : ∀ i : Fin 16, hexValue? (hexDigit i.val) = some i.val := by decide
  exact digits ⟨n, h⟩

end Byte

end SchoolDesk
