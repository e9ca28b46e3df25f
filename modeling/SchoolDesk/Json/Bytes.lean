import SchoolDesk.Json.Fault

/-!
# Bytes of a JSON text

Readers work on bytes, since a request may hold any.  A reader takes the bytes
from some point on and gives back what it read and the bytes that are left, or
why and where it stopped.

`dropBlanks_length` and `dropWord_length` say that no reader here gives back more
than it was given.
-/

namespace SchoolDesk.Json

/-- A byte between tokens that has no meaning. -/
def isBlankByte (b : UInt8) : Bool := b == 0x20 || b == 0x09 || b == 0x0A || b == 0x0D

/-- The bytes from the first on that is no blank. -/
def dropBlanks (s : Bytes) : Bytes := s.dropWhile isBlankByte

/-- The bytes from the first on that is no digit. -/
def dropDigits (s : Bytes) : Bytes := s.dropWhile Byte.isDigit

/-- The bytes after a word that must come next. -/
def dropWord : Bytes → Bytes → Except Stop Bytes
  | [], s => .ok s
  | _ :: _, [] => .error (.before [] .endInValue)
  | w :: word, b :: s => if b = w then dropWord word s else .error (.before s .expectedIdent)
termination_by structural word => word

theorem dropBlanks_length (s : Bytes) : (dropBlanks s).length ≤ s.length :=
  (List.dropWhile_sublist _).length_le

theorem dropDigits_length (s : Bytes) : (dropDigits s).length ≤ s.length :=
  (List.dropWhile_sublist _).length_le

theorem dropWord_length {word s r : Bytes} (h : dropWord word s = .ok r) :
    r.length ≤ s.length := by
  induction word generalizing s with
  | nil => simp [dropWord] at h; simp [h]
  | cons w word ih =>
    cases s with
    | nil => simp [dropWord] at h
    | cons b s =>
      simp only [dropWord] at h
      split at h
      · have := ih h
        simp only [List.length_cons]
        omega
      · cases h

end SchoolDesk.Json
