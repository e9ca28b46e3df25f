import SchoolDesk.Text.Bytes

/-!
# UTF-8

Texts travel as bytes.  `encode` writes the characters of a text one after the
other, and `decode?` reads bytes that are such a text and refuses all others.

`decodeLossy` reads any bytes.  Bytes that are no UTF-8 are cut into the longest
pieces that could begin a character, and each piece becomes one replacement
character U+FFFD.  The machine that does so takes one byte at a time.  Between
bytes it knows the ranges in which the bytes still owed to the current character
must lie, and the number read so far.
-/

namespace SchoolDesk.Text.Utf8

/-- The bytes of a text. -/
def encode (s : String) : Bytes := s.toList.flatMap String.utf8EncodeChar

/-- The text that bytes spell, if they spell one. -/
def decode? (bytes : Bytes) : Option String := String.fromUTF8? bytes.toByteArray

/-! ## Reading any bytes -/

/-- The character that stands for bytes that are no character. -/
def replacement : Char := '\uFFFD'

/-- The state between two bytes. -/
structure Partway where
  /-- The ranges of the bytes still owed to the current character. -/
  owed : List (UInt8 × UInt8) := []
  /-- The bits of the current character read so far. -/
  bits : Nat := 0

/-- A byte that begins a character, or none. -/
def begin (b : UInt8) : List Char × Partway :=
  let more : UInt8 × UInt8 := (0x80, 0xBF)
  let bits := b.toNat
  if b < 0x80 then ([Char.ofNat bits], {})
  else if b < 0xC2 then ([replacement], {})
  else if b < 0xE0 then ([], ⟨[more], bits % 0x20⟩)
  else if b = 0xE0 then ([], ⟨[(0xA0, 0xBF), more], bits % 0x10⟩)
  else if b = 0xED then ([], ⟨[(0x80, 0x9F), more], bits % 0x10⟩)
  else if b < 0xF0 then ([], ⟨[more, more], bits % 0x10⟩)
  else if b = 0xF0 then ([], ⟨[(0x90, 0xBF), more, more], bits % 0x08⟩)
  else if b < 0xF4 then ([], ⟨[more, more, more], bits % 0x08⟩)
  else if b = 0xF4 then ([], ⟨[(0x80, 0x8F), more, more], bits % 0x08⟩)
  else ([replacement], {})

/-- One byte: the characters it completes, and the state after it.  A byte that
is not owed gives up the current character and begins anew. -/
def step (p : Partway) (b : UInt8) : List Char × Partway :=
  match p.owed with
  | [] => begin b
  | (lo, hi) :: owed =>
      if lo ≤ b && b ≤ hi then
        let bits := 0x40 * p.bits + b.toNat % 0x40
        if owed.isEmpty then ([Char.ofNat bits], {}) else ([], ⟨owed, bits⟩)
      else
        let (chars, next) := begin b
        (replacement :: chars, next)

/-- The characters of the bytes from a state on. -/
def repair (p : Partway) : Bytes → List Char
  | [] => if p.owed.isEmpty then [] else [replacement]
  | b :: bytes =>
      let (chars, next) := step p b
      chars ++ repair next bytes
termination_by structural bytes => bytes

/-- The text that bytes spell, with replacement characters where they spell
none. -/
def decodeLossy (bytes : Bytes) : String :=
  match decode? bytes with
  | some s => s
  | none => String.ofList (repair {} bytes)

theorem encode_append (s t : String) : encode (s ++ t) = encode s ++ encode t := by
  simp [encode]

theorem toByteArray_encode (s : String) : (encode s).toByteArray = s.toByteArray := by
  have h : s.toList.utf8Encode = s.toByteArray := by simp
  rw [← h]
  rfl

@[simp] theorem decode?_encode (s : String) : decode? (encode s) = some s := by
  have h : s.toByteArray.IsValidUTF8 := s.isValidUTF8
  simp only [decode?, toByteArray_encode, String.fromUTF8?, dif_pos h]
  rfl

@[simp] theorem decodeLossy_encode (s : String) : decodeLossy (encode s) = s := by
  simp [decodeLossy]

end SchoolDesk.Text.Utf8
