import SchoolDesk.Text.Bytes

/-!
# Percent encoding

A percent sign with two hexadecimal digits stands for the byte whose number the
digits spell.  A percent sign without two such digits stands for itself.

`encode` writes every byte in this way except those of a class that is kept.
`decode_encode_append` says that decoding gives the bytes back, whatever follows
them, if percent signs are not kept.
-/

namespace SchoolDesk.Web.Percent

/-- The byte of the percent sign. -/
def sign : UInt8 := Byte.of '%'

/-- The byte that two hexadecimal digits spell. -/
def pair? (high low : UInt8) : Option UInt8 :=
  match Byte.hexValue? high, Byte.hexValue? low with
  | some h, some l => some (UInt8.ofNat (16 * h + l))
  | _, _ => none

/-- The bytes for which some bytes stand. -/
def decode : Bytes → Bytes
  | [] => []
  | [b] => [b]
  | [b, c] => [b, c]
  | b :: high :: low :: s =>
      match if b = sign then pair? high low else none with
      | some byte => byte :: decode s
      | none => b :: decode (high :: low :: s)
termination_by structural s => s

/-- A percent sign and two digits. -/
def encodeByte (b : UInt8) : Bytes :=
  [sign, Byte.hexDigit (b.toNat / 16), Byte.hexDigit (b.toNat % 16)]

/-- Bytes in percent encoding, those of a class excepted. -/
def encode (keeps : UInt8 → Bool) (s : Bytes) : Bytes :=
  s.flatMap fun b => if keeps b then [b] else encodeByte b

/-- The bytes that are kept in a segment of a path: letters, digits and four
signs. -/
def isUnreserved (b : UInt8) : Bool :=
  Byte.isAlphanumeric b || b == Byte.of '-' || b == Byte.of '.' || b == Byte.of '_' ||
    b == Byte.of '~'

/-! ## Decoding what was encoded -/

theorem pair?_hexDigit (b : UInt8) :
    pair? (Byte.hexDigit (b.toNat / 16)) (Byte.hexDigit (b.toNat % 16)) = some b := by
  have h := b.toNat_lt
  rw [pair?, Byte.hexValue?_hexDigit (by omega), Byte.hexValue?_hexDigit (by omega)]
  simp only [Option.some.injEq]
  rw [show 16 * (b.toNat / 16) + b.toNat % 16 = b.toNat by omega, UInt8.ofNat_toNat]

theorem decode_cons_of_ne {b : UInt8} (h : b ≠ sign) (s : Bytes) :
    decode (b :: s) = b :: decode s := by
  match s with
  | [] => rfl
  | [_] => rfl
  | _ :: _ :: _ => simp [decode, h]

theorem decode_encodeByte_append (b : UInt8) (t : Bytes) :
    decode (encodeByte b ++ t) = b :: decode t := by
  simp [encodeByte, decode, pair?_hexDigit]

theorem decode_encode_append {keeps : UInt8 → Bool} (h : keeps sign = false) (s t : Bytes) :
    decode (encode keeps s ++ t) = s ++ decode t := by
  induction s with
  | nil => rfl
  | cons b s ih =>
    simp only [encode, List.flatMap_cons, List.append_assoc, List.cons_append] at ih ⊢
    split
    · rename_i hb
      have hne : b ≠ sign := fun e => by rw [e, h] at hb; cases hb
      rw [List.cons_append, List.nil_append, decode_cons_of_ne hne, ih]
    · rw [decode_encodeByte_append, ih]

theorem decode_encode {keeps : UInt8 → Bool} (h : keeps sign = false) (s : Bytes) :
    decode (encode keeps s) = s := by
  simpa [decode] using decode_encode_append h s []

theorem isAlphanumeric_hexDigit {n : Nat} (h : n < 16) :
    Byte.isAlphanumeric (Byte.hexDigit n) = true := by
  have digits : ∀ i : Fin 16, Byte.isAlphanumeric (Byte.hexDigit i.val) = true := by decide
  exact digits ⟨n, h⟩

/-- Encoded bytes are kept bytes, percent signs, letters and digits. -/
theorem mem_encode {keeps : UInt8 → Bool} {s : Bytes} {b : UInt8} (h : b ∈ encode keeps s) :
    keeps b = true ∨ b = sign ∨ Byte.isAlphanumeric b = true := by
  simp only [encode, List.mem_flatMap] at h
  obtain ⟨c, -, h⟩ := h
  split at h
  · rename_i hc
    simp only [List.mem_singleton] at h
    exact Or.inl (h ▸ hc)
  · have hc := c.toNat_lt
    simp only [encodeByte, List.mem_cons, List.not_mem_nil, or_false] at h
    rcases h with h | h | h
    · exact Or.inr (Or.inl h)
    · exact Or.inr (Or.inr (h ▸ isAlphanumeric_hexDigit (by omega)))
    · exact Or.inr (Or.inr (h ▸ isAlphanumeric_hexDigit (by omega)))

end SchoolDesk.Web.Percent
