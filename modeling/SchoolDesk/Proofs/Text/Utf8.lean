import SchoolDesk.Text.Utf8

/-!
# The bytes of characters

A character below U+0080 is one byte, which is its number.  All bytes of any other
character are 0x80 and above.  So the ASCII characters of a text can be told from its
bytes, and a text of visible ASCII characters is one whose bytes are all visible
(`all_isVisible_encode_iff`).
-/

namespace SchoolDesk.Text.Utf8

theorem utf8EncodeChar_of_lt {c : Char} (ascii : c.toNat < 0x80) :
    String.utf8EncodeChar c = [Byte.of c] := by
  have small : c.val.toNat ≤ 127 := Nat.le_of_lt_succ ascii
  simp only [String.utf8EncodeChar, small, ite_true]
  rfl

theorem toNat_of_lt {c : Char} (ascii : c.toNat < 0x80) : (Byte.of c).toNat = c.toNat := by
  simp only [UInt8.toNat_ofNat']
  omega

/-- No byte of a character that is not ASCII is that of an ASCII character. -/
theorem le_of_mem_utf8EncodeChar {c : Char} (other : 0x80 ≤ c.toNat) {b : UInt8}
    (h : b ∈ String.utf8EncodeChar c) : 0x80 ≤ b.toNat := by
  have large : ¬ c.val.toNat ≤ 127 := Nat.not_le_of_lt other
  simp only [String.utf8EncodeChar, large, ite_false] at h
  split at h
  · simp only [List.mem_cons, List.not_mem_nil, or_false] at h
    rcases h with rfl | rfl <;> simp only [UInt8.toNat_ofNat'] <;> omega
  · split at h
    · simp only [List.mem_cons, List.not_mem_nil, or_false] at h
      rcases h with rfl | rfl | rfl <;> simp only [UInt8.toNat_ofNat'] <;> omega
    · simp only [List.mem_cons, List.not_mem_nil, or_false] at h
      rcases h with rfl | rfl | rfl | rfl <;> simp only [UInt8.toNat_ofNat'] <;> omega

theorem utf8EncodeChar_ne_nil (c : Char) : String.utf8EncodeChar c ≠ [] := by
  intro h
  have length := String.length_utf8EncodeChar c
  rw [h] at length
  exact Nat.ne_of_gt c.utf8Size_pos length.symm

/-- The bytes of an ASCII text are the text. -/
theorem text_encode {s : String} (ascii : ∀ c ∈ s.toList, c.toNat < 0x80) :
    Byte.text (encode s) = s := by
  have chars (cs : List Char) (h : ∀ c ∈ cs, c.toNat < 0x80) :
      (cs.flatMap String.utf8EncodeChar).map Byte.toChar = cs := by
    induction cs with
    | nil => rfl
    | cons c cs ih =>
        have back : Byte.toChar (Byte.of c) = c := by
          rw [Byte.toChar, toNat_of_lt (h c (.head _)), Char.ofNat_toNat]
        rw [List.flatMap_cons, utf8EncodeChar_of_lt (h c (.head _)), List.map_append,
          ih fun x hx => h x (.tail _ hx), List.map_singleton, back]
        rfl
  rw [Byte.text, encode, chars _ ascii, String.ofList_toList]

/-! ## Visible characters -/

/-- A visible ASCII character, a space or a tab. -/
def IsVisible (c : Char) : Prop := c.toNat < 0x80 ∧ Byte.isVisible (Byte.of c) = true

/-- A control character, of ASCII or of Latin-1. -/
def IsControl (c : Char) : Prop := c.toNat < 0x20 ∨ 0x7F ≤ c.toNat ∧ c.toNat < 0xA0

theorem isVisible_byte_iff {b : UInt8} :
    Byte.isVisible b = true ↔ 0x20 ≤ b.toNat ∧ b.toNat ≤ 0x7E ∨ b.toNat = 0x09 := by
  simp [Byte.isVisible, UInt8.le_iff_toNat_le, ← UInt8.toNat_inj]

/-- Of the characters that are no controls, those of ASCII are visible. -/
theorem isVisible_iff {c : Char} (h : ¬ IsControl c) : IsVisible c ↔ c.toNat < 0x80 := by
  rw [IsControl, not_or] at h
  refine ⟨And.left, fun ascii => ⟨ascii, ?_⟩⟩
  rw [isVisible_byte_iff, toNat_of_lt ascii]
  omega

/-- The bytes of a text are visible if its characters are, and only then. -/
theorem all_isVisible_encode_iff {s : String} :
    (encode s).all Byte.isVisible = true ↔ ∀ c ∈ s.toList, IsVisible c := by
  simp only [encode, List.all_eq_true, List.mem_flatMap, forall_exists_index, and_imp]
  constructor
  · intro visible c hc
    by_cases ascii : c.toNat < 0x80
    · refine ⟨ascii, visible (Byte.of c) c hc ?_⟩
      rw [utf8EncodeChar_of_lt ascii]
      exact .head _
    · obtain ⟨b, hb⟩ := List.exists_mem_of_ne_nil _ (utf8EncodeChar_ne_nil c)
      have large := le_of_mem_utf8EncodeChar (Nat.le_of_not_lt ascii) hb
      have small := isVisible_byte_iff.mp (visible b c hc hb)
      omega
  · intro visible b c hc hb
    obtain ⟨ascii, seen⟩ := visible c hc
    rw [utf8EncodeChar_of_lt ascii, List.mem_singleton] at hb
    rw [hb]
    exact seen

end SchoolDesk.Text.Utf8
