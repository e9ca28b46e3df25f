import SchoolDesk.Json.Spelling
import SchoolDesk.Proofs.Text.Utf8

/-!
# Texts are read in whatever way they are spelt

The reader of a text takes one character at a time, in whatever way it is spelt, and leaves the
bytes of this character behind (`takeText_of_spellsChar`).  So it reads every spelling of a
text as this text (`readText_of_spells`), up to the closing quote and no further.  A text that
nobody asks for is passed over likewise (`passText_of_isInside`).

What `quote` writes for a text is one of its spellings (`spellsText_quote`).  A text is
therefore known from its quoted form, and so is all that follows it (`quote_append_inj`).
-/

namespace SchoolDesk.Json

open Text.Utf8

/-! ## Reading one character -/

/-- A byte that stands for itself in a text. -/
def IsPlain (b : UInt8) : Prop := b ≠ Byte.of '"' ∧ b ≠ Byte.of '\\' ∧ ¬ b < 0x20

theorem takeText_plain {b : UInt8} (plain : IsPlain b) (done s : Bytes) :
    takeText done (b :: s) = takeText (b :: done) s := by
  obtain ⟨quote, backslash, control⟩ := plain
  rw [takeText, if_neg quote, if_neg backslash, if_neg control]

theorem takeText_append_plain {bytes : Bytes} (plain : ∀ b ∈ bytes, IsPlain b)
    (done s : Bytes) : takeText done (bytes ++ s) = takeText (bytes.reverse ++ done) s := by
  induction bytes generalizing done with
  | nil => rfl
  | cons b bytes ih =>
      rw [List.cons_append, takeText_plain (plain b (.head _)),
        ih fun x hx => plain x (.tail _ hx)]
      simp

theorem takeText_escaped {s rest bytes : Bytes} (h : takeEscape s = .ok (bytes, rest))
    (done : Bytes) :
    takeText done (Byte.of '\\' :: s) = takeText (bytes.reverse ++ done) rest := by
  rw [takeText]
  simp only [show Byte.of '\\' ≠ Byte.of '"' by decide, if_false, if_true]
  split
  · rename_i h'
    rw [h] at h'
    cases h'
    rfl
  · rename_i h'
    rw [h] at h'
    cases h'

/-- A character that may stand for itself has plain bytes. -/
theorem isPlain_of_mem {c : Char} (quote : c ≠ '"') (backslash : c ≠ '\\')
    (printed : 0x20 ≤ c.toNat) {b : UInt8} (h : b ∈ String.utf8EncodeChar c) : IsPlain b := by
  by_cases ascii : c.toNat < 0x80
  · rw [utf8EncodeChar_of_lt ascii, List.mem_singleton] at h
    subst h
    have other {d : Char} (small : d.toNat < 0x80) (ne : c ≠ d) : Byte.of c ≠ Byte.of d := by
      intro same
      have number := congrArg UInt8.toNat same
      rw [toNat_of_lt ascii, toNat_of_lt small] at number
      exact ne (Char.toNat_inj.mp number)
    refine ⟨other (by decide) quote, other (by decide) backslash, ?_⟩
    rw [UInt8.lt_iff_toNat_lt, toNat_of_lt ascii]
    exact Nat.not_lt.mpr printed
  · have large := le_of_mem_utf8EncodeChar (Nat.le_of_not_lt ascii) h
    refine ⟨?_, ?_, ?_⟩
    · rintro rfl
      exact absurd large (by decide)
    · rintro rfl
      exact absurd large (by decide)
    · rw [UInt8.lt_iff_toNat_lt, Nat.not_lt]
      exact Nat.le_trans (by decide) large

theorem hexValue?_of_hexDigit {n : Nat} {b : UInt8} (h : HexDigit n b) :
    Byte.hexValue? b = some n := by
  cases h with
  | digit h =>
      have digits : ∀ i : Fin 10, Byte.hexValue? (UInt8.ofNat (0x30 + i.val)) = some i.val := by
        decide
      exact digits ⟨_, h⟩
  | small h =>
      have digits : ∀ i : Fin 6,
          Byte.hexValue? (UInt8.ofNat (0x61 + i.val)) = some (10 + i.val) := by decide
      exact digits ⟨_, h⟩
  | capital h =>
      have digits : ∀ i : Fin 6,
          Byte.hexValue? (UInt8.ofNat (0x41 + i.val)) = some (10 + i.val) := by decide
      exact digits ⟨_, h⟩

theorem takeUnit_of_spells {n : Nat} {digits : Bytes} (h : SpellsUnit n digits) (rest : Bytes) :
    takeUnit (digits ++ rest) = .ok (n, rest) := by
  cases h with
  | digits hw hx hy hz =>
      simp only [List.cons_append, List.nil_append, takeUnit, hexValue?_of_hexDigit hw,
        hexValue?_of_hexDigit hx, hexValue?_of_hexDigit hy, hexValue?_of_hexDigit hz]

/-- A letter after a backslash gives the character that it stands for. -/
theorem letterByte?_of_mem {letter c : Char} (h : (letter, c) ∈ escapes) :
    letterByte? (Byte.of letter) = some (Byte.of c) ∧ letter.toNat < 0x80 ∧ c.toNat < 0x80 := by
  have all : ∀ p ∈ escapes, letterByte? (Byte.of p.1) = some (Byte.of p.2) ∧
      p.1.toNat < 0x80 ∧ p.2.toNat < 0x80 := by
    simp only [escapes, List.forall_mem_cons]
    decide
  exact all _ h

/-- An escape with a unit that is no half of a pair is taken as the character of the unit. -/
theorem takeEscape_unit {c : Char} {digits : Bytes} (h : SpellsUnit c.toNat digits)
    (rest : Bytes) :
    takeEscape (Byte.of 'u' :: (digits ++ rest)) = .ok (String.utf8EncodeChar c, rest) := by
  have letter : letterByte? (Byte.of 'u') = none := by decide
  -- No character is a surrogate.
  have valid : c.toNat < 0xD800 ∨ 0xDFFF < c.toNat ∧ c.toNat < 0x110000 := c.valid
  have low : ¬ (0xDC00 ≤ c.toNat ∧ c.toNat ≤ 0xDFFF) := by omega
  have high : ¬ (0xD800 ≤ c.toNat ∧ c.toNat ≤ 0xDBFF) := by omega
  simp only [takeEscape, letter, takeCodePoint, takeUnit_of_spells h, if_neg low, if_neg high,
    if_true, codePointBytes, Char.ofNat_toNat]

/-- Two escapes with the halves of a pair are taken as the character of the pair. -/
theorem takeEscape_pair {c : Char} {high low : Nat} {first second : Bytes}
    (hh : 0xD800 ≤ high ∧ high ≤ 0xDBFF) (hl : 0xDC00 ≤ low ∧ low ≤ 0xDFFF)
    (number : c.toNat = 0x10000 + (high - 0xD800) * 0x400 + (low - 0xDC00))
    (hf : SpellsUnit high first) (hs : SpellsUnit low second) (rest : Bytes) :
    takeEscape (Byte.of 'u' :: (first ++ (unitEscape second ++ rest))) =
      .ok (String.utf8EncodeChar c, rest) := by
  have letter : letterByte? (Byte.of 'u') = none := by decide
  have noLow : ¬ (0xDC00 ≤ high ∧ high ≤ 0xDFFF) := by omega
  simp only [takeEscape, letter, takeCodePoint, takeUnit_of_spells hf, if_neg noLow, if_pos hh,
    if_true, unitEscape, List.cons_append, takeSecondHalf, takeUnit_of_spells hs, if_pos hl,
    codePointBytes, ← number, Char.ofNat_toNat]

/-- A character is taken in whatever way it is spelt. -/
theorem takeText_of_spellsChar {c : Char} {s : Bytes} (h : SpellsChar c s) (done rest : Bytes) :
    takeText done (s ++ rest) = takeText ((String.utf8EncodeChar c).reverse ++ done) rest := by
  cases h with
  | plain quote backslash printed =>
      exact takeText_append_plain (fun b => isPlain_of_mem quote backslash printed) done rest
  | @letter letter _ mem =>
      obtain ⟨byte, -, small⟩ := letterByte?_of_mem mem
      have taken : takeEscape (Byte.of letter :: rest) = .ok (String.utf8EncodeChar c, rest) := by
        simp only [takeEscape, byte, utf8EncodeChar_of_lt small]
      exact takeText_escaped taken done
  | unit unit => exact takeText_escaped (takeEscape_unit unit rest) done
  | pair hh hl number hf hs =>
      rw [List.append_assoc]
      exact takeText_escaped (takeEscape_pair hh hl number hf hs rest) done

/-! ## Reading texts -/

theorem takeText_of_spellsChars {cs : List Char} {s : Bytes} (h : SpellsChars cs s)
    (done rest : Bytes) :
    takeText done (s ++ Byte.of '"' :: rest) =
      .ok ((cs.flatMap String.utf8EncodeChar).reverse ++ done, rest) := by
  induction h generalizing done with
  | nil =>
      rw [takeText.eq_def]
      rfl
  | cons head tail ih =>
      rw [List.append_assoc, takeText_of_spellsChar head, ih, List.flatMap_cons,
        List.reverse_append, List.append_assoc]

/-- What spells a text is read as this text, after the opening quote and up to the closing
one. -/
theorem readText_of_spells {t : String} {s : Bytes} (h : SpellsText t s) :
    ∃ inside, s = Byte.of '"' :: inside ∧ ∀ rest, readText (inside ++ rest) = .ok (t, rest) := by
  obtain ⟨inside, spelt, rfl⟩ := h
  refine ⟨inside ++ [Byte.of '"'], rfl, fun rest => ?_⟩
  have decoded : decode? (t.toList.flatMap String.utf8EncodeChar) = some t := decode?_encode t
  simp only [List.append_assoc, List.singleton_append, readText, takeText_of_spellsChars spelt,
    List.append_nil, List.reverse_reverse, decoded]

/-! ## Passing over texts -/

theorem passText_plain {b : UInt8} (plain : IsPlain b) (s : Bytes) :
    passText (b :: s) = passText s := by
  obtain ⟨quote, backslash, control⟩ := plain
  rw [passText, if_neg quote, if_neg backslash, if_neg control]

theorem passText_escaped {s rest : Bytes} (h : passEscape s = .ok rest) :
    passText (Byte.of '\\' :: s) = passText rest := by
  rw [passText]
  simp only [show Byte.of '\\' ≠ Byte.of '"' by decide, if_false, if_true]
  split
  · rename_i h'
    rw [h] at h'
    cases h'
    rfl
  · rename_i h'
    rw [h] at h'
    cases h'

theorem passEscape_letter {b letter : UInt8} (h : letterByte? b = some letter) (s : Bytes) :
    passEscape (b :: s) = .ok s := by
  simp only [passEscape, h]

theorem passEscape_unit {s rest : Bytes} {n : Nat} (h : takeUnit s = .ok (n, rest)) :
    passEscape (Byte.of 'u' :: s) = .ok rest := by
  have letter : letterByte? (Byte.of 'u') = none := by decide
  simp only [passEscape, letter, h, if_true]

/-- What stands between quotes is passed over with the closing quote. -/
theorem passText_of_isInside {s : Bytes} (h : IsInside s) (rest : Bytes) :
    passText (s ++ Byte.of '"' :: rest) = .ok rest := by
  induction h with
  | nil =>
      rw [passText.eq_def]
      rfl
  | plain quote backslash printed more ih =>
      rw [List.cons_append, passText_plain ⟨quote, backslash, UInt8.not_lt.mpr printed⟩, ih]
  | letter mem more ih =>
      rw [List.cons_append, List.cons_append,
        passText_escaped (passEscape_letter (letterByte?_of_mem mem).1 _), ih]
  | unit unit more ih =>
      rw [List.append_assoc, unitEscape, List.cons_append, List.cons_append,
        passText_escaped (passEscape_unit (takeUnit_of_spells unit _)), ih]

/-- Plain bytes may stand in front of anything inside a text. -/
theorem IsInside.append_plain {bytes s : Bytes} (plain : ∀ b ∈ bytes, IsPlain b)
    (more : IsInside s) : IsInside (bytes ++ s) := by
  induction bytes with
  | nil => exact more
  | cons b bytes ih =>
      obtain ⟨quote, backslash, control⟩ := plain b (.head _)
      exact .plain quote backslash (UInt8.not_lt.mp control) (ih fun x hx => plain x (.tail _ hx))

/-- A character that stands for itself has plain bytes. -/
theorem isInside_of_spellsChars {cs : List Char} {s : Bytes} (h : SpellsChars cs s) :
    IsInside s := by
  induction h with
  | nil => exact .nil
  | cons head tail ih =>
      cases head with
      | plain quote backslash printed =>
          exact .append_plain (fun b => isPlain_of_mem quote backslash printed) ih
      | letter mem => exact .letter mem ih
      | unit unit => exact .unit unit ih
      | pair hh hl number hf hs =>
          rw [List.append_assoc]
          exact .unit hf (.unit hs ih)

/-- What spells a text is a text. -/
theorem SpellsText.isText {t : String} {s : Bytes} (h : SpellsText t s) : IsText s := by
  obtain ⟨inside, spelt, rfl⟩ := h
  exact ⟨inside, isInside_of_spellsChars spelt, rfl⟩

/-! ## Writing texts -/

theorem mem_escapes {c letter : Char} (h : escapeLetter? c = some letter) :
    (letter, c) ∈ escapes := by
  rw [escapeLetter?.eq_def] at h
  split at h <;> cases h <;> simp [escapes]

theorem bytes_escape_of_letter {c letter : Char} (h : escapeLetter? c = some letter) :
    (escape c).flatMap String.utf8EncodeChar = [Byte.of '\\', Byte.of letter] := by
  have backslash : String.utf8EncodeChar '\\' = [Byte.of '\\'] := by decide
  have small := (letterByte?_of_mem (mem_escapes h)).2.1
  simp [escape, h, backslash, utf8EncodeChar_of_lt small]

theorem bytes_escape_of_control {c : Char} (letter : escapeLetter? c = none)
    (control : c.toNat < 0x20) :
    (escape c).flatMap String.utf8EncodeChar =
      [Byte.of '\\', Byte.of 'u', Byte.of '0', Byte.of '0',
        Byte.of (Nat.digitChar (c.toNat / 16)), Byte.of (Nat.digitChar (c.toNat % 16))] := by
  have backslash : String.utf8EncodeChar '\\' = [Byte.of '\\'] := by decide
  have u : String.utf8EncodeChar 'u' = [Byte.of 'u'] := by decide
  have zero : String.utf8EncodeChar '0' = [Byte.of '0'] := by decide
  have digit {n : Nat} (h : n < 16) :
      String.utf8EncodeChar (Nat.digitChar n) = [Byte.of (Nat.digitChar n)] := by
    have digits : ∀ i : Fin 16, (Nat.digitChar i.val).toNat < 0x80 := by decide
    exact utf8EncodeChar_of_lt (digits ⟨n, h⟩)
  have high := digit (show c.toNat / 16 < 16 by omega)
  have low := digit (show c.toNat % 16 < 16 by omega)
  simp [escape, letter, control, backslash, u, zero, high, low]

theorem bytes_escape_of_plain {c : Char} (letter : escapeLetter? c = none)
    (control : ¬ c.toNat < 0x20) :
    (escape c).flatMap String.utf8EncodeChar = String.utf8EncodeChar c := by
  simp [escape, letter, control]

theorem hexDigit_digitChar {n : Nat} (h : n < 16) : HexDigit n (Byte.of (Nat.digitChar n)) := by
  by_cases decimal : n < 10
  · have digits : ∀ i : Fin 10, Byte.of (Nat.digitChar i.val) = UInt8.ofNat (0x30 + i.val) := by
      decide
    rw [digits ⟨n, decimal⟩]
    exact .digit decimal
  · have digits : ∀ i : Fin 6,
        Byte.of (Nat.digitChar (10 + i.val)) = UInt8.ofNat (0x61 + i.val) := by decide
    obtain ⟨m, rfl⟩ : ∃ m, n = 10 + m := ⟨n - 10, by omega⟩
    have small : m < 6 := by omega
    rw [digits ⟨m, small⟩]
    exact .small small

/-- What is written for a character spells it. -/
theorem spellsChar_escape (c : Char) :
    SpellsChar c ((escape c).flatMap String.utf8EncodeChar) := by
  cases letter : escapeLetter? c with
  | some l =>
      rw [bytes_escape_of_letter letter]
      exact .letter (mem_escapes letter)
  | none =>
      by_cases control : c.toNat < 0x20
      · rw [bytes_escape_of_control letter control]
        have zero : HexDigit 0 (Byte.of '0') := .digit (by decide)
        have unit := SpellsUnit.digits zero zero
          (hexDigit_digitChar (show c.toNat / 16 < 16 by omega))
          (hexDigit_digitChar (show c.toNat % 16 < 16 by omega))
        have number : ((0 * 16 + 0) * 16 + c.toNat / 16) * 16 + c.toNat % 16 = c.toNat := by omega
        rw [number] at unit
        exact .unit unit
      · rw [bytes_escape_of_plain letter control]
        refine .plain ?_ ?_ (Nat.le_of_not_lt control)
        · rintro rfl
          cases letter
        · rintro rfl
          cases letter

theorem spellsChars_escape (cs : List Char) :
    SpellsChars cs ((cs.flatMap escape).flatMap String.utf8EncodeChar) := by
  induction cs with
  | nil => exact .nil
  | cons c cs ih =>
      rw [List.flatMap_cons, List.flatMap_append]
      exact .cons (spellsChar_escape c) ih

/-- What is written for a text spells it. -/
theorem spellsText_quote (t : String) : SpellsText t ((quote t).flatMap String.utf8EncodeChar) := by
  refine ⟨_, spellsChars_escape t.toList, ?_⟩
  have mark : String.utf8EncodeChar '"' = [Byte.of '"'] := by decide
  simp [quote, quoted, mark, List.flatMap_append]

/-- A text and what follows it are known from the quoted text with what follows it. -/
theorem quote_append_inj {s t : String} {x y : List Char} (h : quote s ++ x = quote t ++ y) :
    s = t ∧ x = y := by
  obtain ⟨inside, left, readLeft⟩ := readText_of_spells (spellsText_quote s)
  obtain ⟨inside', right, readRight⟩ := readText_of_spells (spellsText_quote t)
  have same := congrArg (List.flatMap String.utf8EncodeChar) h
  rw [List.flatMap_append, List.flatMap_append, left, right, List.cons_append,
    List.cons_append] at same
  have read := congrArg readText (List.cons.inj same).2
  rw [readLeft, readRight] at read
  obtain ⟨rfl, -⟩ := Prod.mk.inj (Except.ok.inj read)
  exact ⟨rfl, List.append_cancel_left h⟩

end SchoolDesk.Json
