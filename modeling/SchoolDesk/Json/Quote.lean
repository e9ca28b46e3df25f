import SchoolDesk.Json.Bytes
import SchoolDesk.Text.Utf8

/-!
# Texts of a JSON text

A text stands between quotes.  Inside, a backslash begins an escape.  Eight
escapes have a letter, and `\u` takes four hexadecimal digits, which are a
UTF-16 unit: a character beyond U+FFFF is written as two of them.  A control
character below U+0020 must not stand as it is.  When the closing quote comes,
the bytes must be UTF-8.

`readText` gives the text.  `passText` is for texts that nobody asked for and
checks neither surrogates nor UTF-8.  Both begin after the opening quote.
-/

namespace SchoolDesk.Json

/-- The UTF-16 unit of four hexadecimal digits. -/
def takeUnit : Bytes → Except Stop (Nat × Bytes)
  | a :: b :: c :: d :: s =>
      match Byte.hexValue? a, Byte.hexValue? b, Byte.hexValue? c, Byte.hexValue? d with
      | some a, some b, some c, some d => .ok (((a * 16 + b) * 16 + c) * 16 + d, s)
      | _, _, _, _ => .error (.before s .invalidEscape)
  | _ => .error (.before [] .endInText)

/-- The bytes of a code point that is no surrogate. -/
def codePointBytes (n : Nat) : Bytes := String.utf8EncodeChar (Char.ofNat n)

/-- The second half of a surrogate pair must come next. -/
def takeSecondHalf (first : Nat) : Bytes → Except Stop (Bytes × Bytes)
  | [] => .error (.before [] .endInText)
  | b :: s =>
      if b = Byte.of '\\' then
        match s with
        | [] => .error (.before [] .endInText)
        | u :: s =>
            if u = Byte.of 'u' then
              match takeUnit s with
              | .ok (second, s) =>
                  if 0xDC00 ≤ second ∧ second ≤ 0xDFFF then
                    .ok (codePointBytes
                      (0x10000 + (first - 0xD800) * 0x400 + (second - 0xDC00)), s)
                  else .error (.before s .loneSurrogate)
              | .error e => .error e
            else .error (.before s .unfinishedPair)
      else .error (.before s .unfinishedPair)

/-- The character of a `\u` escape, after the letter. -/
def takeCodePoint (s : Bytes) : Except Stop (Bytes × Bytes) :=
  match takeUnit s with
  | .ok (n, s) =>
      if 0xDC00 ≤ n ∧ n ≤ 0xDFFF then .error (.before s .loneSurrogate)
      else if 0xD800 ≤ n ∧ n ≤ 0xDBFF then takeSecondHalf n s
      else .ok (codePointBytes n, s)
  | .error e => .error e

/-- The byte that a letter stands for after a backslash. -/
def letterByte? (b : UInt8) : Option UInt8 :=
  if b = Byte.of '"' || b = Byte.of '\\' || b = Byte.of '/' then some b
  else if b = Byte.of 'b' then some 0x08
  else if b = Byte.of 'f' then some 0x0C
  else if b = Byte.of 'n' then some 0x0A
  else if b = Byte.of 'r' then some 0x0D
  else if b = Byte.of 't' then some 0x09
  else none

/-- The bytes of an escape, after the backslash. -/
def takeEscape : Bytes → Except Stop (Bytes × Bytes)
  | [] => .error (.before [] .endInText)
  | b :: s =>
      match letterByte? b with
      | some letter => .ok ([letter], s)
      | none =>
          if b = Byte.of 'u' then takeCodePoint s
          else .error (.before s .invalidEscape)

/-- Passes over an escape, after the backslash. -/
def passEscape : Bytes → Except Stop Bytes
  | [] => .error (.before [] .endInText)
  | b :: s =>
      match letterByte? b with
      | some _ => .ok s
      | none =>
          if b = Byte.of 'u' then
            match takeUnit s with
            | .ok (_, s) => .ok s
            | .error e => .error e
          else .error (.before s .invalidEscape)

/-! ## What is left is shorter -/

theorem takeUnit_length {s r : Bytes} {n : Nat} (h : takeUnit s = .ok (n, r)) :
    r.length < s.length := by
  unfold takeUnit at h
  split at h
  · split at h
    · cases h
      simp only [List.length_cons]
      omega
    · cases h
  · cases h

theorem takeSecondHalf_length {first : Nat} {s r cs : Bytes}
    (h : takeSecondHalf first s = .ok (cs, r)) : r.length < s.length := by
  unfold takeSecondHalf at h
  split at h
  · cases h
  · split at h
    · split at h
      · cases h
      · split at h
        · split at h
          · rename_i hu
            split at h
            · simp only [Except.ok.injEq, Prod.mk.injEq] at h
              have := takeUnit_length hu
              simp only [← h.2, List.length_cons]
              omega
            · cases h
          · cases h
        · cases h
    · cases h

theorem takeCodePoint_length {s r cs : Bytes} (h : takeCodePoint s = .ok (cs, r)) :
    r.length < s.length := by
  unfold takeCodePoint at h
  split at h
  · rename_i hu
    have hu := takeUnit_length hu
    split at h
    · cases h
    · split at h
      · have := takeSecondHalf_length h
        omega
      · cases h
        exact hu
  · cases h

theorem takeEscape_length {s r cs : Bytes} (h : takeEscape s = .ok (cs, r)) :
    r.length < s.length := by
  unfold takeEscape at h
  split at h
  · cases h
  · split at h
    · cases h
      simp
    · split at h
      · have := takeCodePoint_length h
        simp only [List.length_cons]
        omega
      · cases h

theorem passEscape_length {s r : Bytes} (h : passEscape s = .ok r) : r.length < s.length := by
  unfold passEscape at h
  split at h
  · cases h
  · split at h
    · cases h
      simp
    · split at h
      · split at h
        · rename_i hu
          cases h
          have := takeUnit_length hu
          simp only [List.length_cons]
          omega
        · cases h
      · cases h

/-! ## Whole texts -/

/-- The bytes of a text up to its closing quote, and what is left after it.  The
bytes read so far are given and given back last one first. -/
def takeText (done : Bytes) (s : Bytes) : Except Stop (Bytes × Bytes) :=
  match s with
  | [] => .error (.before [] .endInText)
  | b :: s =>
      if b = Byte.of '"' then .ok (done, s)
      else if b = Byte.of '\\' then
        match _h : takeEscape s with
        | .ok (cs, r) => takeText (cs.reverse ++ done) r
        | .error e => .error e
      else if b < 0x20 then .error (.before s .controlCharacter)
      else takeText (b :: done) s
termination_by s.length
decreasing_by
  · have := takeEscape_length _h
    simp only [List.length_cons]
    omega
  · simp

/-- Reads a text after its opening quote. -/
def readText (s : Bytes) : Except Stop (String × Bytes) :=
  match takeText [] s with
  | .ok (bytes, s) =>
      match Text.Utf8.decode? bytes.reverse with
      | some t => .ok (t, s)
      | none => .error (.before s .invalidCodePoint)
  | .error e => .error e

/-- Passes over a text after its opening quote.  A control character is looked at
and not read. -/
def passText (s : Bytes) : Except Stop Bytes :=
  match s with
  | [] => .error (.before [] .endInText)
  | b :: s =>
      if b = Byte.of '"' then .ok s
      else if b = Byte.of '\\' then
        match _h : passEscape s with
        | .ok r => passText r
        | .error e => .error e
      else if b < 0x20 then .error (.before (b :: s) .controlCharacter)
      else passText s
termination_by s.length
decreasing_by
  · have := passEscape_length _h
    simp only [List.length_cons]
    omega
  · simp

theorem takeText_length {done s r bytes : Bytes} (h : takeText done s = .ok (bytes, r)) :
    r.length < s.length := by
  fun_induction takeText done s with
  | case1 => cases h
  | case2 => cases h; simp
  | case3 done s cs q hq _ ih =>
    have := takeEscape_length hq
    have := ih h
    simp only [List.length_cons]
    omega
  | case4 => cases h
  | case5 => cases h
  | case6 done b s _ _ _ ih =>
    have := ih h
    simp only [List.length_cons]
    omega

theorem readText_length {s r : Bytes} {t : String} (h : readText s = .ok (t, r)) :
    r.length < s.length := by
  unfold readText at h
  split at h
  · rename_i ht
    split at h
    · simp only [Except.ok.injEq, Prod.mk.injEq] at h
      rw [← h.2]
      exact takeText_length ht
    · cases h
  · cases h

theorem passText_length {s r : Bytes} (h : passText s = .ok r) : r.length < s.length := by
  fun_induction passText s with
  | case1 => cases h
  | case2 => cases h; simp
  | case3 s q hq _ ih =>
    have := passEscape_length hq
    have := ih h
    simp only [List.length_cons]
    omega
  | case4 => cases h
  | case5 => cases h
  | case6 b s _ _ _ ih =>
    have := ih h
    simp only [List.length_cons]
    omega

end SchoolDesk.Json
