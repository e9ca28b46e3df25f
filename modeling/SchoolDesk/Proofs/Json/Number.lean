import SchoolDesk.Json.Spelling
import SchoolDesk.Proofs.Decimal.Shortest
import SchoolDesk.Proofs.Text.Digits
import SchoolDesk.Proofs.Text.Utf8

/-!
# Numbers are passed over, and what is written for them are numbers

A number is read up to the first byte with which it cannot go on, so what comes after it
begins with such a byte or is nothing (`EndsNumber`).  A number is then passed over up to its
end (`passScalar_of_isNumber`), and the digits of a count are read as the count
(`readCount_toDigits`).

What is written for a double is a number in either form: plainly, where a zero in front stands
alone, and with an exponent (`isNumber_write`).  A zero stands alone in front because the
digits of a double begin with one only if the double is zero.
-/

namespace SchoolDesk.Json

open Text.Utf8

/-! ## Digits -/

/-- A number cannot go on with what comes next. -/
def EndsNumber (rest : Bytes) : Prop :=
  ∀ b ∈ rest.head?, Byte.isDigit b = false ∧ b ≠ Byte.of '.' ∧ Number.isMark b = false

theorem EndsNumber.digitNext {rest : Bytes} (ends : EndsNumber rest) :
    Number.digitNext rest = false := by
  cases rest with
  | nil => rfl
  | cons b rest => exact (ends b rfl).1

theorem EndsNumber.cons {b : UInt8} {rest : Bytes}
    (h : (Byte.isDigit b || b == Byte.of '.' || Number.isMark b) = false) :
    EndsNumber (b :: rest) := by
  intro x hx
  cases hx
  simpa [and_assoc] using h

/-- A digit is none of the other bytes that mean something. -/
theorem ne_of_isDigit {b c : UInt8} (digit : Byte.isDigit b = true)
    (hc : Byte.isDigit c = false) : b ≠ c := by
  rintro rfl
  rw [hc] at digit
  cases digit

theorem isBlankByte_of_isDigit {b : UInt8} (digit : Byte.isDigit b = true) :
    isBlankByte b = false := by
  have other (c : UInt8) (hc : Byte.isDigit c = false) : (b == c) = false :=
    beq_eq_false_iff_ne.mpr (ne_of_isDigit digit hc)
  simp [isBlankByte, other 0x20 (by decide), other 0x09 (by decide), other 0x0A (by decide),
    other 0x0D (by decide)]

theorem dropBlanks_cons {b : UInt8} (h : isBlankByte b = false) (s : Bytes) :
    dropBlanks (b :: s) = b :: s := by
  rw [dropBlanks, List.dropWhile_cons, h]
  rfl

/-! ## Passing over numbers -/

namespace Number

variable {ds : Bytes} {s rest : Bytes}

theorem digitNext_append (h : IsDigits ds) (s : Bytes) : digitNext (ds ++ s) = true := by
  obtain ⟨b, ds, rfl⟩ := List.exists_cons_of_ne_nil h.ne_nil
  exact h.digits b (.head _)

theorem dropDigits_append (digits : ∀ b ∈ ds, Byte.isDigit b = true)
    (h : digitNext s = false) : dropDigits (ds ++ s) = s := by
  rw [dropDigits, List.dropWhile_append_of_pos digits]
  cases s with
  | nil => rfl
  | cons b s =>
      have other : Byte.isDigit b = false := h
      rw [List.dropWhile_cons, other]
      rfl

theorem passScale_of_ends (ends : EndsNumber rest) : passScale rest = .ok rest := by
  cases rest with
  | nil => rfl
  | cons b rest =>
      have other : isMark b = false := (ends b rfl).2.2
      simp [passScale, other]

/-- Digits may follow a point, and then an exponent. -/
theorem passTail_point (h : IsDigits ds) (next : digitNext s = false) :
    passTail (Byte.of '.' :: (ds ++ s)) = passScale s := by
  simp [passTail, digitNext_append h, dropDigits_append h.digits next]

/-- A number begins with digits, of which the first is no zero unless it is alone. -/
theorem pass_whole {b : UInt8} (first : Byte.isDigit b = true)
    (digits : ∀ x ∈ ds, Byte.isDigit x = true) (whole : b = Byte.of '0' → ds = [])
    (h : digitNext s = false) : pass (b :: (ds ++ s)) = passTail s := by
  rw [pass]
  by_cases zero : b = Byte.of '0'
  · rw [whole zero, List.nil_append, if_pos zero, h]
    rfl
  · rw [if_neg zero, if_pos first, dropDigits_append digits h]

theorem passScale_of_isExponent {s rest : Bytes} (h : IsExponent s) (ends : EndsNumber rest) :
    passScale (s ++ rest) = .ok rest := by
  cases h with
  | none => exact passScale_of_ends ends
  | @digits mark sign ds hm hs h =>
      have marked : isMark mark = true := by rcases hm with rfl | rfl <;> decide
      have signed : (takeSign (sign ++ (ds ++ rest))).2 = ds ++ rest := by
        rcases hs with rfl | rfl | rfl
        · obtain ⟨b, ds', rfl⟩ := List.exists_cons_of_ne_nil h.ne_nil
          have digit := h.digits b (.head _)
          rw [List.nil_append, List.cons_append, takeSign, if_neg (ne_of_isDigit digit (by decide)),
            if_neg (ne_of_isDigit digit (by decide))]
        · rfl
        · rfl
      simp [passScale, marked, passExponent, signed, digitNext_append h,
        dropDigits_append h.digits ends.digitNext]

/-- No digit goes on behind the digits of a number. -/
theorem digitNext_exponent {s rest : Bytes} (h : IsExponent s) (ends : EndsNumber rest) :
    digitNext (s ++ rest) = false := by
  cases h with
  | none => exact ends.digitNext
  | digits hm hs h => rcases hm with rfl | rfl <;> rfl

theorem passTail_of_isFraction {s t rest : Bytes} (hf : IsFraction s) (he : IsExponent t)
    (ends : EndsNumber rest) : passTail (s ++ (t ++ rest)) = .ok rest := by
  have scale := passScale_of_isExponent he ends
  cases hf with
  | none =>
      have point : (t ++ rest).head? ≠ some (Byte.of '.') := by
        cases he with
        | none => exact fun h => (ends _ h).2.1 rfl
        | digits hm hs h => rcases hm with rfl | rfl <;> simp
      rw [List.nil_append, passTail, if_neg point, scale]
  | digits h =>
      rw [List.cons_append, passTail_point h (digitNext_exponent he ends), scale]

/-- A number without its sign is passed over. -/
theorem pass_of_parts {whole fraction exponent rest : Bytes} (hw : IsWhole whole)
    (hf : IsFraction fraction) (he : IsExponent exponent) (ends : EndsNumber rest) :
    pass (whole ++ (fraction ++ (exponent ++ rest))) = .ok rest := by
  have next : digitNext (fraction ++ (exponent ++ rest)) = false := by
    cases hf with
    | none =>
        rw [List.nil_append]
        exact digitNext_exponent he ends
    | digits h => rfl
  obtain ⟨b, ds, rfl⟩ := List.exists_cons_of_ne_nil hw.ne_nil
  rw [List.cons_append, pass_whole (hw.digits b (.head _)) (fun x hx => hw.digits x (.tail _ hx))
    (fun zero => ?_) next, passTail_of_isFraction hf he ends]
  exact (List.cons.inj (hw.zero (congrArg some zero))).2

end Number

theorem passScalar_of_pass {s rest : Bytes} (h : Number.pass s = .ok rest) :
    passScalar s = .ok rest := by
  cases s with
  | nil => cases h
  | cons b s =>
      have digit : Byte.isDigit b = true := by
        rw [Number.pass] at h
        split at h
        · next zero =>
            rw [zero]
            decide
        · split at h
          · next digit => exact digit
          · cases h
      rw [passScalar, if_neg (ne_of_isDigit digit (by decide)),
        if_neg (ne_of_isDigit digit (by decide)), if_neg (ne_of_isDigit digit (by decide)),
        if_neg (ne_of_isDigit digit (by decide)), if_pos digit, h]

theorem passScalar_of_isNumber {s rest : Bytes} (h : IsNumber s) (ends : EndsNumber rest) :
    passScalar (s ++ rest) = .ok rest := by
  cases h with
  | parts hs hw hf he =>
      have passed := Number.pass_of_parts hw hf he ends
      simp only [List.append_assoc]
      rcases hs with rfl | rfl
      · exact passScalar_of_pass passed
      · exact passed

/-- A number begins with a digit or with a minus. -/
theorem IsNumber.exists_cons {s : Bytes} (h : IsNumber s) :
    ∃ b t, s = b :: t ∧ (Byte.isDigit b = true ∨ b = Byte.of '-') := by
  cases h with
  | parts hs hw hf he =>
      rcases hs with rfl | rfl
      · obtain ⟨b, ds, rfl⟩ := List.exists_cons_of_ne_nil hw.ne_nil
        exact ⟨b, _, rfl, .inl (hw.digits b (.head _))⟩
      · exact ⟨_, _, rfl, .inr rfl⟩

/-! ## Writing numbers -/

/-- Digits, and at least one of them. -/
structure IsNumeral (cs : List Char) : Prop where
  digits : ∀ c ∈ cs, c.isDigit = true
  ne_nil : cs ≠ []

theorem isNumeral_toDigits (n : Nat) : IsNumeral (Nat.toDigits 10 n) where
  digits _ := Nat.isDigit_of_mem_toDigits (by decide) (by decide)
  ne_nil := Nat.toDigits_ne_nil

theorem toNat_bounds_of_isDigit {c : Char} (h : c.isDigit = true) :
    48 ≤ c.toNat ∧ c.toNat ≤ 57 := by
  simpa [Char.isDigit, UInt32.le_iff_toNat_le] using h

theorem isDigit_byte {c : Char} (h : c.isDigit = true) : Byte.isDigit (Byte.of c) = true := by
  obtain ⟨low, high⟩ := toNat_bounds_of_isDigit h
  have number : (Byte.of c).toNat = c.toNat := toNat_of_lt (by omega)
  simp [Byte.isDigit, UInt8.le_iff_toNat_le, number, low, high]

theorem bytes_digits {cs : List Char} (digits : ∀ c ∈ cs, c.isDigit = true) :
    cs.flatMap String.utf8EncodeChar = cs.map Byte.of := by
  induction cs with
  | nil => rfl
  | cons c cs ih =>
      have small : c.toNat < 0x80 := by
        have := toNat_bounds_of_isDigit (digits c (.head _))
        omega
      rw [List.flatMap_cons, utf8EncodeChar_of_lt small, ih fun x hx => digits x (.tail _ hx)]
      rfl

theorem isDigit_of_mem_bytes {cs : List Char} (digits : ∀ c ∈ cs, c.isDigit = true) {b : UInt8}
    (h : b ∈ cs.map Byte.of) : Byte.isDigit b = true := by
  obtain ⟨c, hc, rfl⟩ := List.mem_map.mp h
  exact isDigit_byte (digits c hc)

theorem eq_zero_of_byte {c : Char} (digit : c.isDigit = true) (h : Byte.of c = Byte.of '0') :
    c = '0' := by
  have small := toNat_bounds_of_isDigit digit
  have number := congrArg UInt8.toNat h
  rw [toNat_of_lt (by omega), toNat_of_lt (by decide)] at number
  exact Char.toNat_inj.mp number

theorem IsNumeral.isDigits {cs : List Char} (numeral : IsNumeral cs) :
    IsDigits (cs.map Byte.of) where
  digits _ := isDigit_of_mem_bytes numeral.digits
  ne_nil := List.map_eq_nil_iff.not.mpr numeral.ne_nil

theorem IsNumeral.isWhole {cs : List Char} (numeral : IsNumeral cs)
    (zero : cs.head? = some '0' → cs = ['0']) : IsWhole (cs.map Byte.of) where
  toIsDigits := numeral.isDigits
  zero h := by
    rw [List.head?_map] at h
    obtain ⟨c, first, same⟩ := Option.map_eq_some_iff.mp h
    have digit := numeral.digits c (List.mem_of_head? first)
    rw [eq_zero_of_byte digit same] at first
    rw [zero first]
    rfl

theorem isNumeral_append {f : List Char} (zeros : Nat) (numeral : IsNumeral f) :
    IsNumeral (List.replicate zeros '0' ++ f) ∧ IsNumeral (f ++ List.replicate zeros '0') := by
  have zero (c : Char) (h : c ∈ List.replicate zeros '0') : c.isDigit = true := by
    rw [List.eq_of_mem_replicate h]
    decide
  constructor <;> refine ⟨fun c hc => ?_, by simp [numeral.ne_nil]⟩
  · exact (List.mem_append.mp hc).elim (zero c) (numeral.digits c)
  · exact (List.mem_append.mp hc).elim (numeral.digits c) (zero c)

theorem IsNumeral.of_mem {f g : List Char} (numeral : IsNumeral f) (ne : g ≠ [])
    (h : ∀ c ∈ g, c ∈ f) : IsNumeral g :=
  ⟨fun c hc => numeral.digits c (h c hc), ne⟩

section

open Decimal

variable {sign : Bytes} (hs : sign = [] ∨ sign = [Byte.of '-'])

include hs

/-- Digits with a point between them are a number. -/
theorem isNumber_pointed {w f : List Char} (whole : IsNumeral w)
    (zero : w.head? = some '0' → w = ['0']) (fraction : IsNumeral f) :
    IsNumber (sign ++ (w ++ '.' :: f).flatMap String.utf8EncodeChar) := by
  have point : String.utf8EncodeChar '.' = [Byte.of '.'] := by decide
  have parts := IsNumber.parts hs (whole.isWhole zero) (.digits fraction.isDigits) .none
  rw [List.append_nil] at parts
  rw [List.flatMap_append, List.flatMap_cons, point, bytes_digits whole.digits,
    bytes_digits fraction.digits]
  exact parts

/-- Digits that are written plainly are a number. -/
theorem isNumber_plain {cs : List Char} {whole : Int} (numeral : IsNumeral cs)
    (zero : cs.head? = some '0' → cs = ['0'] ∧ whole ≤ 1) :
    IsNumber (sign ++ (realLayout.plain cs whole).flatMap String.utf8EncodeChar) := by
  have nought : IsNumeral ['0'] := isNumeral_toDigits 0
  obtain ⟨c, cs, rfl⟩ := List.exists_cons_of_ne_nil numeral.ne_nil
  rw [Layout.plain]
  split
  · exact isNumber_pointed hs nought (fun _ => rfl) (isNumeral_append _ numeral).1
  · next large =>
      obtain ⟨n, places⟩ : ∃ n, whole.toNat = n + 1 := Nat.exists_eq_add_one.mpr (by omega)
      simp only [places]
      split
      · refine isNumber_pointed hs (isNumeral_append _ numeral).2 (fun h => ?_) nought
        obtain ⟨alone, small⟩ := zero h
        obtain ⟨rfl, rfl⟩ := List.cons.inj alone
        have none : n + 1 - ['0'].length = 0 := by simp only [List.length_singleton]; omega
        rw [none]
        rfl
      · next long =>
          have more : cs.drop n ≠ [] := by
            simp only [List.length_cons] at long
            simp only [ne_eq, List.drop_eq_nil_iff]
            omega
          refine isNumber_pointed hs (numeral.of_mem (by simp) fun x => List.mem_of_mem_take)
            (fun h => ?_) (numeral.of_mem more fun x => ?_)
          · have alone := (zero h).1
            rw [alone] at long
            simp at long
          · exact fun hx => .tail _ (List.mem_of_mem_drop hx)

omit hs in
/-- What is written for an exponent is a mark, a sign and digits. -/
theorem isExponent_marked (exponent : Int) :
    IsExponent (('e' :: (if exponent < 0 then ['-'] else ['+']) ++
      Nat.toDigits 10 exponent.natAbs).flatMap String.utf8EncodeChar) := by
  have numeral := isNumeral_toDigits exponent.natAbs
  obtain ⟨sign, hs, bytes⟩ : ∃ sign : Bytes,
      (sign = [] ∨ sign = [Byte.of '+'] ∨ sign = [Byte.of '-']) ∧
        ('e' :: if exponent < 0 then ['-'] else ['+']).flatMap String.utf8EncodeChar =
          Byte.of 'e' :: sign := by
    split
    · exact ⟨[Byte.of '-'], .inr (.inr rfl), by decide⟩
    · exact ⟨[Byte.of '+'], .inr (.inl rfl), by decide⟩
  rw [List.flatMap_append, bytes, bytes_digits numeral.digits]
  exact .digits (.inl rfl) hs numeral.isDigits

omit hs in
/-- Digits with an exponent are one digit, a point with the others unless there are none, and
the exponent. -/
theorem scientific_parts {c : Char} {cs : List Char} (digits : IsNumeral (c :: cs))
    (exponent : Int) : ∃ fraction, IsFraction fraction ∧ fraction.drop 1 = cs.map Byte.of ∧
      (realLayout.scientific (c :: cs) exponent).flatMap String.utf8EncodeChar =
        [Byte.of c] ++ (fraction ++
          ('e' :: (if exponent < 0 then ['-'] else ['+']) ++
            Nat.toDigits 10 exponent.natAbs).flatMap String.utf8EncodeChar) := by
  have first : ∀ x ∈ [c], x.isDigit = true := by simpa using digits.digits c (.head _)
  cases cs with
  | nil =>
      refine ⟨[], .none, rfl, ?_⟩
      have form : realLayout.scientific [c] exponent = [c] ++
          ('e' :: (if exponent < 0 then ['-'] else ['+']) ++ Nat.toDigits 10 exponent.natAbs) := by
        simp [Layout.scientific, realLayout]
      rw [form, List.flatMap_append, bytes_digits first]
      rfl
  | cons c' cs =>
      have rest : IsNumeral (c' :: cs) := digits.of_mem (by simp) fun x hx => .tail _ hx
      have point : String.utf8EncodeChar '.' = [Byte.of '.'] := by decide
      refine ⟨Byte.of '.' :: (c' :: cs).map Byte.of, .digits rest.isDigits, rfl, ?_⟩
      have form : realLayout.scientific (c :: c' :: cs) exponent = [c] ++ ('.' :: (c' :: cs) ++
          ('e' :: (if exponent < 0 then ['-'] else ['+']) ++ Nat.toDigits 10 exponent.natAbs)) := by
        simp [Layout.scientific, realLayout]
      rw [form, List.flatMap_append, List.flatMap_append, bytes_digits first, List.flatMap_cons,
        point, bytes_digits rest.digits]
      rfl

/-- Digits with an exponent are a number. -/
theorem isNumber_scientific {cs : List Char} (exponent : Int) (numeral : IsNumeral cs) :
    IsNumber (sign ++ (realLayout.scientific cs exponent).flatMap String.utf8EncodeChar) := by
  obtain ⟨c, cs, rfl⟩ := List.exists_cons_of_ne_nil numeral.ne_nil
  obtain ⟨fraction, hf, -, form⟩ := scientific_parts numeral exponent
  have first : IsNumeral [c] := numeral.of_mem (by simp) (by simp)
  have zero (h : [c].head? = some '0') : [c] = ['0'] := by rw [Option.some.inj h]
  rw [form]
  exact .parts hs (first.isWhole zero) hf (isExponent_marked exponent)

/-- The text of a double is a number, with a sign or without. -/
theorem isNumber_write {d : Decimal} (zero : d.digits = 0 → d.exponent = 0) :
    IsNumber (sign ++ (realLayout.write d).flatMap String.utf8EncodeChar) := by
  have numeral := isNumeral_toDigits d.digits
  simp only [Layout.write]
  split
  · refine isNumber_plain hs numeral fun h => ?_
    have none := eq_zero_of_head?_toDigits h
    rw [none, zero none]
    exact ⟨rfl, by decide⟩
  · exact isNumber_scientific hs _ numeral

end

theorem isNumber_writeFloat (x : Float) :
    IsNumber ((realLayout.writeFloat x).flatMap String.utf8EncodeChar) := by
  have zero := Decimal.exponent_ofFloat_of_digits_eq_zero (x := x)
  rw [Decimal.Layout.writeFloat]
  split
  · have minus : String.utf8EncodeChar '-' = [Byte.of '-'] := by decide
    rw [List.flatMap_cons, minus]
    exact isNumber_write (.inr rfl) zero
  · exact isNumber_write (.inl rfl) zero

/-- The text of a double is a number or `null`. -/
theorem isValue_writeReal (x : Float) : IsValue ((writeReal x).flatMap String.utf8EncodeChar) := by
  rw [writeReal]
  split
  · exact .number (isNumber_writeFloat x)
  · have null : ['n', 'u', 'l', 'l'].flatMap String.utf8EncodeChar =
        "null".toList.map Byte.of := by decide
    rw [null]
    exact .word (.head _)

/-- The text of a finite double is not `null`. -/
theorem writeReal_ne_null {x : Float} (finite : x.isFinite = true) :
    (writeReal x).flatMap String.utf8EncodeChar ≠ encode "null" := by
  have null : encode "null" = Byte.of 'n' :: "ull".toList.map Byte.of := by decide
  rw [writeReal, if_pos finite, null]
  obtain ⟨b, t, form, first⟩ := (isNumber_writeFloat x).exists_cons
  rw [form]
  intro same
  rw [(List.cons.inj same).1] at first
  exact absurd first (by decide)

theorem isNumber_toDigits (n : Nat) : IsNumber ((Nat.toDigits 10 n).map Byte.of) := by
  have whole := (isNumeral_toDigits n).isWhole zero_of_head?_toDigits
  have parts := IsNumber.parts (.inl rfl) whole .none .none
  simpa using parts

/-! ## Counts -/

namespace Number

theorem digitValue_byte {c : Char} (h : c.isDigit = true) :
    Byte.digitValue (Byte.of c) = c.toNat - '0'.toNat := by
  have small := toNat_bounds_of_isDigit h
  rw [Byte.digitValue, toNat_of_lt (by omega)]
  rfl

/-- Digits are taken as the number that they spell, as long as it is below the limit. -/
theorem takeDigits_append {cs : List Char} (digits : ∀ c ∈ cs, c.isDigit = true) {limit n : Nat}
    (small : Nat.ofDigitChars 10 cs n < limit) {rest : Bytes} (h : digitNext rest = false)
    (taken : Nat) :
    takeDigits limit n taken (cs.map Byte.of ++ rest) =
      (Nat.ofDigitChars 10 cs n, taken + cs.length, rest) := by
  induction cs generalizing n taken with
  | nil =>
      cases rest with
      | nil => rfl
      | cons b rest =>
          have other : Byte.isDigit b = false := h
          simp [takeDigits, other]
  | cons c cs ih =>
      have digit := digits c (.head _)
      rw [Nat.ofDigitChars_cons] at small ⊢
      have below : 10 * n + (c.toNat - '0'.toNat) < limit := by
        rw [Nat.ofDigitChars_eq_ofDigitChars_zero] at small
        have power : 1 ≤ 10 ^ cs.length := Nat.one_le_pow _ _ (by decide)
        have grows := Nat.le_mul_of_pos_left (10 * n + (c.toNat - '0'.toNat)) power
        omega
      rw [List.map_cons, List.cons_append, takeDigits]
      simp only [isDigit_byte digit, digitValue_byte digit, below, decide_true, Bool.and_self,
        if_true, List.length_cons]
      rw [ih (fun x hx => digits x (.tail _ hx)) small, Nat.add_assoc, Nat.add_comm 1]

theorem readTail_of_ends {negative : Bool} {n : Nat} {rest : Bytes} (ends : EndsNumber rest) :
    readTail negative n 0 rest = .ok (ofDigits negative n, rest) := by
  cases rest with
  | nil => rfl
  | cons b rest =>
      obtain ⟨-, point, mark⟩ := ends b rfl
      rw [readTail, if_neg point, mark]
      rfl

/-- The digits of a number that fits in 64 bits are read as this number. -/
theorem read_toDigits {n : Nat} (small : n < UInt64.size) {rest : Bytes}
    (ends : EndsNumber rest) :
    read false ((Nat.toDigits 10 n).map Byte.of ++ rest) = .ok (.integer n, rest) := by
  have numeral := isNumeral_toDigits n
  have zero := zero_of_head?_toDigits (n := n)
  have spelt : Nat.ofDigitChars 10 (Nat.toDigits 10 n) 0 = n := Nat.ofDigitChars_ten_toDigits
  obtain ⟨c, cs, written⟩ := List.exists_cons_of_ne_nil numeral.ne_nil
  rw [written] at numeral zero spelt ⊢
  have first : c.isDigit = true := numeral.digits c (.head _)
  rw [List.map_cons, List.cons_append, read]
  split
  · next nought =>
      obtain ⟨rfl, rfl⟩ := List.cons.inj (zero (congrArg some (eq_zero_of_byte first nought)))
      rw [← spelt, List.map_nil, List.nil_append, ends.digitNext]
      exact readTail_of_ends ends
  · rw [if_pos (isDigit_byte first), digitValue_byte first]
    have start : Nat.ofDigitChars 10 cs (c.toNat - '0'.toNat) = n := by
      rw [← spelt, Nat.ofDigitChars_cons, Nat.mul_zero, Nat.zero_add]
    have taken := takeDigits_append (fun x hx => numeral.digits x (.tail _ hx))
      (start.trans_lt small) ends.digitNext 1
    have passed : rest.takeWhile Byte.isDigit = [] := by
      cases rest with
      | nil => rfl
      | cons b rest =>
          have other : Byte.isDigit b = false := (ends b rfl).1
          rw [List.takeWhile_cons, other]
          rfl
    have dropped : dropDigits ([] ++ rest) = rest := dropDigits_append (by simp) ends.digitNext
    rw [List.nil_append] at dropped
    simp only [taken, start, passed, dropped]
    exact readTail_of_ends ends

end Number

/-- The digits of a count are read back as the count. -/
theorem readCount_toDigits (n : UInt32) {rest : Bytes} (ends : EndsNumber rest) :
    readCount ((Nat.toDigits 10 n.toNat).flatMap String.utf8EncodeChar ++ rest) =
      .ok (n, rest) := by
  have numeral := isNumeral_toDigits n.toNat
  have small : n.toNat < UInt64.size := Nat.lt_trans n.toNat_lt (by decide)
  have number := Number.read_toDigits small ends
  rw [bytes_digits numeral.digits]
  obtain ⟨c, cs, written⟩ := List.exists_cons_of_ne_nil numeral.ne_nil
  rw [written] at numeral number ⊢
  have first := isDigit_byte (numeral.digits c (.head _))
  have count : countOf (.integer n.toNat) = .ok n := by
    have fits : (0 : Int) ≤ n.toNat ∧ (n.toNat : Int).toNat < UInt32.size :=
      ⟨Int.natCast_nonneg _, by rw [Int.toNat_natCast]; exact n.toNat_lt⟩
    rw [countOf, if_pos fits, Int.toNat_natCast, UInt32.ofNat_toNat]
  rw [List.map_cons, List.cons_append] at number ⊢
  rw [readCount, dropBlanks_cons (isBlankByte_of_isDigit first)]
  simp only [ne_of_isDigit first (show Byte.isDigit (Byte.of '-') = false by decide), if_false,
    first, if_true, readCountAfter, number, count]

end SchoolDesk.Json
