import SchoolDesk.Json.Exact
import SchoolDesk.Proofs.Decimal.Nearest
import SchoolDesk.Proofs.Json.Number

/-!
# What is written for a double denotes it

A number stands for its digits, scaled as its point and its exponent say (`size_of_parts`).
The layouts move the point of a decimal and add zeros, and what is written stands for the
decimal all the same (`size_write`).  The shortest decimal of a double is rounded to the
double, so the number that is written for a double denotes it (`denotes_writeReal`).
-/

namespace SchoolDesk.Json

namespace Number

theorem takeWhile_isDigit {ds s : Bytes} (digits : ∀ b ∈ ds, Byte.isDigit b = true)
    (h : digitNext s = false) : (ds ++ s).takeWhile Byte.isDigit = ds := by
  rw [List.takeWhile_append_of_pos digits]
  cases s with
  | nil => rw [List.takeWhile_nil, List.append_nil]
  | cons b s =>
      have other : Byte.isDigit b = false := h
      rw [List.takeWhile_cons, other]
      simp

theorem endsNumber_nil : EndsNumber [] := by simp [EndsNumber]

/-- A number stands for its digits, without the point, scaled by the exponent. -/
theorem size_of_parts {w f x : Bytes} (hw : IsDigits w) (hf : IsFraction f) (hx : IsExponent x) :
    size (w ++ (f ++ x)) =
      numeral (w ++ f.drop 1) * 10 ^ (writtenExponent x - (f.drop 1).length) := by
  have next : digitNext x = false := by
    have := digitNext_exponent hx endsNumber_nil
    rwa [List.append_nil] at this
  cases hf with
  | none =>
      have point : x.head? ≠ some (Byte.of '.') := by
        cases hx with
        | none => simp
        | digits hm => rcases hm with rfl | rfl <;> simp
      rw [List.nil_append, size, takeWhile_isDigit hw.digits next, dropDigits_append hw.digits next,
        fractionDigits, if_neg point, afterFraction, if_neg point]
      simp
  | @digits ds h =>
      have point : digitNext (Byte.of '.' :: ds ++ x) = false := rfl
      rw [size, takeWhile_isDigit hw.digits point, dropDigits_append hw.digits point]
      simp [fractionDigits, afterFraction, takeWhile_isDigit h.digits next,
        dropDigits_append h.digits next]

/-- Digits spell the same number as bytes. -/
theorem numeral_map {cs : List Char} (digits : ∀ c ∈ cs, c.isDigit = true) :
    numeral (cs.map Byte.of) = Nat.ofDigitChars 10 cs 0 := by
  rw [numeral, Nat.ofDigitChars]
  generalize 0 = n
  induction cs generalizing n with
  | nil => rfl
  | cons c cs ih =>
      rw [List.map_cons, List.foldl_cons, List.foldl_cons, digitValue_byte (digits c (.head _))]
      exact ih (fun x hx => digits x (.tail _ hx)) _

theorem ofDigitChars_zeros (k n : Nat) :
    Nat.ofDigitChars 10 (List.replicate k '0') n = n * 10 ^ k := by
  induction k generalizing n with
  | zero => rw [List.replicate_zero, Nat.ofDigitChars_nil, Nat.pow_zero, Nat.mul_one]
  | succ k ih =>
      rw [List.replicate_succ, Nat.ofDigitChars_cons, Nat.sub_self, Nat.add_zero, ih, Nat.pow_succ]
      ring

open Decimal (Layout)

/-- Digits with a point between them. -/
theorem size_pointed {w f : List Char} (whole : IsNumeral w) (fraction : IsNumeral f) :
    size ((w ++ '.' :: f).flatMap String.utf8EncodeChar) =
      Nat.ofDigitChars 10 (w ++ f) 0 * 10 ^ (-f.length : Int) := by
  have point : String.utf8EncodeChar '.' = [Byte.of '.'] := by decide
  have all : ∀ c ∈ w ++ f, c.isDigit = true := fun c hc =>
    (List.mem_append.mp hc).elim (whole.digits c) (fraction.digits c)
  have parts := size_of_parts whole.isDigits (.digits fraction.isDigits) .none
  rw [List.append_nil, List.drop_one, List.tail_cons, ← List.map_append, numeral_map all] at parts
  rw [List.flatMap_append, List.flatMap_cons, point, bytes_digits whole.digits,
    bytes_digits fraction.digits]
  rw [show [Byte.of '.'] ++ f.map Byte.of = Byte.of '.' :: f.map Byte.of from rfl, parts]
  simp [writtenExponent]

/-- Digits that are written plainly stand for their number, scaled as the point says. -/
theorem size_plain {cs : List Char} {whole : Int} (digits : IsNumeral cs) :
    size ((realLayout.plain cs whole).flatMap String.utf8EncodeChar) =
      Nat.ofDigitChars 10 cs 0 * 10 ^ (whole - cs.length) := by
  have nought : IsNumeral ['0'] := isNumeral_toDigits 0
  have zero : Nat.ofDigitChars 10 ['0'] 0 = 0 := rfl
  rw [Layout.plain]
  split
  · next small =>
      refine (size_pointed nought (isNumeral_append _ digits).1).trans ?_
      rw [Nat.ofDigitChars_append, Nat.ofDigitChars_append, zero, ofDigitChars_zeros, Nat.zero_mul]
      congr 2
      rw [List.length_append, List.length_replicate]
      omega
  · next large =>
      obtain ⟨n, rfl⟩ := Int.eq_ofNat_of_zero_le (show 0 ≤ whole by omega)
      simp only [Int.toNat_natCast]
      split
      · next short =>
          refine (size_pointed (isNumeral_append _ digits).2 nought).trans ?_
          have shift : (10 : ℚ) ^ ((n : Int) - cs.length) = 10 ^ (n - cs.length) := by
            rw [← zpow_natCast, Nat.cast_sub short]
          have last (k : Nat) : Nat.ofDigitChars 10 ['0'] k = k * 10 := ofDigitChars_zeros 1 k
          rw [Nat.ofDigitChars_append, Nat.ofDigitChars_append, ofDigitChars_zeros, last, shift]
          push_cast
          rw [List.length_singleton, Nat.cast_one, zpow_neg_one]
          ring
      · next long =>
          have ne : cs.take n ≠ [] ∧ cs.drop n ≠ [] := by
            simp only [ne_eq, List.take_eq_nil_iff, List.drop_eq_nil_iff, digits.ne_nil, or_false]
            omega
          refine (size_pointed (digits.of_mem ne.1 fun _ => List.mem_of_mem_take)
            (digits.of_mem ne.2 fun _ => List.mem_of_mem_drop)).trans ?_
          rw [List.take_append_drop, List.length_drop]
          congr 2
          omega

/-- The exponent is written with its sign. -/
theorem writtenExponent_marked (exponent : Int) :
    writtenExponent (('e' :: (if exponent < 0 then ['-'] else ['+']) ++
      Nat.toDigits 10 exponent.natAbs).flatMap String.utf8EncodeChar) = exponent := by
  have digits := (isNumeral_toDigits exponent.natAbs).digits
  have spelt : numeral ((Nat.toDigits 10 exponent.natAbs).map Byte.of) = exponent.natAbs := by
    rw [numeral_map digits, Nat.ofDigitChars_ten_toDigits]
  by_cases down : exponent < 0
  · have bytes : ('e' :: ['-']).flatMap String.utf8EncodeChar = [Byte.of 'e', Byte.of '-'] := by
      decide
    rw [if_pos down, List.flatMap_append, bytes, bytes_digits digits]
    show -(numeral ((Nat.toDigits 10 exponent.natAbs).map Byte.of) : Int) = exponent
    rw [spelt]
    omega
  · have bytes : ('e' :: ['+']).flatMap String.utf8EncodeChar = [Byte.of 'e', Byte.of '+'] := by
      decide
    rw [if_neg down, List.flatMap_append, bytes, bytes_digits digits]
    show (numeral ((Nat.toDigits 10 exponent.natAbs).map Byte.of) : Int) = exponent
    rw [spelt]
    omega

/-- Digits with an exponent stand for their number, scaled as the exponent says. -/
theorem size_scientific {cs : List Char} (digits : IsNumeral cs) (exponent : Int) :
    size ((realLayout.scientific cs exponent).flatMap String.utf8EncodeChar) =
      Nat.ofDigitChars 10 cs 0 * 10 ^ (exponent + 1 - cs.length) := by
  obtain ⟨c, cs, rfl⟩ := List.exists_cons_of_ne_nil digits.ne_nil
  obtain ⟨fraction, hf, behind, form⟩ := scientific_parts digits exponent
  have first : IsDigits [Byte.of c] := (digits.of_mem (g := [c]) (by simp) (by simp)).isDigits
  rw [form, size_of_parts first hf (isExponent_marked exponent), behind, writtenExponent_marked,
    List.singleton_append, ← List.map_cons, numeral_map digits.digits, List.length_map,
    List.length_cons]
  congr 2
  push_cast
  ring

/-- What is written for a decimal stands for the decimal. -/
theorem size_write (d : Decimal) :
    size ((realLayout.write d).flatMap String.utf8EncodeChar) = d.value := by
  have digits := isNumeral_toDigits d.digits
  rw [Decimal.value]
  simp only [Layout.write]
  split
  · rw [size_plain digits, Nat.ofDigitChars_ten_toDigits]
    congr 2
    omega
  · rw [size_scientific digits, Nat.ofDigitChars_ten_toDigits]
    congr 2
    omega

/-- Behind a minus sign a number begins with a digit. -/
theorem digitNext_of_minus {s : Bytes} (h : IsNumber (Byte.of '-' :: s)) : digitNext s = true := by
  generalize form : Byte.of '-' :: s = t at h
  cases h with
  | parts hs hw hf he =>
      obtain ⟨b, ds, rfl⟩ := List.exists_cons_of_ne_nil hw.ne_nil
      have digit := hw.digits b (.head _)
      rcases hs with rfl | rfl
      · have minus := (List.cons.inj form).1
        rw [← minus] at digit
        exact absurd digit (by decide)
      · rw [(List.cons.inj form).2]
        exact digit

end Number

open Number

theorem denotes_writeFloat {x : Float} (finite : x.isFinite = true) :
    Denotes ((realLayout.writeFloat x).flatMap String.utf8EncodeChar) x := by
  have form := isNumber_writeFloat x
  have rounds := Decimal.roundsTo_ofFloat finite
  rw [← size_write] at rounds
  have minus : String.utf8EncodeChar '-' = [Byte.of '-'] := by decide
  simp only [Decimal.Layout.writeFloat] at form ⊢
  by_cases negative : isNegative x = true
  · have unit : Double.unit x = -1 := if_pos negative
    rw [unit, neg_one_mul] at rounds
    rw [if_pos negative, List.flatMap_cons, minus, List.singleton_append] at form ⊢
    exact ⟨form, ⟨fun _ => of_decide_eq_true negative, fun _ => rfl⟩, rounds⟩
  · have unit : Double.unit x = 1 := if_neg negative
    rw [unit, one_mul] at rounds
    rw [if_neg negative] at form ⊢
    -- The first byte is a digit, so it is no minus sign.
    have zero := Decimal.exponent_ofFloat_of_digits_eq_zero (x := x)
    have digit : digitNext ((realLayout.write (Decimal.ofFloat x)).flatMap
        String.utf8EncodeChar) = true :=
      digitNext_of_minus (isNumber_write (.inr rfl) zero)
    have plain : ((realLayout.write (Decimal.ofFloat x)).flatMap String.utf8EncodeChar).head? ≠
        some (Byte.of '-') := by
      intro first
      rw [digitNext, first] at digit
      exact absurd digit (by decide)
    refine ⟨form, ⟨fun first => absurd first plain, fun h => absurd (decide_eq_true h) negative⟩, ?_⟩
    rwa [exact, if_neg plain]

/-- What is written for a finite double denotes the double. -/
theorem denotes_writeReal {x : Float} (finite : x.isFinite = true) :
    Denotes ((writeReal x).flatMap String.utf8EncodeChar) x := by
  rw [writeReal, if_pos finite]
  exact denotes_writeFloat finite

end SchoolDesk.Json
