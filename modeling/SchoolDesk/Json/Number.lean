import SchoolDesk.Json.Bytes

/-!
# Numbers of a JSON text

A number is an integer or a double.  It is an integer if it has neither point
nor exponent and fits in 64 bits, with or without a sign.  A negative zero is a
double.

A double keeps as many digits as fit in 64 bits.  Later digits before the point
only count, and later digits after the point are dropped.  The kept digits are
then scaled by a power of ten, in double arithmetic.  A result that is too large
is refused, and one that is too small is zero.

`read` is for numbers that are wanted and `pass` for numbers in values that
nobody asked for.  `pass` checks the grammar alone, and every fault it finds is
an invalid number.
-/

namespace SchoolDesk.Json

/-- A number of a JSON text. -/
inductive Number where
  | integer (n : Int)
  | real (x : Float)
deriving DecidableEq, Repr

namespace Number

/-- The next byte is a digit. -/
def digitNext (s : Bytes) : Bool := s.head?.any Byte.isDigit

/-- Takes digits as long as the number stays below `limit`: the number, how many
digits were taken, and the rest. -/
def takeDigits (limit n : Nat) (taken : Nat) : Bytes → Nat × Nat × Bytes
  | [] => (n, taken, [])
  | b :: s =>
      let m := 10 * n + Byte.digitValue b
      if Byte.isDigit b && m < limit then takeDigits limit m (taken + 1) s
      else (n, taken, b :: s)
termination_by structural s => s

/-- A power of ten as a double. -/
def powerOfTen (n : Nat) : Float := Float.ofScientific 1 false n

/-- A double divided by a power of ten, in steps of at most `1e308`. -/
def scaleDown (x : Float) (n : Nat) : Float :=
  if n ≤ 308 then x / powerOfTen n
  else if x == 0.0 then x
  else scaleDown (x / powerOfTen 308) (n - 308)
termination_by n

/-- The double `digits · 10 ^ exponent`. -/
def ofParts (negative : Bool) (digits : Nat) (exponent : Int) : Except Cause Number :=
  let size := Float.ofNat digits
  let signed (x : Float) : Except Cause Number := .ok (.real (if negative then -x else x))
  if exponent < 0 then signed (scaleDown size exponent.natAbs)
  else if exponent ≤ 308 then
    let x := size * powerOfTen exponent.natAbs
    if x.isInf then .error .numberOutOfRange else signed x
  else if digits = 0 then signed size
  else .error .numberOutOfRange

/-- The integer of a sign and digits, or the double if there is none. -/
def ofDigits (negative : Bool) (digits : Nat) : Number :=
  if negative then
    if 0 < digits ∧ digits ≤ Nat.pow 2 63 then .integer (-digits) else .real (-Float.ofNat digits)
  else .integer digits

/-- The sign in front of the digits of an exponent: whether it is a minus, and
the rest. -/
def takeSign : Bytes → Bool × Bytes
  | [] => (false, [])
  | b :: s =>
      if b = Byte.of '-' then (true, s)
      else if b = Byte.of '+' then (false, s)
      else (false, b :: s)

/-- Reads on after the mark of an exponent. -/
def readExponent (negative : Bool) (digits : Nat) (exponent : Int) (s : Bytes) :
    Except Stop (Number × Bytes) :=
  let (down, s) := takeSign s
  match s with
  | [] => .error (.before [] .endInValue)
  | b :: s =>
      if Byte.isDigit b then
        let (e, _, s) := takeDigits (Nat.pow 2 31) (Byte.digitValue b) 1 s
        if digitNext s then
          if digits ≠ 0 ∧ down = false then .error (.before (s.drop 1) .numberOutOfRange)
          else .ok (.real (if negative then -0.0 else 0.0), dropDigits s)
        else
          match ofParts negative digits (if down then exponent - e else exponent + e) with
          | .ok x => .ok (x, s)
          | .error c => .error (.before s c)
      else .error (.before s .invalidNumber)

/-- The next byte is the mark of an exponent. -/
def isMark (b : UInt8) : Bool := b == Byte.of 'e' || b == Byte.of 'E'

/-- Reads on where an exponent may stand. -/
def readScale (negative : Bool) (digits : Nat) (exponent : Int) (s : Bytes) :
    Except Stop (Number × Bytes) :=
  if s.head?.any isMark then readExponent negative digits exponent (s.drop 1)
  else
    match ofParts negative digits exponent with
    | .ok x => .ok (x, s)
    | .error c => .error (.before s c)

/-- Reads on after a point. -/
def readFraction (negative : Bool) (digits : Nat) (exponent : Int) (s : Bytes) :
    Except Stop (Number × Bytes) :=
  let (digits, places, rest) := takeDigits UInt64.size digits 0 s
  if digitNext rest then readScale negative digits (exponent - places) (dropDigits rest)
  else if places = 0 then
    .error (.before (rest.drop 1) (if rest.isEmpty then .endInValue else .invalidNumber))
  else readScale negative digits (exponent - places) rest

/-- Reads on after the digits that fit, where `exponent` digits more were
passed. -/
def readTail (negative : Bool) (digits exponent : Nat) (s : Bytes) :
    Except Stop (Number × Bytes) :=
  match s with
  | [] => readWhole []
  | b :: rest =>
      if b = Byte.of '.' then readFraction negative digits exponent rest
      else if isMark b then readExponent negative digits exponent rest
      else readWhole (b :: rest)
where
  /-- The end of a number without point and exponent. -/
  readWhole (s : Bytes) : Except Stop (Number × Bytes) :=
    if exponent = 0 then .ok (ofDigits negative digits, s)
    else
      match ofParts negative digits exponent with
      | .ok x => .ok (x, s)
      | .error c => .error (.before s c)

/-- Reads a number after its sign. -/
def read (negative : Bool) : Bytes → Except Stop (Number × Bytes)
  | [] => .error (.before [] .endInValue)
  | b :: s =>
      if b = Byte.of '0' then
        if digitNext s then .error (.before (s.drop 1) .invalidNumber)
        else readTail negative 0 0 s
      else if Byte.isDigit b then
        let (digits, _, rest) := takeDigits UInt64.size (Byte.digitValue b) 1 s
        let passed := rest.takeWhile Byte.isDigit
        readTail negative digits passed.length (dropDigits rest)
      else .error (.before s .invalidNumber)

/-! ## Numbers that nobody asked for -/

/-- Passes over the exponent after its mark. -/
def passExponent (s : Bytes) : Except Stop Bytes :=
  let (_, s) := takeSign s
  if digitNext s then .ok (dropDigits s) else .error (.before (s.drop 1) .invalidNumber)

/-- Passes over an exponent if there is one. -/
def passScale (s : Bytes) : Except Stop Bytes :=
  if s.head?.any isMark then passExponent (s.drop 1) else .ok s

/-- Passes over what may stand after the whole part of a number. -/
def passTail (s : Bytes) : Except Stop Bytes :=
  if s.head? = some (Byte.of '.') then
    if digitNext (s.drop 1) then passScale (dropDigits (s.drop 1))
    else .error (.before (s.drop 2) .invalidNumber)
  else passScale s

/-- Passes over a number after its sign. -/
def pass (s : Bytes) : Except Stop Bytes :=
  match s with
  | [] => .error (.before [] .invalidNumber)
  | b :: s =>
      if b = Byte.of '0' then
        if digitNext s then .error (.before (s.drop 1) .invalidNumber) else passTail s
      else if Byte.isDigit b then passTail (dropDigits s)
      else .error (.before s .invalidNumber)

/-! ## What is left is shorter -/

theorem takeSign_length (s : Bytes) : (takeSign s).2.length ≤ s.length := by
  unfold takeSign
  split
  · simp
  · split
    · simp
    · split <;> simp

theorem takeDigits_length (limit n taken : Nat) (s : Bytes) :
    (takeDigits limit n taken s).2.2.length ≤ s.length := by
  induction s generalizing n taken with
  | nil => simp [takeDigits]
  | cons b s ih =>
    simp only [takeDigits]
    split
    · have := ih (10 * n + Byte.digitValue b) (taken + 1)
      simp only [List.length_cons]
      omega
    · simp

theorem readExponent_length {negative : Bool} {digits : Nat} {exponent : Int} {s r : Bytes}
    {x : Number} (h : readExponent negative digits exponent s = .ok (x, r)) :
    r.length ≤ s.length := by
  have hs := takeSign_length s
  unfold readExponent at h
  simp only at h
  split at h
  · cases h
  · rename_i b t heq
    rw [heq, List.length_cons] at hs
    have ht := takeDigits_length (Nat.pow 2 31) (Byte.digitValue b) 1 t
    rcases hq : takeDigits (Nat.pow 2 31) (Byte.digitValue b) 1 t with ⟨e, k, q⟩
    rw [hq] at h ht
    have hd := dropDigits_length q
    simp only at h ht
    split at h
    · split at h
      · split at h
        · cases h
        · simp only [Except.ok.injEq, Prod.mk.injEq] at h
          rw [← h.2]
          omega
      · split at h
        · simp only [Except.ok.injEq, Prod.mk.injEq] at h
          rw [← h.2]
          omega
        · cases h
    · cases h

theorem readScale_length {negative : Bool} {digits : Nat} {exponent : Int} {s r : Bytes}
    {x : Number} (h : readScale negative digits exponent s = .ok (x, r)) :
    r.length ≤ s.length := by
  unfold readScale at h
  split at h
  · have := readExponent_length h
    simp only [List.length_drop] at this
    omega
  · split at h
    · simp only [Except.ok.injEq, Prod.mk.injEq] at h
      simp [h.2]
    · cases h

theorem readFraction_length {negative : Bool} {digits : Nat} {exponent : Int} {s r : Bytes}
    {x : Number} (h : readFraction negative digits exponent s = .ok (x, r)) :
    r.length ≤ s.length := by
  have ht := takeDigits_length UInt64.size digits 0 s
  unfold readFraction at h
  rcases hq : takeDigits UInt64.size digits 0 s with ⟨n, k, q⟩
  rw [hq] at h ht
  have hd := dropDigits_length q
  simp only at h ht
  split at h
  · have := readScale_length h
    omega
  · split at h
    · cases h
    · have := readScale_length h
      omega

theorem readTail_length {negative : Bool} {digits exponent : Nat} {s r : Bytes}
    {x : Number} (h : readTail negative digits exponent s = .ok (x, r)) :
    r.length ≤ s.length := by
  have whole {t : Bytes} (h : readTail.readWhole negative digits exponent t = .ok (x, r)) :
      r.length ≤ t.length := by
    unfold readTail.readWhole at h
    split at h
    · simp only [Except.ok.injEq, Prod.mk.injEq] at h
      simp [h.2]
    · split at h
      · simp only [Except.ok.injEq, Prod.mk.injEq] at h
        simp [h.2]
      · cases h
  unfold readTail at h
  split at h
  · exact whole h
  · split at h
    · have := readFraction_length h
      simp only [List.length_cons]
      omega
    · split at h
      · have := readExponent_length h
        simp only [List.length_cons]
        omega
      · exact whole h

theorem read_length {negative : Bool} {s r : Bytes} {x : Number}
    (h : read negative s = .ok (x, r)) : r.length < s.length := by
  unfold read at h
  split at h
  · cases h
  · rename_i b t
    simp only [List.length_cons]
    split at h
    · split at h
      · cases h
      · have := readTail_length h
        omega
    · split at h
      · have ht := takeDigits_length UInt64.size (Byte.digitValue b) 1 t
        rcases hq : takeDigits UInt64.size (Byte.digitValue b) 1 t with ⟨n, k, q⟩
        rw [hq] at h ht
        have hd := dropDigits_length q
        have := readTail_length h
        simp only at ht
        omega
      · cases h

theorem passExponent_length {s r : Bytes} (h : passExponent s = .ok r) : r.length ≤ s.length := by
  have hs := takeSign_length s
  have hd := dropDigits_length (takeSign s).2
  simp only [passExponent] at h
  split at h
  · cases h
    omega
  · cases h

theorem passScale_length {s r : Bytes} (h : passScale s = .ok r) : r.length ≤ s.length := by
  unfold passScale at h
  split at h
  · have := passExponent_length h
    simp only [List.length_drop] at this
    omega
  · cases h
    omega

theorem passTail_length {s r : Bytes} (h : passTail s = .ok r) : r.length ≤ s.length := by
  have hd := dropDigits_length (s.drop 1)
  simp only [List.length_drop] at hd
  unfold passTail at h
  split at h
  · split at h
    · have := passScale_length h
      omega
    · cases h
  · exact passScale_length h

theorem pass_length {s r : Bytes} (h : pass s = .ok r) : r.length < s.length := by
  unfold pass at h
  split at h
  · cases h
  · rename_i b t
    have hd := dropDigits_length t
    simp only [List.length_cons]
    split at h
    · split at h
      · cases h
      · have := passTail_length h
        omega
    · split at h
      · have := passTail_length h
        omega
      · cases h

end Number

end SchoolDesk.Json
