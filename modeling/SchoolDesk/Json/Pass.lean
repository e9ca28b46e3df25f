import SchoolDesk.Json.Number
import SchoolDesk.Json.Quote

/-!
# Values that nobody asked for

An object may hold members that no field wants.  Their values are passed over.
They must be JSON, but texts may hold bad surrogates and numbers may be out of
range.

The brackets that are open are kept on a list, innermost first, so that no depth
is too great.  `passWithin` reads a value that must come next, and `passOn` goes
on after an opening bracket or after a value.  Both end when the list is empty.
-/

namespace SchoolDesk.Json

/-- A bracket that is open. -/
inductive Bracket where
  | list
  | object
deriving DecidableEq, Repr

namespace Bracket

/-- The byte that closes a bracket. -/
def closing : Bracket → UInt8
  | .list => Byte.of ']'
  | .object => Byte.of '\x7d'

/-- What is wrong if the text ends inside a bracket. -/
def ending : Bracket → Cause
  | .list => .endInList
  | .object => .endInObject

/-- What is wrong if neither a comma nor the closing bracket follows a value. -/
def noComma : Bracket → Cause
  | .list => .expectedCommaOrBracket
  | .object => .expectedCommaOrBrace

end Bracket

/-- Passes over a value that is no list and no object. -/
def passScalar : Bytes → Except Stop Bytes
  | [] => .error (.before [] .endInValue)
  | b :: s =>
      if b = Byte.of 'n' then dropWord ("ull".toList.map Byte.of) s
      else if b = Byte.of 't' then dropWord ("rue".toList.map Byte.of) s
      else if b = Byte.of 'f' then dropWord ("alse".toList.map Byte.of) s
      else if b = Byte.of '-' then Number.pass s
      else if Byte.isDigit b then Number.pass (b :: s)
      else if b = Byte.of '"' then passText s
      else .error (.before s .expectedValue)

/-- A colon must come next. -/
def dropColon (s : Bytes) : Except Stop Bytes :=
  match dropBlanks s with
  | [] => .error (.before [] .endInObject)
  | b :: s => if b = Byte.of ':' then .ok s else .error (.before s .expectedColon)

/-- Passes over a key and its colon. -/
def passKey (s : Bytes) : Except Stop Bytes :=
  match dropBlanks s with
  | [] => .error (.before [] .endInObject)
  | b :: s =>
      if b = Byte.of '"' then
        match passText s with
        | .ok s => dropColon s
        | .error e => .error e
      else .error (.before s .keyNotText)

/-- Passes over what stands in front of a value inside a bracket. -/
def passLead : Bracket → Bytes → Except Stop Bytes
  | .list, s => .ok s
  | .object, s => passKey s

/-! ## What is left is shorter -/

theorem passScalar_length {s r : Bytes} (h : passScalar s = .ok r) : r.length < s.length := by
  unfold passScalar at h
  split at h
  · cases h
  · simp only [List.length_cons]
    repeat' split at h
    · have := dropWord_length h; omega
    · have := dropWord_length h; omega
    · have := dropWord_length h; omega
    · have := Number.pass_length h; omega
    · have := Number.pass_length h; simpa using this
    · have := passText_length h; omega
    · cases h

theorem dropColon_length {s r : Bytes} (h : dropColon s = .ok r) : r.length < s.length := by
  have hb := dropBlanks_length s
  unfold dropColon at h
  split at h
  · cases h
  · rename_i heq
    rw [heq, List.length_cons] at hb
    split at h
    · cases h
      omega
    · cases h

theorem passKey_length {s r : Bytes} (h : passKey s = .ok r) : r.length < s.length := by
  have hb := dropBlanks_length s
  unfold passKey at h
  split at h
  · cases h
  · rename_i heq
    rw [heq, List.length_cons] at hb
    split at h
    · split at h
      · rename_i ht
        have := passText_length ht
        have := dropColon_length h
        omega
      · cases h
    · cases h

theorem passLead_length {top : Bracket} {s r : Bytes} (h : passLead top s = .ok r) :
    r.length ≤ s.length := by
  cases top with
  | list => cases h; exact Nat.le_refl _
  | object => exact Nat.le_of_lt (passKey_length h)

/-- Where the next item begins: at once after an opening bracket, and after a
comma otherwise. -/
def passComma (first : Bool) (top : Bracket) (b : UInt8) (s : Bytes) : Except Stop Bytes :=
  if first then .ok (b :: s)
  else if b = Byte.of ',' then .ok s
  else .error (.before s top.noComma)

theorem passComma_length {first : Bool} {top : Bracket} {b : UInt8} {s r : Bytes}
    (h : passComma first top b s = .ok r) : r.length ≤ s.length + if first then 1 else 0 := by
  unfold passComma at h
  split at h
  · cases h
    simp_all
  · split at h
    · cases h
      simp
    · cases h

/-! ## Whole values -/

mutual

/-- Passes over a value inside the open brackets, and over all that follows it in
them. -/
def passWithin (stack : List Bracket) (s : Bytes) : Except Stop Bytes :=
  match _h : dropBlanks s with
  | [] => .error (.before [] .endInValue)
  | b :: r =>
      if b = Byte.of '[' then passOn true (.list :: stack) r
      else if b = Byte.of '\x7b' then passOn true (.object :: stack) r
      else
        match _hs : passScalar (b :: r) with
        | .ok q => passOn false stack q
        | .error e => .error e
termination_by 2 * s.length
decreasing_by
  all_goals
    have hb := dropBlanks_length s
    rw [_h, List.length_cons] at hb
  · simp only [ite_true]
    omega
  · simp only [ite_true]
    omega
  · have := passScalar_length _hs
    simp only [List.length_cons] at this
    simp only [ite_false]
    omega

/-- Passes over what follows in the open brackets, right after an opening bracket
or after a value. -/
def passOn (first : Bool) (stack : List Bracket) (s : Bytes) : Except Stop Bytes :=
  match stack with
  | [] => .ok s
  | top :: stack =>
      match _h : dropBlanks s with
      | [] => .error (.before [] top.ending)
      | b :: r =>
          if b = top.closing then passOn false stack r
          else
            match _hc : passComma first top b r with
            | .ok q =>
                match _hl : passLead top q with
                | .ok q => passWithin (top :: stack) q
                | .error e => .error e
            | .error e => .error e
termination_by 2 * s.length + if first then 1 else 0
decreasing_by
  all_goals
    have hb := dropBlanks_length s
    rw [_h, List.length_cons] at hb
  · simp only [ite_false]
    omega
  · have hc := passComma_length _hc
    have hl := passLead_length _hl
    cases first
    · simp only [Bool.false_eq_true, ite_false] at hc ⊢
      omega
    · simp only [ite_true] at hc ⊢
      omega

end

/-- Passes over one value. -/
def passValue (s : Bytes) : Except Stop Bytes := passWithin [] s

/-- Both readers leave less than they were given, by induction on its length. -/
theorem passWithin_passOn_length (n : Nat) :
    (∀ (stack : List Bracket) (s r : Bytes), 2 * s.length ≤ n →
      passWithin stack s = .ok r → r.length < s.length) ∧
    (∀ (first : Bool) (stack : List Bracket) (s r : Bytes),
      (2 * s.length + if first then 1 else 0) ≤ n →
      passOn first stack s = .ok r → r.length ≤ s.length) := by
  induction n using Nat.strongRecOn with
  | _ n ih =>
    constructor
    · intro stack s r hn h
      have hb := dropBlanks_length s
      rw [passWithin.eq_def] at h
      split at h
      · cases h
      · rename_i b t heq
        rw [heq, List.length_cons] at hb
        have on (first : Bool) (stack : List Bracket) (q : Bytes) (hq : q.length < s.length)
            (h : passOn first stack q = .ok r) : r.length < s.length := by
          have hlt : (2 * q.length + if first then 1 else 0) < n := by split <;> omega
          have := (ih _ hlt).2 first stack q r (Nat.le_refl _) h
          omega
        split at h
        · exact on _ _ _ (by omega) h
        · split at h
          · exact on _ _ _ (by omega) h
          · split at h
            · rename_i hs
              have hs := passScalar_length hs
              simp only [List.length_cons] at hs
              exact on _ _ _ (by omega) h
            · cases h
    · intro first stack s r hn h
      have hb := dropBlanks_length s
      rw [passOn.eq_def] at h
      split at h
      · cases h
        exact Nat.le_refl _
      · split at h
        · cases h
        · rename_i heq
          rw [heq, List.length_cons] at hb
          split at h
          · have := (ih _ (by split at hn <;> simp <;> omega)).2 _ _ _ r (Nat.le_refl _) h
            omega
          · split at h
            · rename_i hc
              have hc := passComma_length hc
              split at h
              · rename_i hl
                have hl := passLead_length hl
                have := (ih _ (by split at hn <;> simp_all <;> omega)).1 _ _ r (Nat.le_refl _) h
                split at hc <;> omega
              · cases h
            · cases h

theorem passValue_length {s r : Bytes} (h : passValue s = .ok r) : r.length < s.length :=
  (passWithin_passOn_length _).1 _ _ _ (Nat.le_refl _) h

end SchoolDesk.Json
