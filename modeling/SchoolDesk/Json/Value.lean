import SchoolDesk.Json.Number
import SchoolDesk.Json.Quote

/-!
# Values that are wanted

A field of a record wants a text, a count of 32 bits, or a list of texts.  Each
kind has a reader, which passes the blanks in front of the value.  A value of
another kind is read as far as its kind is plain, so that the complaint can name
it, and what is wrong in that part comes first.
-/

namespace SchoolDesk.Json

/-- What a number is, as something found. -/
def Number.found : Number → Found
  | .integer n => .integer n
  | .real x => .real x

/-- The kind of the value that begins here, and what is left after as much of it as
is plain. -/
def foundAt : Bytes → Except Stop (Found × Bytes)
  | [] => .error (.before [] .endInValue)
  | b :: s =>
      if b = Byte.of 'n' then (dropWord ("ull".toList.map Byte.of) s).map fun s => (.null, s)
      else if b = Byte.of 't' then
        (dropWord ("rue".toList.map Byte.of) s).map fun s => (.boolean true, s)
      else if b = Byte.of 'f' then
        (dropWord ("alse".toList.map Byte.of) s).map fun s => (.boolean false, s)
      else if b = Byte.of '-' then (Number.read true s).map fun p => (p.1.found, p.2)
      else if Byte.isDigit b then (Number.read false (b :: s)).map fun p => (p.1.found, p.2)
      else if b = Byte.of '"' then (readText s).map fun p => (.text p.1, p.2)
      else if b = Byte.of '[' then .ok (.list, b :: s)
      else if b = Byte.of '\x7b' then .ok (.object, b :: s)
      else .error (.before s .expectedValue)

/-- What is wrong with a value that is not of the wanted kind. -/
def mismatch (wanted : Wanted) (s : Bytes) : Stop :=
  match foundAt s with
  | .ok (found, s) => .before s (.wrongKind found wanted)
  | .error e => e

/-! ## Texts and counts -/

/-- Reads a text. -/
def readTextValue (s : Bytes) : Except Stop (String × Bytes) :=
  match dropBlanks s with
  | [] => .error (.before [] .endInValue)
  | b :: s => if b = Byte.of '"' then readText s else .error (mismatch .text (b :: s))

/-- The count that a number is. -/
def countOf : Number → Except Cause UInt32
  | .integer n =>
      if 0 ≤ n ∧ n.toNat < UInt32.size then .ok (UInt32.ofNat n.toNat) else .error (.wrongCount n)
  | .real x => .error (.wrongKind (.real x) .count)

/-- Reads a number that must be a count. -/
def readCountAfter (negative : Bool) (s : Bytes) : Except Stop (UInt32 × Bytes) :=
  match Number.read negative s with
  | .ok (x, s) =>
      match countOf x with
      | .ok n => .ok (n, s)
      | .error c => .error (.before s c)
  | .error e => .error e

/-- Reads a count. -/
def readCount (s : Bytes) : Except Stop (UInt32 × Bytes) :=
  match dropBlanks s with
  | [] => .error (.before [] .endInValue)
  | b :: s =>
      if b = Byte.of '-' then readCountAfter true s
      else if Byte.isDigit b then readCountAfter false (b :: s)
      else .error (mismatch .count (b :: s))

/-! ## Items and members -/

/-- What comes next inside a bracket. -/
inductive Ahead where
  /-- An item, which begins here. -/
  | item (s : Bytes)
  /-- The closing bracket, after which the text goes on here. -/
  | closed (s : Bytes)

/-- Looks for the next item of a list, where an item follows a comma unless it is
the first. -/
def nextItem (first : Bool) (s : Bytes) : Except Stop Ahead :=
  match dropBlanks s with
  | [] => .error (.before [] .endInList)
  | b :: s =>
      if b = Byte.of ']' then .ok (.closed s)
      else if first then .ok (.item (b :: s))
      else if b = Byte.of ',' then
        match dropBlanks s with
        | [] => .error (.before [] .endInValue)
        | c :: s =>
            if c = Byte.of ']' then .error (.before s .trailingComma) else .ok (.item (c :: s))
      else .error (.before s .expectedCommaOrBracket)

/-- Looks for the next member of an object.  It begins after the quote of its
key. -/
def nextMember (first : Bool) (s : Bytes) : Except Stop Ahead :=
  match dropBlanks s with
  | [] => .error (.before [] .endInObject)
  | b :: s =>
      if b = Byte.of '\x7d' then .ok (.closed s)
      else if first then
        if b = Byte.of '"' then .ok (.item s) else .error (.before s .keyNotText)
      else if b = Byte.of ',' then
        match dropBlanks s with
        | [] => .error (.before [] .endInValue)
        | c :: s =>
            if c = Byte.of '"' then .ok (.item s)
            else if c = Byte.of '\x7d' then .error (.before s .trailingComma)
            else .error (.before s .keyNotText)
      else .error (.before s .expectedCommaOrBrace)

/-- A list that holds all it should must close here. -/
def closeList (s : Bytes) : Except Stop Bytes :=
  match dropBlanks s with
  | [] => .error (.before [] .endInList)
  | b :: s =>
      if b = Byte.of ']' then .ok s
      else if b = Byte.of ',' then
        let after := dropBlanks s
        .error (.before (after.drop 1)
          (if after.head? = some (Byte.of ']') then .trailingComma else .trailingCharacters))
      else .error (.before s .trailingCharacters)

/-- What is left after a closing brace if it comes next. -/
def dropClosing (s : Bytes) : Bytes :=
  let after := dropBlanks s
  if after.head? = some (Byte.of '\x7d') then after.drop 1 else after

/-! ## What is left is shorter -/

theorem readTextValue_length {s r : Bytes} {t : String} (h : readTextValue s = .ok (t, r)) :
    r.length < s.length := by
  have hb := dropBlanks_length s
  unfold readTextValue at h
  split at h
  · cases h
  · rename_i heq
    rw [heq, List.length_cons] at hb
    split at h
    · have := readText_length h
      omega
    · cases h

theorem readCountAfter_length {negative : Bool} {s r : Bytes} {n : UInt32}
    (h : readCountAfter negative s = .ok (n, r)) : r.length < s.length := by
  unfold readCountAfter at h
  split at h
  · rename_i hx
    split at h
    · simp only [Except.ok.injEq, Prod.mk.injEq] at h
      rw [← h.2]
      exact Number.read_length hx
    · cases h
  · cases h

theorem readCount_length {s r : Bytes} {n : UInt32} (h : readCount s = .ok (n, r)) :
    r.length < s.length := by
  have hb := dropBlanks_length s
  unfold readCount at h
  split at h
  · cases h
  · rename_i heq
    rw [heq, List.length_cons] at hb
    split at h
    · have := readCountAfter_length h
      omega
    · split at h
      · have := readCountAfter_length h
        simp only [List.length_cons] at this
        omega
      · cases h

theorem nextItem_length {first : Bool} {s r : Bytes} (h : nextItem first s = .ok (.item r)) :
    r.length ≤ s.length := by
  have hb := dropBlanks_length s
  unfold nextItem at h
  split at h
  · cases h
  · rename_i b t heq
    rw [heq, List.length_cons] at hb
    split at h
    · cases h
    · split at h
      · cases h
        simpa using hb
      · split at h
        · have ht := dropBlanks_length t
          split at h
          · cases h
          · rename_i heq
            rw [heq, List.length_cons] at ht
            split at h
            · cases h
            · cases h
              simp only [List.length_cons]
              omega
        · cases h

theorem nextMember_length {first : Bool} {s r : Bytes} (h : nextMember first s = .ok (.item r)) :
    r.length < s.length := by
  have hb := dropBlanks_length s
  unfold nextMember at h
  split at h
  · cases h
  · rename_i b t heq
    rw [heq, List.length_cons] at hb
    split at h
    · cases h
    · split at h
      · split at h
        · cases h
          omega
        · cases h
      · split at h
        · have ht := dropBlanks_length t
          split at h
          · cases h
          · rename_i heq
            rw [heq, List.length_cons] at ht
            split at h
            · cases h
              omega
            · split at h <;> cases h
        · cases h

/-! ## Lists of texts -/

/-- Reads the items of a list of texts.  The items read so far come last one
first, and `i` is their number. -/
def readItems (done : List String) (i : Nat) (s : Bytes) : Except Stop (List String × Bytes) :=
  match _h : nextItem (i == 0) s with
  | .error e => .error e
  | .ok (.closed s) => .ok (done.reverse, s)
  | .ok (.item q) =>
      match _ht : readTextValue q with
      | .ok (t, r) => readItems (t :: done) (i + 1) r
      | .error e => .error (e.inside (.index i))
termination_by s.length
decreasing_by
  have := nextItem_length _h
  have := readTextValue_length _ht
  omega

/-- Reads a list of texts. -/
def readTexts (s : Bytes) : Except Stop (List String × Bytes) :=
  match dropBlanks s with
  | [] => .error (.before [] .endInValue)
  | b :: s =>
      if b = Byte.of '[' then readItems [] 0 s
      else .error (mismatch .list (b :: s))

theorem nextItem_closed_length {first : Bool} {s r : Bytes}
    (h : nextItem first s = .ok (.closed r)) : r.length < s.length := by
  have hb := dropBlanks_length s
  unfold nextItem at h
  split at h
  · cases h
  · rename_i heq
    rw [heq, List.length_cons] at hb
    split at h
    · cases h
      omega
    · split at h
      · cases h
      · split at h
        · split at h
          · cases h
          · split at h <;> cases h
        · cases h

theorem readItems_length {done ts : List String} {i : Nat} {s r : Bytes}
    (h : readItems done i s = .ok (ts, r)) : r.length < s.length := by
  fun_induction readItems done i s with
  | case1 => cases h
  | case2 done i s q hq =>
    cases h
    exact nextItem_closed_length hq
  | case3 done i s q hq t p hp ih =>
    have := nextItem_length hq
    have := readTextValue_length hp
    have := ih h
    omega
  | case4 => cases h

theorem readTexts_length {s r : Bytes} {ts : List String} (h : readTexts s = .ok (ts, r)) :
    r.length < s.length := by
  have hb := dropBlanks_length s
  unfold readTexts at h
  split at h
  · cases h
  · rename_i heq
    rw [heq, List.length_cons] at hb
    split at h
    · have := readItems_length h
      omega
    · cases h

end SchoolDesk.Json
