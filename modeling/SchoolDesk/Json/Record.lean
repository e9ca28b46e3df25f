import SchoolDesk.Json.Pass
import SchoolDesk.Json.Value

/-!
# Records

A record has named fields, each of a kind.  In JSON it is an object with a member
for every field, in any order.  Members with other names are passed over.  A
field must not have two members, and the first field in order that has none is
missing.  A list with one item for each field, in order, is a record too.

The reader fills a *draft*, which holds the values read so far.  A draft with
every value is a *row*.  Both are typed by the fields, so a row of a record is a
tuple of texts, counts and lists.

Between the members nothing has a path.  What is wrong inside the value of a
member has its key in the path, whether a field wants the member or not.  Where a
closing brace or bracket comes next, a record that is not as it should be is found
out behind it.
-/

namespace SchoolDesk.Json

/-- The kinds of value that a field may want. -/
inductive Kind where
  | text
  | count
  | texts
deriving DecidableEq, Repr

/-- The values of a kind. -/
abbrev Kind.Holds : Kind → Type
  | .text => String
  | .count => UInt32
  | .texts => List String

/-- A field of a record. -/
structure Field where
  name : String
  kind : Kind
deriving DecidableEq, Repr

/-- A record type. -/
structure Record where
  name : String
  fields : List Field
deriving DecidableEq, Repr

/-- One value for each field. -/
abbrev Row : List Field → Type
  | [] => Unit
  | f :: fs => f.kind.Holds × Row fs

/-- At most one value for each field. -/
abbrev Draft : List Field → Type
  | [] => Unit
  | f :: fs => Option f.kind.Holds × Draft fs

namespace Draft

/-- The draft without values. -/
def empty : (fs : List Field) → Draft fs
  | [] => ()
  | _ :: fs => (none, empty fs)

/-- The row of a draft, or its first field without a value. -/
def complete : (fs : List Field) → Draft fs → Except Cause (Row fs)
  | [], _ => .ok ()
  | f :: _, (none, _) => .error (.missingField f.name)
  | _ :: fs, (some v, d) =>
      match complete fs d with
      | .ok row => .ok (v, row)
      | .error c => .error c

/-- What a draft does with the value of a member. -/
inductive Slot (fs : List Field) where
  /-- A field wants a value of this kind, and this is the draft with it. -/
  | vacant (kind : Kind) (fill : kind.Holds → Draft fs)
  /-- The field has a value. -/
  | taken
  /-- No field has the name. -/
  | unknown

/-- Where the value of a member with a given name goes. -/
def slot (name : String) : (fs : List Field) → Draft fs → Slot fs
  | [], _ => .unknown
  | f :: fs, (value, d) =>
      if f.name = name then
        match value with
        | some _ => .taken
        | none => .vacant f.kind fun v => (some v, d)
      else
        match slot name fs d with
        | .vacant kind fill => .vacant kind fun v => (value, fill v)
        | .taken => .taken
        | .unknown => .unknown

end Draft

/-- Gives what is wrong inside a value the path to the value. -/
def placed {α : Type} (step : Step) : Except Stop α → Except Stop α
  | .ok a => .ok a
  | .error e => .error (e.inside step)

/-- Reads a value of a kind. -/
def Kind.read : (kind : Kind) → Bytes → Except Stop (kind.Holds × Bytes)
  | .text => readTextValue
  | .count => readCount
  | .texts => readTexts

/-! ## Lists -/

/-- Reads the values of the fields from field number `i` on, in order. -/
def readRow (record : Record) : (fs : List Field) → Nat → Bytes → Except Stop (Row fs × Bytes)
  | [], _, s => .ok ((), s)
  | f :: fs, i, s =>
      match nextItem (i == 0) s with
      | .error e => .error e
      | .ok (.closed s) =>
          .error (.before s (.wrongLength i record.name record.fields.length))
      | .ok (.item s) =>
          match placed (.index i) (f.kind.read s) with
          | .error e => .error e
          | .ok (v, s) =>
              match readRow record fs (i + 1) s with
              | .ok (row, s) => .ok ((v, row), s)
              | .error e => .error e
termination_by structural fs => fs

/-- Reads a record written as a list, after its bracket. -/
def readList (record : Record) (s : Bytes) : Except Stop (Row record.fields × Bytes) :=
  match readRow record record.fields 0 s with
  | .ok (row, s) =>
      match closeList s with
      | .ok s => .ok (row, s)
      | .error e => .error e
  | .error e => .error e

/-! ## Objects -/

/-- Reads the value of a member, from its colon on, into a draft. -/
def readMember {fs : List Field} (d : Draft fs) (name : String) (s : Bytes) :
    Except Stop (Draft fs × Bytes) :=
  match d.slot name with
  | .taken => .error (.before (dropClosing s) (.duplicateField name))
  | .vacant kind fill =>
      match dropColon s with
      | .error e => .error e
      | .ok s =>
          match placed (.key name) (kind.read s) with
          | .ok (v, s) => .ok (fill v, s)
          | .error e => .error e
  | .unknown =>
      match dropColon s with
      | .error e => .error e
      | .ok s =>
          match placed (.key name) (passValue s) with
          | .ok s => .ok (d, s)
          | .error e => .error e

theorem Kind.read_length {kind : Kind} {s r : Bytes} {v : kind.Holds}
    (h : kind.read s = .ok (v, r)) : r.length < s.length := by
  cases kind with
  | text => exact readTextValue_length h
  | count => exact readCount_length h
  | texts => exact readTexts_length h

theorem placed_eq_ok {α : Type} {step : Step} {x : Except Stop α} {a : α} :
    placed step x = .ok a ↔ x = .ok a := by
  cases x <;> simp [placed]

theorem readMember_length {fs : List Field} {d d' : Draft fs} {name : String} {s r : Bytes}
    (h : readMember d name s = .ok (d', r)) : r.length < s.length := by
  unfold readMember at h
  split at h
  · cases h
  · split at h
    · cases h
    · rename_i hc
      have hc := dropColon_length hc
      split at h
      · rename_i hv
        have hv := Kind.read_length (placed_eq_ok.1 hv)
        simp only [Except.ok.injEq, Prod.mk.injEq] at h
        rw [← h.2]
        omega
      · cases h
  · split at h
    · cases h
    · rename_i hc
      have hc := dropColon_length hc
      split at h
      · rename_i hv
        have hv := passValue_length (placed_eq_ok.1 hv)
        simp only [Except.ok.injEq, Prod.mk.injEq] at h
        rw [← h.2]
        omega
      · cases h

/-- Reads the members of an object into a draft, up to the closing brace. -/
def readMembers {fs : List Field} (d : Draft fs) (first : Bool) (s : Bytes) :
    Except Stop (Row fs × Bytes) :=
  match _h : nextMember first s with
  | .error e => .error e
  | .ok (.closed s) =>
      match d.complete fs with
      | .ok row => .ok (row, s)
      | .error c => .error (.before s c)
  | .ok (.item q) =>
      match _hk : readText q with
      | .error e => .error e
      | .ok (name, q) =>
          match _hm : readMember d name q with
          | .ok (d, q) => readMembers d false q
          | .error e => .error e
termination_by s.length
decreasing_by
  have := nextMember_length _h
  have := readText_length _hk
  have := readMember_length _hm
  omega

/-! ## Whole texts -/

namespace Record

/-- Reads a record. -/
def read (record : Record) (s : Bytes) : Except Stop (Row record.fields × Bytes) :=
  match dropBlanks s with
  | [] => .error (.before [] .endInValue)
  | b :: s =>
      if b = Byte.of '[' then readList record s
      else if b = Byte.of '\x7b' then readMembers (Draft.empty record.fields) true s
      else .error (mismatch (.record record.name) (b :: s))

/-- Reads a text that holds a record and nothing else but blanks. -/
def readAll (record : Record) (s : Bytes) : Except Stop (Row record.fields) :=
  match record.read s with
  | .ok (row, s) =>
      match dropBlanks s with
      | [] => .ok row
      | _ :: s => .error (.before s .trailingCharacters)
  | .error e => .error e

/-- The row of a text that holds a record and nothing else but blanks. -/
def decode (record : Record) (s : Bytes) : Except Fault (Row record.fields) :=
  (record.readAll s).mapError (·.fault s)

end Record

end SchoolDesk.Json
