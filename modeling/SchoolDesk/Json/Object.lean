import SchoolDesk.Json.Pass
import SchoolDesk.Json.Value

/-!
# Objects of any members

A record wants certain members.  Here an object is read without knowing what should be
in it.  Each of its members is a key, which is read as a text, and a value, which is
passed over.  The bytes of the value are kept, so whoever knows what it should be can
read it from them.

`membersFrom?` reads the members up to the closing brace.  `members?` reads a text that
holds an object and nothing else but blanks, so it gives nothing for a text that is no
JSON.
-/

namespace SchoolDesk.Json

/-- The bytes of the value that begins here, and what is left after it. -/
def takeValue? (s : Bytes) : Option (Bytes × Bytes) :=
  match passValue s with
  | .ok rest => some (s.take (s.length - rest.length), rest)
  | .error _ => none

theorem takeValue?_length {s value rest : Bytes} (h : takeValue? s = some (value, rest)) :
    rest.length < s.length := by
  rw [takeValue?] at h
  split at h
  · next passed =>
      cases h
      exact passValue_length passed
  · cases h

/-- The key of a member that begins here after the quote of its key, the bytes of its
value, and what is left after them. -/
def takeMember? (s : Bytes) : Option ((String × Bytes) × Bytes) :=
  match readText s with
  | .ok (key, s) =>
      match dropColon s with
      | .ok s => (takeValue? s).map fun p => ((key, p.1), p.2)
      | .error _ => none
  | .error _ => none

theorem takeMember?_length {s rest : Bytes} {member : String × Bytes}
    (h : takeMember? s = some (member, rest)) : rest.length < s.length := by
  rw [takeMember?] at h
  split at h
  · next read =>
      have key := readText_length read
      split at h
      · next dropped =>
          have colon := dropColon_length dropped
          obtain ⟨p, taken, same⟩ := Option.map_eq_some_iff.mp h
          cases same
          have value := takeValue?_length taken
          omega
      · cases h
  · cases h

/-- The members of an object up to its closing brace, and what is left after it. -/
def membersFrom? (first : Bool) (s : Bytes) : Option (List (String × Bytes) × Bytes) :=
  match _h : nextMember first s with
  | .error _ => none
  | .ok (.closed s) => some ([], s)
  | .ok (.item q) =>
      match _hm : takeMember? q with
      | none => none
      | some (member, q) => (membersFrom? false q).map fun p => (member :: p.1, p.2)
termination_by s.length
decreasing_by
  have := nextMember_length _h
  have := takeMember?_length _hm
  omega

/-- The members of a text that holds an object and nothing else but blanks. -/
def members? (s : Bytes) : Option (List (String × Bytes)) :=
  match dropBlanks s with
  | [] => none
  | b :: s =>
      if b = Byte.of '\x7b' then
        (membersFrom? true s).bind fun p => if (dropBlanks p.2).isEmpty then some p.1 else none
      else none

end SchoolDesk.Json
