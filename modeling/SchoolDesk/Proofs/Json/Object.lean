import SchoolDesk.Json.Object
import SchoolDesk.Proofs.Json.Pass

/-!
# Objects are read back

An object can be read without knowing what should be in it.  `members?_bytes` says that it
has the members that it is written with, in their order, each with its own key and the
bytes of its own value.
-/

namespace SchoolDesk.Json

theorem takeValue?_bytes (d : Document) {rest : Bytes} (ends : EndsNumber rest) :
    takeValue? (d.bytes ++ rest) = some (d.bytes, rest) := by
  rw [takeValue?, passValue_bytes d ends]
  simp

/-- The key of a member is read after its quote, and the bytes of its value are kept. -/
theorem takeMember?_bytes (name : String) (d : Document) {rest : Bytes}
    (ends : EndsNumber rest) :
    ∃ inside, (quote name).flatMap String.utf8EncodeChar = Byte.of '"' :: inside ∧
      takeMember? (inside ++ Byte.of ':' :: (d.bytes ++ rest)) =
        some ((name, d.bytes), rest) := by
  obtain ⟨inside, form, read⟩ := readText_of_spells (spellsText_quote name)
  refine ⟨inside, form, ?_⟩
  have colon : dropColon (Byte.of ':' :: (d.bytes ++ rest)) = .ok (d.bytes ++ rest) := rfl
  rw [takeMember?, read]
  simp only [colon, takeValue?_bytes d ends, Option.map_some]

/-- A member is read with those that come after it. -/
theorem membersFrom?_of_item {first : Bool} {s q rest : Bytes} {member : String × Bytes}
    (item : nextMember first s = .ok (.item q)) (taken : takeMember? q = some (member, rest)) :
    membersFrom? first s = (membersFrom? false rest).map fun p => (member :: p.1, p.2) := by
  rw [membersFrom?.eq_def]
  split
  · next h =>
      rw [item] at h
      cases h
  · next h =>
      rw [item] at h
      cases h
  · next h =>
      rw [item] at h
      cases h
      split
      · next h =>
          rw [taken] at h
          cases h
      · next h =>
          rw [taken] at h
          cases h
          rfl

theorem membersFrom?_closing (first : Bool) (rest : Bytes) :
    membersFrom? first (Byte.of '\x7d' :: rest) = some ([], rest) := by
  rw [membersFrom?.eq_def]
  rfl

theorem endsNumber_members (ms : List (String × Document)) :
    EndsNumber (membersBytes ms ++ [Byte.of '\x7d']) := by
  have ends := (members_membersBytes ms).endsNumber []
  rwa [List.append_nil] at ends

/-- The members that are written after the first are read back. -/
theorem membersFrom?_bytes (ms : List (String × Document)) :
    membersFrom? false (membersBytes ms ++ [Byte.of '\x7d']) =
      some (ms.map fun m => (m.1, m.2.bytes), []) := by
  induction ms with
  | nil => exact membersFrom?_closing false []
  | cons m ms ih =>
      obtain ⟨inside, key, taken⟩ := takeMember?_bytes m.1 m.2 (endsNumber_members ms)
      rw [membersBytes_cons, key]
      simp only [List.cons_append, List.append_assoc]
      rw [membersFrom?_of_item rfl taken, ih]
      rfl

/-- So are those of an object, after its opening brace. -/
theorem exists_bytes_object (ms : List (String × Document)) :
    ∃ s, (Document.object ms).bytes = Byte.of '\x7b' :: s ∧
      membersFrom? true s = some (ms.map fun m => (m.1, m.2.bytes), []) := by
  cases ms with
  | nil => exact ⟨[Byte.of '\x7d'], rfl, membersFrom?_closing true []⟩
  | cons m ms =>
      obtain ⟨inside, key, taken⟩ := takeMember?_bytes m.1 m.2 (endsNumber_members ms)
      refine ⟨_, bytes_object m.2 m.1 ms, ?_⟩
      rw [key, List.cons_append, membersFrom?_of_item rfl taken, membersFrom?_bytes]
      rfl

/-- An object has the members that it is written with, and nothing follows them. -/
theorem members?_bytes (ms : List (String × Document)) :
    members? (Document.object ms).bytes = some (ms.map fun m => (m.1, m.2.bytes)) := by
  obtain ⟨s, written, read⟩ := exists_bytes_object ms
  rw [written, members?, dropBlanks_cons (by decide)]
  simp only [if_true, read, Option.bind_some]
  rfl

end SchoolDesk.Json
