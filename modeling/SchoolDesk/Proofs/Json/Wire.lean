import SchoolDesk.Json.Writer
import SchoolDesk.Proofs.Json.Object
import SchoolDesk.Proofs.Json.Record
import SchoolDesk.Proofs.Roster.Changes

/-!
# What the desk writes is read back

Activities, users and tokens are records, so their readers give back from a JSON text the
value that it was written for (`decode_encode_document`).

A roster is written member by member.  Its writer is told the number of the names, and
then looks up the activity of each name and passes over a name that has none.  There is no
such name, so as many members come as were announced, and the text is that of the document
(`Roster.text_eq`).  It holds each activity under its name, in the order of the
roster and nothing else (`Roster.text_run`).
-/

namespace SchoolDesk

open Json (Document ObjectWriter)
open Text.Utf8 (encode)

/-! ## Records -/

/-- Whatever an activity, a user or a token holds, it is read back from its JSON text. -/
theorem decode_encode_document :
    (∀ a : Activity, Activity.decode (encode a.document.toString) = .ok a) ∧
      (∀ u : User, User.decode (encode u.document.toString) = .ok u) ∧
      ∀ t : Token, Token.decode (encode t.document.toString) = .ok t := by
  refine ⟨fun a => ?_, fun u => ?_, fun t => ?_⟩
  · rw [Json.encode_toString, a.decode_bytes]
  · rw [Json.encode_toString, u.decode_bytes]
  · rw [Json.encode_toString, t.decode_bytes]

/-! ## Rosters -/

namespace Roster

/-- The text of a roster, with its size announced and its members written one by one. -/
def text (r : Roster) : String :=
  String.ofList (ObjectWriter.writeAll r.size (r.toList.map fun p => (p.1, p.2.document)))

/-- An activity stands in the list under the name that leads to it. -/
theorem get?_of_mem_toList {r : Roster} {name : String} {a : Activity}
    (h : (name, a) ∈ r.toList) : r.get? name = some a := by
  rw [toList, List.mem_filterMap] at h
  obtain ⟨n, -, found⟩ := h
  obtain ⟨b, there, same⟩ := Option.map_eq_some_iff.mp found
  cases same
  exact there

/-- The size of a roster is the number of its entries. -/
theorem length_toList (r : Roster) : r.toList.length = r.size := by
  rw [size, ← map_fst_toList, List.length_map]

/-- A roster announces as many members as it has, so it is written as its document. -/
theorem text_eq (r : Roster) : r.text = r.document.toString := by
  have announced : r.size = 0 → r.toList.map (fun p => (p.1, p.2.document)) = [] := by
    intro zero
    rw [← length_toList, List.length_eq_zero_iff] at zero
    rw [zero, List.map_nil]
  rw [text, ObjectWriter.writeAll_eq_iff.mpr announced]
  rfl

/-- A text is one JSON object, from whose members a roster can be built again.  They are as
many as the roster has names, each name is the key of one of them, in the order of the
roster, and the value of each is read as the activity of its name. -/
structure HeldBy (r : Roster) (text : String) : Prop where
  whole : Json.passValue (encode text) = .ok []
  reads : ∃ members, Json.members? (encode text) = some members ∧
    members.length = r.size ∧ (members.map Prod.fst).Nodup ∧ members.map Prod.fst = r.names ∧
      ∀ m ∈ members, ∃ a, r.get? m.1 = some a ∧ Activity.decode m.2 = .ok a

/-- The members of the text of a roster. -/
theorem members?_text (r : Roster) :
    Json.members? (encode r.text) = some (r.toList.map fun p => (p.1, p.2.document.bytes)) := by
  rw [text_eq, Json.encode_toString, document, Json.members?_bytes, List.map_map]
  rfl

/-- The text of a roster holds it. -/
theorem heldBy_text (r : Roster) : r.HeldBy r.text where
  whole := by
    rw [text_eq, Json.encode_toString]
    have ends : Json.EndsNumber [] := by
      intro b hb
      cases hb
    simpa using Json.passValue_bytes r.document ends
  reads := by
    have names : (r.toList.map fun p => (p.1, p.2.document.bytes)).map Prod.fst = r.names := by
      rw [List.map_map, ← map_fst_toList]
      rfl
    refine ⟨_, r.members?_text, ?_, ?_, names, ?_⟩
    · rw [List.length_map, length_toList]
    · rw [names]
      exact r.names_nodup
    · intro m mem
      obtain ⟨⟨name, a⟩, entry, rfl⟩ := List.mem_map.mp mem
      exact ⟨a, get?_of_mem_toList entry, a.decode_bytes⟩

/-- The entries of a roster are known from its text. -/
theorem toList_eq_of_text_eq {r s : Roster} (same : r.text = s.text) : r.toList = s.toList := by
  have members := congrArg (fun t => Json.members? (encode t)) same
  simp only [members?_text, Option.some.injEq] at members
  -- Reading the value of each member turns the members back into the entries.
  have read (r : Roster) :
      (r.toList.map fun p => (p.1, p.2.document.bytes)).map
        (fun m => (m.1, (Activity.decode m.2).toOption)) =
      r.toList.map fun p => (p.1, some p.2) := by
    rw [List.map_map]
    refine List.map_congr_left fun p _ => ?_
    show (p.1, (Activity.decode p.2.document.bytes).toOption) = _
    rw [p.2.decode_bytes]
    rfl
  have entries := congrArg (List.map fun m => (m.1, (Activity.decode m.2).toOption)) members
  rw [read, read] at entries
  refine List.map_injective_iff.mpr ?_ entries
  rintro ⟨name, a⟩ ⟨other, b⟩ pair
  simpa using pair

/-- After any changes to a roster, from the empty one, the standard one or another, its text
is the one of its document and holds it, with the names from before and those inserted as
keys, each once, in the order in which they first appeared.  Two rosters have the same text
if they have the same entries in the same order, and only then. -/
theorem text_run (start : Roster) (changes : List Change) :
    let r := (start.run changes).2
    r.text = r.document.toString ∧ r.HeldBy r.text ∧
      r.names = (start.names ++ inserted changes).eraseDups ∧
        ∀ (other : Roster) (more : List Change),
          (other.run more).2.text = r.text ↔ (other.run more).2.toList = r.toList := by
  intro r
  refine ⟨r.text_eq, r.heldBy_text, names_run start changes, fun other more => ?_⟩
  constructor
  · exact toList_eq_of_text_eq
  · intro same
    rw [text_eq, text_eq, document, document, same]

end Roster

end SchoolDesk
