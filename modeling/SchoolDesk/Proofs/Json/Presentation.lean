import SchoolDesk.Proofs.Json.Record

/-!
# Reading does not depend on presentation

An activity, a user and a token are read from every text that presents them, and it does not
matter how.  `ReadsAny` says this of a reader: the members of an object may come in any order
and with any spelling, others may stand among them, and a list of the values will do too.  A
field with a second member, or with none, is found out, whatever else the object holds.

The reader of any record does so (`Record.readsAny`), and the three readers are such readers.
-/

namespace SchoolDesk.Json

/-- A reader takes whatever presents the row of a value, and says what is wrong if a field is
named twice or not at all. -/
structure ReadsAny {α : Type} (decode : Bytes → Except Fault α) (fields : List Field)
    (row : α → Row fields) : Prop where
  /-- An object has one member for each field, in any order, and any members that no field
  wants. -/
  object (v : α) {members : List (String × Bytes)} {s : Bytes} :
    (∀ m ∈ members, Row.Allows fields (row v) m) →
    (wantedKeys fields members).Perm (fields.map Field.name) → IsObject members s →
    decode s = .ok v
  /-- A list has the values of the fields in their order. -/
  list (v : α) {values : List Bytes} {s : Bytes} :
    Row.SpeltBy fields (row v) values → IsList values s → decode s = .ok v
  /-- An object is refused if one more member names a field again, as soon as its key is read. -/
  duplicate (v : α) {before after : List (String × Bytes)} {key : String} {value s : Bytes} :
    (∀ m ∈ before ++ after, Row.Allows fields (row v) m) →
    (wantedKeys fields (before ++ after)).Perm (fields.map Field.name) →
    key ∈ wantedKeys fields before → IsObject (before ++ (key, value) :: after) s →
    ∃ place, KeyPlace key s place ∧ decode s = .error ⟨[], .duplicateField key, place⟩
  /-- It is refused if members of fields are left out.  The first of these is missing, and its
  place is behind the closing brace. -/
  missing (v : α) {members : List (String × Bytes)} {f : Field} {s : Bytes} :
    (∀ m ∈ members, Row.Allows fields (row v) m) → (wantedKeys fields members).Nodup →
    fields.find? (·.name ∉ members.map Prod.fst) = some f → IsObject members s →
    ∃ place, BracePlace s place ∧ decode s = .error ⟨[], .missingField f.name, place⟩

/-- Whoever reads the row of a record and makes a value of it reads any presentation. -/
theorem Record.readsAny {α : Type} {record : Record}
    (nodup : (record.fields.map Field.name).Nodup) {decode : Bytes → Except Fault α}
    {make : Row record.fields → α} (reads : ∀ s, decode s = (record.decode s).map make)
    {row : α → Row record.fields} (made : ∀ v, make (row v) = v) :
    ReadsAny decode record.fields row where
  object v members s allowed named object := by
    rw [reads, decode_of_named nodup allowed named object, Except.map, made]
  list v values s spelt list := by rw [reads, decode_of_isList spelt list, Except.map, made]
  duplicate v before after key value s allowed named again object := by
    have distinct : (wantedKeys record.fields before).Nodup := by
      have all := named.nodup_iff.mpr nodup
      rw [wantedKeys, List.map_append, List.filter_append] at all
      exact (List.nodup_append.mp all).1
    have front : ∀ m ∈ before, Row.Allows record.fields (row v) m :=
      fun m h => allowed m (List.mem_append_left after h)
    obtain ⟨place, stands, refused⟩ := decode_of_duplicate nodup front distinct again object
    exact ⟨place, stands, by rw [reads, refused, Except.map]⟩
  missing v members f s allowed distinct first object := by
    obtain ⟨place, stands, refused⟩ := decode_of_missing nodup allowed distinct first object
    exact ⟨place, stands, by rw [reads, refused, Except.map]⟩

end SchoolDesk.Json

namespace SchoolDesk

open Json Text.Utf8

/-- Activities, users and tokens are read from any presentation: an object with their members
in any order and others among them, with any blanks and any spelling of texts, or a list.  A
second member for a field is refused, and so is an object that leaves fields out.  The wording
names the field and says where it is missed or met again. -/
theorem reads_any_presentation :
    ReadsAny Activity.decode Activity.record.fields Activity.row ∧
      ReadsAny User.decode User.record.fields User.row ∧
      ReadsAny Token.decode Token.record.fields Token.row ∧
      ∀ name place,
        (⟨[], .duplicateField name, place⟩ : Fault).message =
            "duplicate field " ++ ticked name ++ place.message ∧
          (⟨[], .missingField name, place⟩ : Fault).message =
            "missing field " ++ ticked name ++ place.message := by
  refine ⟨?activity, ?user, ?token, ?wording⟩
  case activity => exact Record.readsAny (by decide) Activity.decode_eq fun _ => rfl
  case user => exact Record.readsAny (by decide) User.decode_eq fun _ => rfl
  case token => exact Record.readsAny (by decide) Token.decode_eq fun _ => rfl
  case wording => exact fun _ _ => ⟨rfl, rfl⟩

/-- The name of a user may be a surrogate pair and come first, and a nested value that nobody
asks for may stand behind it.  A second name is refused. -/
theorem reads_any_presentation_smile :
    User.decode (encode
        "\x7b \"username\" :\"\\ud83d\\ude00\",\"x\":[\x7b\"y\":[1]\x7d],\n\"email\":\"b\"\x7d") =
        .ok ⟨"b", "😀"⟩ ∧
      ∃ place, User.decode (encode
        "\x7b \"username\" :\"\\ud83d\\ude00\",\"username\":5,\n\"email\":\"b\"\x7d") =
        .error ⟨[], .duplicateField "username", place⟩ := by
  let v : User := ⟨"b", "😀"⟩
  let face : Bytes := encode "\"\\ud83d\\ude00\""
  let letter : Bytes := (quote v.email).flatMap String.utf8EncodeChar
  let nested : Document := .list [.object [("y", .list [.count 1])]]
  have high : SpellsUnit 0xD83D _ := .digits (hexDigit_digitChar (n := 13) (by decide))
    (hexDigit_digitChar (n := 8) (by decide)) (hexDigit_digitChar (n := 3) (by decide))
    (hexDigit_digitChar (n := 13) (by decide))
  have low : SpellsUnit 0xDE00 _ := .digits (hexDigit_digitChar (n := 13) (by decide))
    (hexDigit_digitChar (n := 14) (by decide)) (hexDigit_digitChar (n := 0) (by decide))
    (hexDigit_digitChar (n := 0) (by decide))
  have pair : SpellsChars ['😀'] _ :=
    .cons (.pair (by decide) (by decide) (by decide) high low) .nil
  have letters : v.username.toList = ['😀'] := by decide
  have smile : SpellsText v.username face := ⟨_, letters ▸ pair, by decide⟩
  -- The members of the two objects, which differ in the second.
  have username : Row.Allows User.record.fields v.row ("username", face) :=
    .inl (.inr (.inl ⟨rfl, smile⟩))
  have other : Row.Allows User.record.fields v.row ("x", nested.bytes) :=
    .inr ⟨by decide, isValue_bytes nested⟩
  have email : Row.Allows User.record.fields v.row ("email", letter) :=
    .inl (.inl ⟨rfl, spellsText_quote v.email⟩)
  have comma : Lead false [Byte.of ','] := .later isBlanks_nil isBlanks_nil
  have last : Members SpellsText false [("email", letter)] _ :=
    .member (.later (s := []) (t := [0x0A]) (by decide) (by decide))
      (spellsText_quote "email") colon_singleton (.close false isBlanks_nil)
  have object (key : String) (value : Bytes) :
      IsObject [("username", face), (key, value), ("email", letter)] _ :=
    .blanks isBlanks_nil (.member (.first (s := [0x20]) (by decide))
      (spellsText_quote "username") (.blanks (s := [0x20]) (t := []) (by decide) (by decide))
      (.member comma (spellsText_quote key) colon_singleton last)) isBlanks_nil
  obtain ⟨-, reads, -⟩ := reads_any_presentation
  refine ⟨?_, ?_⟩
  · have allowed := List.forall_mem_cons.mpr ⟨username,
      List.forall_mem_cons.mpr ⟨other, List.forall_mem_singleton.mpr email⟩⟩
    have read := reads.object v allowed (by decide) (object "x" nested.bytes)
    refine (congrArg User.decode ?_).trans read
    decide
  · have allowed : ∀ m ∈ [("username", face)] ++ [("email", letter)], _ :=
      List.forall_mem_cons.mpr ⟨username, List.forall_mem_singleton.mpr email⟩
    obtain ⟨place, -, refused⟩ := reads.duplicate v allowed (by decide) (by decide)
      (object "username" [Byte.of '5'])
    refine ⟨place, (congrArg User.decode ?_).trans refused⟩
    decide

end SchoolDesk
