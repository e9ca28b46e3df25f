import SchoolDesk.Json.Wire
import SchoolDesk.Proofs.Json.Pass

/-!
# Records are read in whatever way they are spelt

A reader of a field takes every spelling of a value (`Kind.read_of_spells`).  The members of an
object may come in any order, and others may stand among them.  While they are read, the draft
holds the values of the fields whose names came up (`Draft.keeping`).  A member adds its own
name to these (`readMember_keeping`), and it does not matter which names were there before it,
as long as a field is not named twice.  So after any members the draft is known from their keys
alone (`readMembers_append`), and what comes of it at the closing brace is a matter of which
fields are named (`complete_keeping`).  So a missing field has its place behind the brace
(`decode_of_missing`), and one that is named again has it before the colon of the second member
(`decode_of_duplicate`).

A list for a record has no keys, and its items are read one after the other
(`readRow_of_items`).

What is written for a record is an object with a member for each field, so it is read back
(`Record.decode_bytes`).  Activities, users and tokens are records.
-/

namespace SchoolDesk.Json

/-! ## Items and members -/

/-- A colon is no closing brace. -/
theorem dropClosing_colon {blanks : Bytes} (hb : IsBlanks blanks) (rest : Bytes) :
    dropClosing (blanks ++ Byte.of ':' :: rest) = Byte.of ':' :: rest := by
  rw [dropClosing, dropBlanks_append_cons hb (by decide)]
  rfl

section

variable {first : Bool} {lead : Bytes}

/-- An item is found behind what stands in front of it. -/
theorem nextItem_lead (hl : Lead first lead) {value : Bytes} (begins : Begins value) :
    nextItem first (lead ++ value) = .ok (.item value) := by
  obtain ⟨b, t, rfl, blank, other⟩ := begins
  have comma : isBlankByte (Byte.of ',') = false := by decide
  cases hl with
  | first hs => simp only [nextItem, dropBlanks_append_cons hs blank, if_neg other, if_true]
  | later hs ht =>
      rw [List.append_assoc, List.cons_append]
      simp only [nextItem, dropBlanks_append_cons hs comma, dropBlanks_append_cons ht blank,
        if_neg other]
      rfl

theorem nextItem_close (first : Bool) {s : Bytes} (hs : IsBlanks s) (rest : Bytes) :
    nextItem first (s ++ [Byte.of ']'] ++ rest) = .ok (.closed rest) := by
  rw [List.append_assoc, nextItem, List.singleton_append,
    dropBlanks_append_cons hs (by decide)]
  rfl

/-- A member is found behind what stands in front of it, from the quote of its key on. -/
theorem nextMember_lead (hl : Lead first lead) (key : Bytes) :
    nextMember first (lead ++ Byte.of '"' :: key) = .ok (.item key) := by
  have comma : isBlankByte (Byte.of ',') = false := by decide
  have quote : isBlankByte (Byte.of '"') = false := by decide
  cases hl with
  | first hs =>
      rw [nextMember, dropBlanks_append_cons hs quote]
      rfl
  | later hs ht =>
      rw [List.append_assoc, List.cons_append, nextMember]
      simp only [dropBlanks_append_cons hs comma, dropBlanks_append_cons ht quote]
      rfl

theorem nextMember_close (first : Bool) {s : Bytes} (hs : IsBlanks s) (rest : Bytes) :
    nextMember first (s ++ [Byte.of '\x7d'] ++ rest) = .ok (.closed rest) := by
  rw [List.append_assoc, nextMember, List.singleton_append,
    dropBlanks_append_cons hs (by decide)]
  rfl

end

theorem closeList_close {s : Bytes} (hs : IsBlanks s) (rest : Bytes) :
    closeList (s ++ [Byte.of ']'] ++ rest) = .ok rest := by
  rw [List.append_assoc, closeList, List.singleton_append,
    dropBlanks_append_cons hs (by decide)]
  rfl

/-! ## Values of a kind -/

theorem readItems_of_item {done : List String} {i : Nat} {s q rest : Bytes} {t : String}
    (item : nextItem (i == 0) s = .ok (.item q)) (read : readTextValue q = .ok (t, rest)) :
    readItems done i s = readItems (t :: done) (i + 1) rest := by
  rw [readItems.eq_def]
  split
  · next h =>
      rw [item] at h
      cases h
  · next h =>
      rw [item] at h
      cases h
  · next h =>
      rw [item] at h
      cases h
      split
      · next h =>
          rw [read] at h
          cases h
          rfl
      · next h =>
          rw [read] at h
          cases h

theorem readItems_of_closed (done : List String) {i : Nat} {s rest : Bytes}
    (closed : nextItem (i == 0) s = .ok (.closed rest)) :
    readItems done i s = .ok (done.reverse, rest) := by
  rw [readItems.eq_def]
  split
  · next h =>
      rw [closed] at h
      cases h
  · next h =>
      rw [closed] at h
      cases h
      rfl
  · next h =>
      rw [closed] at h
      cases h

/-- The items of a list of texts are read behind those that are read already. -/
theorem readItems_of_items {first : Bool} {values : List Bytes} {s : Bytes}
    (items : Items first values s) {ts : List String} (spelt : List.Forall₂ SpellsText ts values)
    (done : List String) {i : Nat} (start : (i == 0) = first) (rest : Bytes) :
    readItems done i (s ++ rest) = .ok (done.reverse ++ ts, rest) := by
  induction items generalizing ts done i with
  | close first hs =>
      cases spelt
      rw [readItems_of_closed done (nextItem_close _ hs rest), List.append_nil]
  | item hl hm ih =>
      subst start
      cases spelt with
      | cons head tail =>
          simp only [List.append_assoc]
          rw [readItems_of_item (nextItem_lead hl (head.isText.begins.append _))
            (readTextValue_of_spells head _), ih tail _ rfl]
          simp

theorem Kind.Spells.begins {kind : Kind} {v : kind.Holds} {s : Bytes} (h : kind.Spells v s) :
    Begins s := by
  cases kind with
  | text => exact (SpellsText.isText h).begins
  | count =>
      have numeral := isNumeral_toDigits v.toNat
      have written : s = (Nat.toDigits 10 v.toNat).map Byte.of := h
      obtain ⟨c, cs, form⟩ := List.exists_cons_of_ne_nil numeral.ne_nil
      rw [form] at numeral written
      have digit := isDigit_byte (numeral.digits c (.head _))
      exact ⟨_, _, written, isBlankByte_of_isDigit digit, ne_of_isDigit digit (by decide)⟩
  | texts =>
      obtain ⟨values, inside, -, -, rfl⟩ := h
      exact ⟨_, _, rfl, by decide, by decide⟩

/-- A value is read with the blanks in front of it, in whatever way it is spelt. -/
theorem Kind.read_of_spells {kind : Kind} {v : kind.Holds} {blanks s rest : Bytes}
    (hb : IsBlanks blanks) (h : kind.Spells v s) (ends : EndsNumber rest) :
    kind.read (blanks ++ (s ++ rest)) = .ok (v, rest) := by
  have skipped : kind.read (blanks ++ (s ++ rest)) = kind.read (s ++ rest) := by
    cases kind <;> simp only [Kind.read, readTextValue, readCount, readTexts, dropBlanks_append hb]
  rw [skipped]
  cases kind with
  | text => exact readTextValue_of_spells h rest
  | count =>
      have read := readCount_toDigits v ends
      rw [bytes_digits (isNumeral_toDigits v.toNat).digits] at read
      cases h
      exact read
  | texts =>
      obtain ⟨values, inside, spelt, items, rfl⟩ := h
      rw [List.cons_append, Kind.read, readTexts, dropBlanks_cons (by decide)]
      exact readItems_of_items items spelt [] rfl rest

/-! ## Drafts -/

/-- The draft with the values that a row has for the fields with some names. -/
def Draft.keeping (names : List String) : (fs : List Field) → Row fs → Draft fs
  | [], _ => ()
  | f :: fs, (v, row) => (if f.name ∈ names then some v else none, keeping names fs row)

theorem keeping_nil (fs : List Field) (row : Row fs) :
    Draft.keeping [] fs row = Draft.empty fs := by
  induction fs with
  | nil => rfl
  | cons f fs ih => exact congrArg (none, ·) (ih row.2)

/-- Only the names of fields matter. -/
theorem keeping_congr {names names' : List String} {fs : List Field} (row : Row fs)
    (same : ∀ name ∈ fs.map Field.name, name ∈ names ↔ name ∈ names') :
    Draft.keeping names fs row = Draft.keeping names' fs row := by
  induction fs with
  | nil => rfl
  | cons f fs ih =>
      have head := same f.name (.head _)
      simp only [Draft.keeping, head, ih row.2 fun name h => same name (.tail _ h)]

theorem keeping_cons_of_not_mem {names : List String} {fs : List Field} (row : Row fs)
    {name : String} (unknown : name ∉ fs.map Field.name) :
    Draft.keeping names fs row = Draft.keeping (name :: names) fs row := by
  refine keeping_congr row fun other h => ?_
  rw [List.mem_cons, or_iff_right]
  rintro rfl
  exact unknown h

theorem slot_unknown {fs : List Field} (d : Draft fs) {name : String}
    (other : name ∉ fs.map Field.name) : d.slot name fs = .unknown := by
  induction fs with
  | nil => rfl
  | cons f fs ih =>
      have ne : f.name ≠ name := (List.ne_of_not_mem_cons other).symm
      simp only [Draft.slot, if_neg ne, ih d.2 (List.not_mem_of_not_mem_cons other)]

theorem slot_taken {fs : List Field} (row : Row fs) {names : List String} {name : String}
    (mem : name ∈ fs.map Field.name) (named : name ∈ names) :
    (Draft.keeping names fs row).slot name fs = .taken := by
  induction fs with
  | nil => cases mem
  | cons f fs ih =>
      by_cases here : f.name = name
      · simp only [Draft.keeping, Draft.slot, here, if_true, if_pos named]
      · have mem := (List.mem_cons.mp mem).resolve_left (Ne.symm here)
        simp only [Draft.keeping, Draft.slot, if_neg here, ih row.2 mem]

theorem Row.mem_of_spells {fs : List Field} {row : Row fs} {name : String} {s : Bytes}
    (h : Row.Spells fs row name s) : name ∈ fs.map Field.name := by
  induction fs with
  | nil => cases h
  | cons f fs ih =>
      obtain ⟨rfl, -⟩ | there := h
      · exact .head _
      · exact .tail _ (ih there)

/-- The slot of a field that is not named yet is vacant.  Filling it adds the name. -/
theorem slot_vacant {fs : List Field} (nodup : (fs.map Field.name).Nodup) {row : Row fs}
    {names : List String} {name : String} {s : Bytes} (spelt : Row.Spells fs row name s)
    (fresh : name ∉ names) :
    ∃ kind fill v, (Draft.keeping names fs row).slot name fs = .vacant kind fill ∧
      kind.Spells v s ∧ fill v = Draft.keeping (name :: names) fs row := by
  induction fs with
  | nil => cases spelt
  | cons f fs ih =>
      obtain ⟨v, row⟩ := row
      obtain ⟨other, nodup⟩ := List.nodup_cons.mp nodup
      obtain ⟨rfl, spelt⟩ | there := spelt
      · refine ⟨f.kind, fun v => (some v, Draft.keeping names fs row), v, ?_, spelt, ?_⟩
        · simp only [Draft.keeping, Draft.slot, if_true, if_neg fresh]
        · -- The fields that come after this one have other names.
          have rest : Draft.keeping names fs row = Draft.keeping (f.name :: names) fs row :=
            keeping_cons_of_not_mem row other
          simp only [Draft.keeping, List.mem_cons, true_or, if_true, rest]
      · obtain ⟨kind, fill, w, vacant, spelt, filled⟩ := ih nodup there
        have ne : f.name ≠ name := by
          rintro rfl
          exact other (Row.mem_of_spells there)
        refine ⟨kind, fun w => (if f.name ∈ names then some v else none, fill w), w, ?_, spelt, ?_⟩
        · simp only [Draft.keeping, Draft.slot, if_neg ne, vacant]
        · simp only [Draft.keeping, filled, List.mem_cons, ne, false_or]

/-- A draft is complete if all fields are named.  If not, the first that is not is missing. -/
theorem complete_keeping (names : List String) (fs : List Field) (row : Row fs) :
    (Draft.keeping names fs row).complete fs =
      (fs.find? (·.name ∉ names)).elim (.ok row) fun f => .error (.missingField f.name) := by
  induction fs with
  | nil => rfl
  | cons f fs ih =>
      obtain ⟨v, row⟩ := row
      by_cases named : f.name ∈ names
      · simp only [Draft.keeping, Draft.complete, if_pos named, ih, List.find?_cons]
        cases fs.find? (·.name ∉ names) <;> simp [named]
      · simp only [Draft.keeping, Draft.complete, if_neg named]
        simp [named]

/-! ## Members -/

/-- The value of a member goes where its key says, and its key is named from then on.  The key
of a field must not be named before. -/
theorem readMember_keeping {fs : List Field} (nodup : (fs.map Field.name).Nodup) {row : Row fs}
    {names : List String} {key : String} {value colon rest : Bytes}
    (allowed : Row.Allows fs row (key, value)) (fresh : key ∈ fs.map Field.name → key ∉ names)
    (hc : Colon colon) (ends : EndsNumber rest) :
    readMember (Draft.keeping names fs row) key (colon ++ (value ++ rest)) =
      .ok (Draft.keeping (key :: names) fs row, rest) := by
  obtain ⟨blanks, hb, dropped⟩ := dropColon_of_colon hc (value ++ rest)
  rw [readMember]
  rcases allowed with spelt | ⟨unknown, isValue⟩
  · obtain ⟨kind, fill, v, vacant, spelt, filled⟩ :=
      slot_vacant nodup spelt (fresh (Row.mem_of_spells spelt))
    simp only [vacant, dropped, Kind.read_of_spells hb spelt ends, placed, filled]
  · have same : Draft.keeping names fs row = Draft.keeping (key :: names) fs row :=
      keeping_cons_of_not_mem row unknown
    simp only [slot_unknown _ unknown, dropped, passValue_of_isValue hb isValue ends, placed,
      same]

theorem readMembers_of_item {fs : List Field} {draft : Draft fs} {first : Bool} {s q q' : Bytes}
    {name : String} (item : nextMember first s = .ok (.item q))
    (key : readText q = .ok (name, q')) :
    readMembers draft first s =
      (readMember draft name q').bind fun p => readMembers p.1 false p.2 := by
  rw [readMembers.eq_def]
  split
  · next h =>
      rw [item] at h
      cases h
  · next h =>
      rw [item] at h
      cases h
  · next h =>
      rw [item] at h
      cases h
      split
      · next h =>
          rw [key] at h
          cases h
      · next h =>
          rw [key] at h
          cases h
          split <;> (next h => rw [h]; rfl)

theorem readMembers_of_closed {fs : List Field} (draft : Draft fs) {first : Bool} {s rest : Bytes}
    (closed : nextMember first s = .ok (.closed rest)) :
    readMembers draft first s =
      ((draft.complete fs).mapError (Stop.before rest)).map (·, rest) := by
  rw [readMembers.eq_def]
  split
  · next h =>
      rw [closed] at h
      cases h
  · next h =>
      rw [closed] at h
      cases h
      cases draft.complete fs <;> rfl
  · next h =>
      rw [closed] at h
      cases h

/-- What stands in front of the value of a member, and its key, are read. -/
theorem readMembers_key {fs : List Field} (draft : Draft fs) {first : Bool} {lead spelt : Bytes}
    {key : String} (hl : Lead first lead) (hk : SpellsText key spelt) (rest : Bytes) :
    readMembers draft first (lead ++ (spelt ++ rest)) =
      (readMember draft key rest).bind fun p => readMembers p.1 false p.2 := by
  obtain ⟨inside, rfl, read⟩ := readText_of_spells hk
  exact readMembers_of_item (nextMember_lead hl (inside ++ rest)) (read rest)

theorem mem_wantedKeys {fs : List Field} {members : List (String × Bytes)} {key : String} :
    key ∈ wantedKeys fs members ↔ key ∈ members.map Prod.fst ∧ key ∈ fs.map Field.name := by
  rw [wantedKeys, List.mem_filter, decide_eq_true_iff]

section

variable {fs : List Field} (nodup : (fs.map Field.name).Nodup) {row : Row fs}

include nodup

/-- Members that the row allows are read in any order, and their keys are named from then on.
The keys of fields must differ and must not be named before. -/
theorem readMembers_append {before after : List (String × Bytes)} {names : List String}
    {first : Bool} {s : Bytes} (ms : Members SpellsText first (before ++ after) s)
    (allowed : ∀ m ∈ before, Row.Allows fs row m) (distinct : (wantedKeys fs before).Nodup)
    (fresh : ∀ key ∈ wantedKeys fs before, key ∉ names) (rest : Bytes) :
    ∃ first' front t, s = front ++ t ∧ Members SpellsText first' after t ∧
      readMembers (Draft.keeping names fs row) first (s ++ rest) =
        readMembers (Draft.keeping (before.map Prod.fst ++ names) fs row) first' (t ++ rest) := by
  induction before generalizing names first s with
  | nil => exact ⟨first, [], s, rfl, ms, rfl⟩
  | cons m before ih =>
      obtain ⟨key, value⟩ := m
      rw [List.cons_append] at ms
      cases ms with
      | @member _ lead spelt colon _ more _ _ hl hk hc hm =>
          have wanted (h : key ∈ fs.map Field.name) :
              wantedKeys fs ((key, value) :: before) = key :: wantedKeys fs before :=
            List.filter_cons_of_pos (decide_eq_true h)
          have fewer : (wantedKeys fs before).Sublist (wantedKeys fs ((key, value) :: before)) :=
            (List.sublist_cons_self _ _).filter _
          have step := readMember_keeping nodup (allowed _ (.head _))
            (fun h => fresh key (by rw [wanted h]; exact .head _)) hc (hm.endsNumber rest)
          have fresh : ∀ other ∈ wantedKeys fs before, other ∉ key :: names := by
            intro other h named
            obtain rfl | named := List.mem_cons.mp named
            · rw [wanted (mem_wantedKeys.mp h).2] at distinct
              exact (List.nodup_cons.mp distinct).1 h
            · exact fresh other (fewer.subset h) named
          obtain ⟨first', front, t, rfl, ms, read⟩ :=
            ih hm (fun m h => allowed m (.tail _ h)) (distinct.sublist fewer) fresh
          have names : Draft.keeping (before.map Prod.fst ++ key :: names) fs row =
              Draft.keeping (key :: before.map Prod.fst ++ names) fs row :=
            keeping_congr row fun name _ => List.perm_middle.mem_iff
          refine ⟨first', lead ++ (spelt ++ (colon ++ (value ++ front))), t, by simp, ms, ?_⟩
          simp only [List.append_assoc] at read step ⊢
          rw [readMembers_key _ hl hk, step, List.map_cons, ← names, ← read]
          rfl

/-- An object is read up to its closing brace.  Whether a field is missing is known from the
keys. -/
theorem readMembers_of_members {members : List (String × Bytes)} {s : Bytes}
    (ms : Members SpellsText true members s) (allowed : ∀ m ∈ members, Row.Allows fs row m)
    (distinct : (wantedKeys fs members).Nodup) (rest : Bytes) :
    readMembers (Draft.empty fs) true (s ++ rest) =
      (fs.find? (·.name ∉ members.map Prod.fst)).elim (.ok (row, rest))
        fun f => .error (.before rest (.missingField f.name)) := by
  have fresh : ∀ key ∈ wantedKeys fs members, key ∉ [] := fun _ _ => List.not_mem_nil
  rw [← List.append_nil members] at ms
  obtain ⟨first, _, t, rfl, last, read⟩ := readMembers_append nodup ms allowed distinct fresh rest
  rw [← keeping_nil fs row, read, List.append_nil]
  cases last with
  | close _ hs =>
      rw [readMembers_of_closed _ (nextMember_close _ hs rest), complete_keeping]
      cases fs.find? (·.name ∉ members.map Prod.fst) <;> rfl

/-- An object is read up to the colon behind the key of a field that was named before. -/
theorem readMembers_of_duplicate {before after : List (String × Bytes)} {key : String}
    {value s : Bytes} (ms : Members SpellsText true (before ++ (key, value) :: after) s)
    (allowed : ∀ m ∈ before, Row.Allows fs row m) (distinct : (wantedKeys fs before).Nodup)
    (again : key ∈ wantedKeys fs before) (rest : Bytes) :
    ∃ front spelt blanks left, SpellsText key spelt ∧ IsBlanks blanks ∧
      s ++ rest = front ++ (spelt ++ (blanks ++ Byte.of ':' :: left)) ∧
      readMembers (Draft.empty fs) true (s ++ rest) =
        .error (.before (Byte.of ':' :: left) (.duplicateField key)) := by
  obtain ⟨named, mem⟩ := mem_wantedKeys.mp again
  have fresh : ∀ key ∈ wantedKeys fs before, key ∉ [] := fun _ _ => List.not_mem_nil
  obtain ⟨first, front, t, rfl, last, read⟩ :=
    readMembers_append nodup ms allowed distinct fresh rest
  rw [← keeping_nil fs row, read, List.append_nil]
  cases last with
  | @member _ lead spelt _ value more _ _ hl hk hc hm =>
      cases hc with
      | @blanks blanks others hb _ =>
          refine ⟨front ++ lead, spelt, blanks, others ++ (value ++ (more ++ rest)), hk, hb,
            by simp, ?_⟩
          simp only [List.append_assoc, List.cons_append]
          rw [readMembers_key _ hl hk, readMember, slot_taken row mem named]
          simp only [dropClosing_colon hb]
          rfl

end

/-! ## Lists -/

/-- The values of a row are read one after the other, up to where the list closes. -/
theorem readRow_of_items (record : Record) {fs : List Field} {row : Row fs} {values : List Bytes}
    (spelt : Row.SpeltBy fs row values) {first : Bool} {s : Bytes} (items : Items first values s)
    {i : Nat} (start : (i == 0) = first) (rest : Bytes) :
    ∃ blanks, IsBlanks blanks ∧
      readRow record fs i (s ++ rest) = .ok (row, blanks ++ [Byte.of ']'] ++ rest) := by
  subst start
  induction fs generalizing values s i with
  | nil =>
      cases spelt
      cases items with
      | close _ hs => exact ⟨_, hs, rfl⟩
  | cons f fs ih =>
      obtain ⟨v, row⟩ := row
      obtain ⟨value, more, rfl, head, tail⟩ := spelt
      cases items with
      | item hl hm =>
          obtain ⟨blanks, hb, read⟩ := ih tail (i := i + 1) hm
          refine ⟨blanks, hb, ?_⟩
          have value := Kind.read_of_spells isBlanks_nil head (hm.endsNumber rest)
          rw [List.nil_append] at value
          simp only [List.append_assoc] at read ⊢
          simp only [readRow, nextItem_lead hl (head.begins.append _), value, placed, read]

/-! ## Whole texts -/

/-- What is wrong before the rest of a text is placed behind what was read. -/
theorem fault_before (read rest : Bytes) (cause : Cause) :
    (Stop.before rest cause).fault (read ++ rest) = ⟨[], cause, .behind read⟩ := by
  simp [Stop.before, Stop.fault]

/-- Members end with a brace. -/
theorem Members.brace_suffix {κ : Type} {Key : κ → Bytes → Prop} {first : Bool}
    {members : List (κ × Bytes)} {s : Bytes} (h : Members Key first members s) :
    [Byte.of '\x7d'] <:+ s := by
  induction h with
  | close _ _ => exact List.suffix_append _ _
  | @member _ lead spelt colon value more _ _ _ _ _ _ closing =>
      have inside : more <:+ colon ++ (value ++ more) :=
        (List.suffix_append value more).trans (List.suffix_append _ _)
      exact closing.trans (inside.trans ((List.suffix_append spelt _).trans
        (List.suffix_append lead _)))

namespace Record

variable {record : Record} {row : Row record.fields} {s : Bytes}

/-- Blanks may follow a record. -/
theorem decode_of_read {rest : Bytes} (hb : IsBlanks rest) (read : record.read s = .ok (row, rest)) :
    record.decode s = .ok row := by
  have done : dropBlanks rest = [] := by
    have dropped := dropBlanks_append hb []
    rwa [List.append_nil] at dropped
  simp only [decode, readAll, read, done]
  rfl

/-- What is wrong with a record has its place in the text. -/
theorem decode_of_stop {e : Stop} (read : record.read s = .error e) :
    record.decode s = .error (e.fault s) := by
  simp only [decode, readAll, read]
  rfl

/-- A list with the values of a row is read as the row. -/
theorem decode_of_isList {values : List Bytes} (spelt : Row.SpeltBy record.fields row values)
    (list : IsList values s) : record.decode s = .ok row := by
  cases list with
  | @blanks before inside after hb hi ha =>
      refine decode_of_read ha ?_
      obtain ⟨blanks, hs, read⟩ := readRow_of_items record spelt hi (i := 0) rfl after
      rw [Record.read, dropBlanks_append_cons hb (by decide)]
      simp only [if_true, readList, read, closeList_close hs]

section

variable (nodup : (record.fields.map Field.name).Nodup)

include nodup

/-- An object whose members the row allows is read up to its closing brace.  Whether a field
is missing is known from the keys. -/
theorem read_of_isObject {members : List (String × Bytes)}
    (allowed : ∀ m ∈ members, Row.Allows record.fields row m)
    (distinct : (wantedKeys record.fields members).Nodup) (object : IsObject members s) :
    ∃ front after, s = front ++ ([Byte.of '\x7d'] ++ after) ∧ IsBlanks after ∧
      record.read s = (record.fields.find? (·.name ∉ members.map Prod.fst)).elim
        (.ok (row, after)) fun f => .error (.before after (.missingField f.name)) := by
  cases object with
  | @blanks before inside after hb hi ha =>
      obtain ⟨t, rfl⟩ := hi.brace_suffix
      refine ⟨before ++ Byte.of '\x7b' :: t, after, by simp, ha, ?_⟩
      rw [Record.read, dropBlanks_append_cons hb (by decide)]
      exact readMembers_of_members nodup hi allowed distinct after

/-- With a member for each field, none is missing. -/
theorem decode_of_named {members : List (String × Bytes)}
    (allowed : ∀ m ∈ members, Row.Allows record.fields row m)
    (named : (wantedKeys record.fields members).Perm (record.fields.map Field.name))
    (object : IsObject members s) : record.decode s = .ok row := by
  have none : record.fields.find? (·.name ∉ members.map Prod.fst) = none := by
    refine List.find?_eq_none.mpr fun f mem => ?_
    have wanted := named.mem_iff.mpr (List.mem_map_of_mem mem)
    simpa using (mem_wantedKeys.mp wanted).1
  obtain ⟨_, after, -, blank, read⟩ :=
    read_of_isObject nodup allowed (named.nodup_iff.mpr nodup) object
  rw [none] at read
  exact decode_of_read blank read

/-- Without a member for some field, the first such field is missing. -/
theorem decode_of_missing {members : List (String × Bytes)} {f : Field}
    (allowed : ∀ m ∈ members, Row.Allows record.fields row m)
    (distinct : (wantedKeys record.fields members).Nodup)
    (first : record.fields.find? (·.name ∉ members.map Prod.fst) = some f)
    (object : IsObject members s) :
    ∃ place, BracePlace s place ∧ record.decode s = .error ⟨[], .missingField f.name, place⟩ := by
  obtain ⟨front, after, rfl, blank, read⟩ := read_of_isObject nodup allowed distinct object
  rw [first] at read
  refine ⟨_, .blanks blank, ?_⟩
  rw [decode_of_stop read, ← List.append_assoc, fault_before]

/-- A second member for a field is refused, whatever its value is and whatever follows. -/
theorem decode_of_duplicate {before after : List (String × Bytes)} {key : String} {value : Bytes}
    (allowed : ∀ m ∈ before, Row.Allows record.fields row m)
    (distinct : (wantedKeys record.fields before).Nodup)
    (again : key ∈ wantedKeys record.fields before)
    (object : IsObject (before ++ (key, value) :: after) s) :
    ∃ place, KeyPlace key s place ∧
      record.decode s = .error ⟨[], .duplicateField key, place⟩ := by
  cases object with
  | @blanks outside inside after hb hi ha =>
      obtain ⟨front, spelt, blanks, left, hk, blank, form, stops⟩ :=
        readMembers_of_duplicate nodup hi allowed distinct again after
      let met := outside ++ Byte.of '\x7b' :: front
      have text : outside ++ Byte.of '\x7b' :: (inside ++ after) =
          met ++ (spelt ++ (blanks ++ Byte.of ':' :: left)) := by simp [met, form]
      have read : record.read (outside ++ Byte.of '\x7b' :: (inside ++ after)) =
          .error (.before (Byte.of ':' :: left) (.duplicateField key)) := by
        rw [Record.read, dropBlanks_append_cons hb (by decide)]
        exact stops
      refine ⟨.behind (met ++ (spelt ++ blanks)), ?_, ?_⟩
      · rw [text]
        exact .colon hk blank
      · have split : met ++ (spelt ++ (blanks ++ Byte.of ':' :: left)) =
            met ++ (spelt ++ blanks) ++ Byte.of ':' :: left := by simp only [List.append_assoc]
        rw [decode_of_stop read, text, split, fault_before]

end

end Record

/-! ## Written records -/

/-- A value of a kind as JSON. -/
def Kind.document : (kind : Kind) → kind.Holds → Document
  | .text, s => .text s
  | .count, n => .count n.toNat
  | .texts, ts => .list (ts.map .text)

/-- What is written for a value spells it. -/
theorem Kind.spells_document (kind : Kind) (v : kind.Holds) :
    kind.Spells v (kind.document v).bytes := by
  cases kind with
  | text => exact spellsText_quote v
  | count => exact bytes_digits (isNumeral_toDigits v.toNat).digits
  | texts =>
      obtain ⟨s, form, items⟩ := exists_items (v.map .text)
      refine ⟨_, s, ?_, items, form⟩
      rw [List.map_map]
      exact List.forall₂_map_right_iff.mpr (List.forall₂_same.mpr fun t _ => spellsText_quote t)

/-- The members of a record, one for each field. -/
def Row.members : (fs : List Field) → Row fs → List (String × Document)
  | [], _ => []
  | f :: fs, (v, row) => (f.name, f.kind.document v) :: members fs row

theorem map_fst_members (fs : List Field) (row : Row fs) :
    (Row.members fs row).map Prod.fst = fs.map Field.name := by
  induction fs with
  | nil => rfl
  | cons f fs ih => exact congrArg (f.name :: ·) (ih row.2)

theorem spells_of_mem_members {fs : List Field} {row : Row fs} {m : String × Document}
    (h : m ∈ Row.members fs row) : Row.Spells fs row m.1 m.2.bytes := by
  induction fs with
  | nil => cases h
  | cons f fs ih =>
      obtain rfl | there := List.mem_cons.mp h
      · exact .inl ⟨rfl, f.kind.spells_document row.1⟩
      · exact .inr (ih there)

/-- A record is read back from the object that is written for it. -/
theorem Record.decode_bytes {record : Record} (nodup : (record.fields.map Field.name).Nodup)
    (row : Row record.fields) :
    record.decode (Document.object (Row.members record.fields row)).bytes = .ok row := by
  let written := (Row.members record.fields row).map fun m => (m.1, m.2.bytes)
  have keys : written.map Prod.fst = record.fields.map Field.name := by
    rw [← map_fst_members record.fields row, List.map_map]
    rfl
  have wanted : wantedKeys record.fields written = record.fields.map Field.name := by
    rw [wantedKeys, keys]
    exact List.filter_eq_self.mpr fun _ h => decide_eq_true h
  have allowed : ∀ m ∈ written, Row.Allows record.fields row m :=
    List.forall_mem_map.mpr fun m h => .inl (spells_of_mem_members h)
  have object : IsObject written (Document.object (Row.members record.fields row)).bytes := by
    obtain ⟨s, form, members⟩ := exists_members (Row.members record.fields row)
    have whole := IsObject.blanks isBlanks_nil members isBlanks_nil
    rw [List.append_nil, List.nil_append, ← form] at whole
    exact whole
  exact decode_of_named nodup allowed (wanted ▸ .refl _) object

end SchoolDesk.Json

namespace SchoolDesk

open Json (Row)

/-! ## Activities, users and tokens -/

namespace Activity

/-- The values of an activity, in the order of its fields. -/
def row (a : Activity) : Row record.fields :=
  (a.description, a.schedule, a.capacity, a.participants, ())

/-- The activity with the values of a row. -/
def ofRow : Row record.fields → Activity
  | (description, schedule, capacity, participants, _) =>
      ⟨description, schedule, capacity, participants⟩

theorem decode_eq (s : Bytes) : decode s = (record.decode s).map ofRow := by
  rw [decode]
  cases record.decode s <;> rfl

/-- An activity is read back. -/
theorem decode_bytes (a : Activity) : decode a.document.bytes = .ok a := by
  have written : a.document = .object (Row.members record.fields a.row) := rfl
  rw [decode_eq, written, Json.Record.decode_bytes (by decide)]
  rfl

end Activity

namespace User

/-- The values of a user, in the order of its fields. -/
def row (u : User) : Row record.fields := (u.email, u.username, ())

/-- The user with the values of a row. -/
def ofRow : Row record.fields → User
  | (email, username, _) => ⟨email, username⟩

theorem decode_eq (s : Bytes) : decode s = (record.decode s).map ofRow := by
  rw [decode]
  cases record.decode s <;> rfl

/-- A user is read back. -/
theorem decode_bytes (u : User) : decode u.document.bytes = .ok u := by
  have written : u.document = .object (Row.members record.fields u.row) := rfl
  rw [decode_eq, written, Json.Record.decode_bytes (by decide)]
  rfl

end User

namespace Token

/-- The values of a token, in the order of its fields. -/
def row (t : Token) : Row record.fields := (t.accessToken, t.tokenType, ())

/-- The token with the values of a row. -/
def ofRow : Row record.fields → Token
  | (accessToken, tokenType, _) => ⟨accessToken, tokenType⟩

theorem decode_eq (s : Bytes) : decode s = (record.decode s).map ofRow := by
  rw [decode]
  cases record.decode s <;> rfl

/-- A token is read back. -/
theorem decode_bytes (t : Token) : decode t.document.bytes = .ok t := by
  have written : t.document = .object (Row.members record.fields t.row) := rfl
  rw [decode_eq, written, Json.Record.decode_bytes (by decide)]
  rfl

end Token

end SchoolDesk
