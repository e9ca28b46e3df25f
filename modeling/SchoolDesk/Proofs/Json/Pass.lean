import SchoolDesk.Proofs.Json.Number
import SchoolDesk.Proofs.Json.Quote

/-!
# Values are passed over, and what is written for documents are values

A value that nobody asks for is passed over up to its end and no further
(`passValue_of_isValue`).  The proof follows the rules for values, and what holds of the
brackets that are open around a value carries it: a list or an object is passed over with its
closing bracket, whatever comes before and after.

The compact form of a document is a value (`isValue_bytes`), and so it is passed over too.  It
spells its texts, its items and its members in one of the ways to do so.
-/

namespace SchoolDesk.Json

open Text.Utf8

/-! ## Blanks -/

theorem dropBlanks_append {s : Bytes} (h : IsBlanks s) (t : Bytes) :
    dropBlanks (s ++ t) = dropBlanks t := List.dropWhile_append_of_pos h

theorem isBlanks_nil : IsBlanks [] := by
  intro b h
  cases h

/-- After blanks comes the byte that is no blank. -/
theorem dropBlanks_append_cons {s : Bytes} (h : IsBlanks s) {b : UInt8}
    (other : isBlankByte b = false) (t : Bytes) : dropBlanks (s ++ b :: t) = b :: t := by
  rw [dropBlanks_append h, dropBlanks_cons other]

/-- A number does not go on in blanks. -/
theorem EndsNumber.blanks {s : Bytes} (h : IsBlanks s) {t : Bytes} (ends : EndsNumber t) :
    EndsNumber (s ++ t) := by
  cases s with
  | nil => exact ends
  | cons b s =>
      have blank := h b (.head _)
      simp only [isBlankByte, Bool.or_eq_true, beq_iff_eq] at blank
      refine .cons ?_
      rcases blank with ((rfl | rfl) | rfl) | rfl <;> decide

/-! ## Brackets -/

section

variable {b : UInt8} {s rest : Bytes} (stack : List Bracket)

/-- A value that is no list and no object begins with a byte of its own. -/
theorem exists_cons_of_passScalar (h : passScalar s = .ok rest) :
    ∃ b t, s = b :: t ∧ isBlankByte b = false ∧ b ≠ Byte.of '[' ∧ b ≠ Byte.of '\x7b' := by
  cases s with
  | nil => cases h
  | cons b t =>
      refine ⟨b, t, rfl, ?_⟩
      rw [passScalar] at h
      by_cases digit : Byte.isDigit b = true
      · exact ⟨isBlankByte_of_isDigit digit, ne_of_isDigit digit (by decide),
          ne_of_isDigit digit (by decide)⟩
      · repeat' split at h
        all_goals first
          | contradiction
          | (next same => subst same; decide)

/-- The first byte that is no blank says how to go on. -/
theorem passWithin_of_dropBlanks {r : Bytes} (dropped : dropBlanks s = b :: r) :
    passWithin stack s =
      if b = Byte.of '[' then passOn true (.list :: stack) r
      else if b = Byte.of '\x7b' then passOn true (.object :: stack) r
      else (passScalar (b :: r)).bind (passOn false stack) := by
  rw [passWithin.eq_def]
  split
  · next none =>
      rw [dropped] at none
      cases none
  · next heq =>
      rw [dropped] at heq
      cases heq
      split
      · rfl
      · split
        · rfl
        · split <;> (next passed => rw [passed]; rfl)

theorem passWithin_scalar (h : passScalar s = .ok rest) :
    passWithin stack s = passOn false stack rest := by
  obtain ⟨b, t, rfl, blank, list, object⟩ := exists_cons_of_passScalar h
  rw [passWithin_of_dropBlanks stack (dropBlanks_cons blank t), if_neg list, if_neg object, h]
  rfl

theorem passWithin_list (s : Bytes) :
    passWithin stack (Byte.of '[' :: s) = passOn true (.list :: stack) s := by
  rw [passWithin.eq_def]
  rfl

theorem passWithin_object (s : Bytes) :
    passWithin stack (Byte.of '\x7b' :: s) = passOn true (.object :: stack) s := by
  rw [passWithin.eq_def]
  rfl

/-- What is inside an open bracket goes on with an item or a member. -/
theorem passOn_item {first : Bool} {top : Bracket} {b : UInt8} {s r q v : Bytes}
    (dropped : dropBlanks s = b :: r) (other : b ≠ top.closing)
    (comma : passComma first top b r = .ok q) (lead : passLead top q = .ok v) :
    passOn first (top :: stack) s = passWithin (top :: stack) v := by
  rw [passOn.eq_def]
  simp only
  split
  · next none =>
      rw [dropped] at none
      cases none
  · next heq =>
      rw [dropped] at heq
      cases heq
      rw [if_neg other]
      split
      · next h =>
          rw [comma] at h
          cases h
          split
          · next h =>
              rw [lead] at h
              cases h
              rfl
          · next h =>
              rw [lead] at h
              cases h
      · next h =>
          rw [comma] at h
          cases h

end

/-! ## Lists and objects -/

/-- The bytes begin as a value does. -/
def Begins (s : Bytes) : Prop :=
  ∃ b t, s = b :: t ∧ isBlankByte b = false ∧ b ≠ Byte.of ']'

theorem Begins.append {s : Bytes} (h : Begins s) (t : Bytes) : Begins (s ++ t) := by
  obtain ⟨b, s, rfl, blank, other⟩ := h
  exact ⟨b, s ++ t, rfl, blank, other⟩

/-- A number ends where the next item or member is announced. -/
theorem Lead.endsNumber {lead : Bytes} (h : Lead false lead) (rest : Bytes) :
    EndsNumber (lead ++ rest) := by
  cases h with
  | later hs ht =>
      rw [List.append_assoc, List.cons_append]
      exact .blanks hs (.cons (by decide))

/-- A number ends where an item or a list ends. -/
theorem Items.endsNumber {values : List Bytes} {s : Bytes} (h : Items false values s)
    (rest : Bytes) : EndsNumber (s ++ rest) := by
  cases h with
  | close _ hs =>
      rw [List.append_assoc]
      exact .blanks hs (.cons (by decide))
  | item hl hm =>
      rw [List.append_assoc]
      exact hl.endsNumber _

/-- A number ends where a member or an object ends. -/
theorem Members.endsNumber {κ : Type} {Key : κ → Bytes → Prop} {members : List (κ × Bytes)}
    {s : Bytes} (h : Members Key false members s) (rest : Bytes) : EndsNumber (s ++ rest) := by
  cases h with
  | close _ hs =>
      rw [List.append_assoc]
      exact .blanks hs (.cons (by decide))
  | member hl hk hc hm =>
      rw [List.append_assoc]
      exact hl.endsNumber _

theorem dropColon_of_colon {s : Bytes} (h : Colon s) (t : Bytes) :
    ∃ blanks, IsBlanks blanks ∧ dropColon (s ++ t) = .ok (blanks ++ t) := by
  cases h with
  | blanks hs ht =>
      refine ⟨_, ht, ?_⟩
      rw [List.append_assoc, List.cons_append, dropColon, dropBlanks_append_cons hs (by decide)]
      rfl

section

variable (stack : List Bracket)

/-- Blanks in front of a value are passed over. -/
theorem passWithin_blanks {s t : Bytes} (hs : IsBlanks s) (ht : Begins t) :
    passWithin stack (s ++ t) = passWithin stack t := by
  obtain ⟨b, r, rfl, blank, -⟩ := ht
  rw [passWithin_of_dropBlanks stack (dropBlanks_append_cons hs blank r),
    passWithin_of_dropBlanks stack (dropBlanks_cons blank r)]

theorem passOn_close (top : Bracket) {s r : Bytes} (closing : dropBlanks s = top.closing :: r)
    (first : Bool) : passOn first (top :: stack) s = passOn false stack r := by
  rw [passOn.eq_def]
  simp only
  split
  · next none =>
      rw [closing] at none
      cases none
  · next heq =>
      rw [closing] at heq
      cases heq
      rw [if_pos rfl]

/-- An item is passed over if its value is. -/
theorem passOn_lead {first : Bool} {lead value rest : Bytes} (hl : Lead first lead)
    (begins : Begins value)
    (passed : passWithin (.list :: stack) value = passOn false (.list :: stack) rest) :
    passOn first (.list :: stack) (lead ++ value) = passOn false (.list :: stack) rest := by
  cases hl with
  | first hs =>
      obtain ⟨b, t, rfl, blank, (other : b ≠ Bracket.list.closing)⟩ := begins
      rw [passOn_item stack (dropBlanks_append_cons hs blank t) other rfl rfl, passed]
  | later hs ht =>
      rw [List.append_assoc, List.cons_append, passOn_item stack
        (dropBlanks_append_cons hs (by decide) _) (by decide) rfl rfl,
        passWithin_blanks _ ht begins, passed]

/-- A list is passed over if its values are. -/
theorem passOn_of_items {first : Bool} {values : List Bytes} {s : Bytes}
    (items : Items first values s)
    (each : ∀ v ∈ values, Begins v ∧ ∀ rest, EndsNumber rest →
      passWithin (.list :: stack) (v ++ rest) = passOn false (.list :: stack) rest)
    (rest : Bytes) : passOn first (.list :: stack) (s ++ rest) = passOn false stack rest := by
  induction items with
  | close first hs =>
      rw [List.append_assoc]
      exact passOn_close stack .list (dropBlanks_append_cons hs (by decide) rest) first
  | item hl hm ih =>
      obtain ⟨begins, passed⟩ := each _ (.head _)
      simp only [List.append_assoc]
      rw [passOn_lead stack hl (begins.append _) (passed _ (hm.endsNumber rest)),
        ih fun v hv => each v (.tail _ hv)]

/-- A key is passed over with its colon. -/
theorem passOn_key {first : Bool} {lead key colon : Bytes} (hl : Lead first lead)
    (hk : IsText key) (hc : Colon colon) {value : Bytes} (begins : Begins value) :
    passOn first (.object :: stack) (lead ++ (key ++ (colon ++ value))) =
      passWithin (.object :: stack) value := by
  obtain ⟨inside, text, rfl⟩ := hk
  obtain ⟨blanks, hb, dropped⟩ := dropColon_of_colon hc value
  have quote : isBlankByte (Byte.of '"') = false := by decide
  have lead {front : Bytes} (hf : IsBlanks front) :
      passLead .object (front ++ Byte.of '"' :: (inside ++ Byte.of '"' :: (colon ++ value))) =
        .ok (blanks ++ value) := by
    rw [passLead, passKey, dropBlanks_append_cons hf quote]
    simp only [if_true, passText_of_isInside text, dropped]
  simp only [quoted, List.cons_append, List.append_assoc, List.nil_append]
  cases hl with
  | first hs =>
      rw [passOn_item stack (dropBlanks_append_cons hs quote _) (by decide) rfl
        (lead isBlanks_nil), passWithin_blanks _ hb begins]
  | later hs ht =>
      rw [List.append_assoc, List.cons_append, passOn_item stack
        (dropBlanks_append_cons hs (by decide) _) (by decide) rfl (lead ht),
        passWithin_blanks _ hb begins]

/-- An object is passed over if its values are. -/
theorem passOn_of_members {first : Bool} {members : List (Unit × Bytes)} {s : Bytes}
    (ms : Members (fun _ => IsText) first members s)
    (each : ∀ m ∈ members, Begins m.2 ∧ ∀ rest, EndsNumber rest →
      passWithin (.object :: stack) (m.2 ++ rest) = passOn false (.object :: stack) rest)
    (rest : Bytes) : passOn first (.object :: stack) (s ++ rest) = passOn false stack rest := by
  induction ms with
  | close first hs =>
      rw [List.append_assoc]
      exact passOn_close stack .object (dropBlanks_append_cons hs (by decide) rest) first
  | member hl hk hc hm ih =>
      obtain ⟨begins, passed⟩ := each _ (.head _)
      simp only [List.append_assoc]
      rw [passOn_key stack hl hk hc (begins.append _), passed _ (hm.endsNumber rest),
        ih fun m hm => each m (.tail _ hm)]

end

/-! ## Values -/

theorem IsNumber.begins {s : Bytes} (h : IsNumber s) : Begins s := by
  obtain ⟨b, t, rfl, digit | rfl⟩ := h.exists_cons
  · exact ⟨b, t, rfl, isBlankByte_of_isDigit digit, ne_of_isDigit digit (by decide)⟩
  · exact ⟨_, t, rfl, by decide, by decide⟩

theorem IsText.begins {s : Bytes} (h : IsText s) : Begins s := by
  obtain ⟨inside, -, rfl⟩ := h
  exact ⟨_, _, rfl, by decide, by decide⟩

theorem IsValue.begins {s : Bytes} (h : IsValue s) : Begins s := by
  cases h with
  | word h =>
      simp only [List.mem_cons, List.not_mem_nil, or_false] at h
      rcases h with rfl | rfl | rfl <;> exact ⟨_, _, rfl, by decide, by decide⟩
  | number h => exact h.begins
  | text h => exact h.begins
  | list items each => exact ⟨_, _, rfl, by decide, by decide⟩
  | object ms each => exact ⟨_, _, rfl, by decide, by decide⟩

/-- A value is passed over up to its end, inside any brackets that are open. -/
theorem passWithin_of_isValue {s : Bytes} (h : IsValue s) (stack : List Bracket) {rest : Bytes}
    (ends : EndsNumber rest) : passWithin stack (s ++ rest) = passOn false stack rest := by
  induction h generalizing stack rest with
  | word h =>
      simp only [List.mem_cons, List.not_mem_nil, or_false] at h
      rcases h with rfl | rfl | rfl <;> exact passWithin_scalar stack rfl
  | number h => exact passWithin_scalar stack (passScalar_of_isNumber h ends)
  | text h =>
      obtain ⟨inside, text, rfl⟩ := h
      refine passWithin_scalar stack ?_
      rw [quoted, List.cons_append, List.append_assoc]
      exact passText_of_isInside text rest
  | list items each ih =>
      rw [List.cons_append, passWithin_list]
      exact passOn_of_items stack items
        (fun v hv => ⟨(each v hv).begins, fun _ => ih v hv (.list :: stack)⟩) rest
  | object ms each ih =>
      rw [List.cons_append, passWithin_object]
      exact passOn_of_members stack ms
        (fun m hm => ⟨(each m hm).begins, fun _ => ih m hm (.object :: stack)⟩) rest

/-- A value is passed over with the blanks in front of it. -/
theorem passValue_of_isValue {blanks s rest : Bytes} (hb : IsBlanks blanks) (h : IsValue s)
    (ends : EndsNumber rest) : passValue (blanks ++ (s ++ rest)) = .ok rest := by
  rw [passValue, passWithin_blanks [] hb (h.begins.append rest), passWithin_of_isValue h [] ends,
    passOn.eq_def]

/-- A text is read as a value, in whatever way it is spelt. -/
theorem readTextValue_of_spells {t : String} {s : Bytes} (h : SpellsText t s) (rest : Bytes) :
    readTextValue (s ++ rest) = .ok (t, rest) := by
  obtain ⟨inside, rfl, read⟩ := readText_of_spells h
  rw [List.cons_append, readTextValue, dropBlanks_cons (by decide)]
  simp only [if_true, read rest]

/-! ## Documents -/

/-- The compact form of a document as bytes. -/
def Document.bytes (d : Document) : Bytes := d.write.flatMap String.utf8EncodeChar

/-- The bytes of a document are those of its text. -/
theorem encode_toString (d : Document) : encode d.toString = d.bytes := by
  rw [encode, Document.toString, String.toList_ofList, Document.bytes]

/-- The bytes of the items of a list after the first. -/
def itemsBytes (ds : List Document) : Bytes := (writeItems ds).flatMap String.utf8EncodeChar

/-- The bytes of the members of an object after the first. -/
def membersBytes (ms : List (String × Document)) : Bytes :=
  (writeMembers ms).flatMap String.utf8EncodeChar

section

variable (d : Document) (ds : List Document) (name : String) (ms : List (String × Document))

theorem itemsBytes_cons : itemsBytes (d :: ds) = Byte.of ',' :: (d.bytes ++ itemsBytes ds) := by
  have comma : String.utf8EncodeChar ',' = [Byte.of ','] := by decide
  simp [Document.bytes, itemsBytes, writeItems, comma]

theorem bytes_list :
    (Document.list (d :: ds)).bytes =
      Byte.of '[' :: (d.bytes ++ (itemsBytes ds ++ [Byte.of ']'])) := by
  have left : String.utf8EncodeChar '[' = [Byte.of '['] := by decide
  have right : String.utf8EncodeChar ']' = [Byte.of ']'] := by decide
  simp [Document.bytes, Document.write, itemsBytes, left, right]

theorem membersBytes_cons :
    membersBytes ((name, d) :: ms) = Byte.of ',' ::
      ((quote name).flatMap String.utf8EncodeChar ++
        (Byte.of ':' :: (d.bytes ++ membersBytes ms))) := by
  have comma : String.utf8EncodeChar ',' = [Byte.of ','] := by decide
  have colon : String.utf8EncodeChar ':' = [Byte.of ':'] := by decide
  simp [Document.bytes, membersBytes, writeMembers, comma, colon]

theorem bytes_object :
    (Document.object ((name, d) :: ms)).bytes = Byte.of '\x7b' ::
      ((quote name).flatMap String.utf8EncodeChar ++
        (Byte.of ':' :: (d.bytes ++ (membersBytes ms ++ [Byte.of '\x7d'])))) := by
  have left : String.utf8EncodeChar '\x7b' = [Byte.of '\x7b'] := by decide
  have colon : String.utf8EncodeChar ':' = [Byte.of ':'] := by decide
  have right : String.utf8EncodeChar '\x7d' = [Byte.of '\x7d'] := by decide
  simp [Document.bytes, Document.write, braced, membersBytes, left, colon, right]

end

/-- The items of a list after the first follow a comma each. -/
theorem items_itemsBytes (ds : List Document) :
    Items false (ds.map Document.bytes) (itemsBytes ds ++ [Byte.of ']']) := by
  induction ds with
  | nil => exact .close false isBlanks_nil
  | cons d ds ih =>
      rw [itemsBytes_cons, List.cons_append, List.append_assoc]
      exact .item (.later isBlanks_nil isBlanks_nil) ih

/-- A list has the items that it is written with. -/
theorem exists_items (ds : List Document) :
    ∃ s, (Document.list ds).bytes = Byte.of '[' :: s ∧ Items true (ds.map Document.bytes) s := by
  cases ds with
  | nil => exact ⟨_, rfl, .close true isBlanks_nil⟩
  | cons d ds =>
      exact ⟨_, bytes_list d ds, .item (.first isBlanks_nil) (items_itemsBytes ds)⟩

theorem colon_singleton : Colon [Byte.of ':'] := .blanks isBlanks_nil isBlanks_nil

/-- The members of an object after the first follow a comma each. -/
theorem members_membersBytes (ms : List (String × Document)) :
    Members SpellsText false (ms.map fun m => (m.1, m.2.bytes))
      (membersBytes ms ++ [Byte.of '\x7d']) := by
  induction ms with
  | nil => exact .close false isBlanks_nil
  | cons m ms ih =>
      rw [membersBytes_cons, List.cons_append, List.append_assoc, List.cons_append,
        List.append_assoc]
      exact .member (.later isBlanks_nil isBlanks_nil) (spellsText_quote m.1) colon_singleton ih

/-- An object has the members that it is written with. -/
theorem exists_members (ms : List (String × Document)) :
    ∃ s, (Document.object ms).bytes = Byte.of '\x7b' :: s ∧
      Members SpellsText true (ms.map fun m => (m.1, m.2.bytes)) s := by
  cases ms with
  | nil => exact ⟨_, rfl, .close true isBlanks_nil⟩
  | cons m ms =>
      exact ⟨_, bytes_object m.2 m.1 ms, .member (.first isBlanks_nil) (spellsText_quote m.1)
        colon_singleton (members_membersBytes ms)⟩

/-- Keys may be forgotten. -/
theorem Members.forget {first : Bool} {members : List (String × Bytes)} {s : Bytes}
    (h : Members SpellsText first members s) :
    Members (fun _ => IsText) first (members.map fun m => ((), m.2)) s := by
  induction h with
  | close first hs => exact .close first hs
  | member hl hk hc hm ih => exact .member hl hk.isText hc ih

mutual

/-- The compact form of a document is a value. -/
theorem isValue_bytes : (d : Document) → IsValue d.bytes
  | .text t => .text (spellsText_quote t).isText
  | .count n => by
      rw [Document.bytes, Document.write, bytes_digits (isNumeral_toDigits n).digits]
      exact .number (isNumber_toDigits n)
  | .real x => isValue_writeReal x
  | .list ds => by
      obtain ⟨s, form, items⟩ := exists_items ds
      rw [form]
      exact .list items (List.forall_mem_map.mpr (isValue_items ds))
  | .object ms => by
      obtain ⟨s, form, members⟩ := exists_members ms
      rw [form]
      refine .object members.forget ?_
      rw [List.map_map]
      exact List.forall_mem_map.mpr (isValue_members ms)

theorem isValue_items : (ds : List Document) → ∀ d ∈ ds, IsValue d.bytes
  | [] => List.forall_mem_nil _
  | d :: ds => List.forall_mem_cons.mpr ⟨isValue_bytes d, isValue_items ds⟩

theorem isValue_members : (ms : List (String × Document)) → ∀ m ∈ ms, IsValue m.2.bytes
  | [] => List.forall_mem_nil _
  | (_, d) :: ms => List.forall_mem_cons.mpr ⟨isValue_bytes d, isValue_members ms⟩

end

/-- A document is passed over as a value. -/
theorem passValue_bytes (d : Document) {rest : Bytes} (ends : EndsNumber rest) :
    passValue (d.bytes ++ rest) = .ok rest :=
  passValue_of_isValue isBlanks_nil (isValue_bytes d) ends

/-- A text is read back from what is written for it. -/
theorem readTextValue_bytes (s : String) (rest : Bytes) :
    readTextValue ((Document.text s).bytes ++ rest) = .ok (s, rest) :=
  readTextValue_of_spells (spellsText_quote s) rest

end SchoolDesk.Json
