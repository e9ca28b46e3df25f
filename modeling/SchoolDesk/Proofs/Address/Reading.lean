import SchoolDesk.Config
import SchoolDesk.Proofs.Text.Digits
import Mathlib.Data.List.TakeWhile
import Mathlib.Logic.Function.Basic

/-!
# The text of an address is read as the address

Every reader of an address takes from the front of a text what the writer puts there, and
leaves whatever follows.  It is enough that what follows cannot belong to it: no digit
follows a number, and no group follows the groups (`EndsGroups`).

Two colons stand for as many groups of zeros as are missing.  So it does not matter which run
of zeros the writer leaves out, as long as there is one: what is left on both sides of
the run, with zeros put between them, is the address again (`takeIPv6_text`).

`ofString?_text` says it for all socket addresses.  Hence the text of the address that a
service listens on gives the same settings again (`Config.ofLookup_text`).
-/

namespace SchoolDesk.Address

/-! ## Numbers -/

/-- A text does not begin with a character of a class. -/
def Stops (p : Char → Bool) (rest : List Char) : Prop := ∀ c ∈ rest.head?, p c = false

theorem stops_nil (p : Char → Bool) : Stops p [] := by
  intro c h
  cases h

theorem stops_cons {p : Char → Bool} {c : Char} (h : p c = false) (rest : List Char) :
    Stops p (c :: rest) := by
  intro x hx
  cases hx
  exact h

section

variable {p : Char → Bool} {digits rest : List Char}

theorem Stops.dropWhile (stops : Stops p rest) : rest.dropWhile p = rest := by
  cases rest with
  | nil => rfl
  | cons c rest => rw [List.dropWhile_cons, stops c rfl, if_neg Bool.false_ne_true]

theorem dropWhile_append (all : ∀ c ∈ digits, p c = true) (stops : Stops p rest) :
    (digits ++ rest).dropWhile p = rest := by
  rw [List.dropWhile_append_of_pos all, stops.dropWhile]

theorem takeWhile_append (all : ∀ c ∈ digits, p c = true) (stops : Stops p rest) :
    (digits ++ rest).takeWhile p = digits := by
  have whole := List.takeWhile_append_dropWhile (p := p) (l := digits ++ rest)
  rw [dropWhile_append all stops] at whole
  exact List.append_cancel_right whole

end

theorem isDigit_of_mem_decimalText {n : Nat} {c : Char} (h : c ∈ decimalText n) :
    c.isDigit = true := Nat.isDigit_of_mem_toDigits (by decide) (by decide) h

theorem decimalValue_decimalText (n : Nat) : decimalValue (decimalText n) = n :=
  Nat.ofDigitChars_ten_toDigits

/-- A number below the bound is read from its digits. -/
theorem takeNumber_decimalText {n bound : Nat} (small : n < bound) {rest : List Char}
    (stops : Stops Char.isDigit rest) :
    takeNumber bound (decimalText n ++ rest) = some (n, rest) := by
  have digits : (decimalText n ++ rest).takeWhile Char.isDigit = decimalText n :=
    takeWhile_append (fun _ => isDigit_of_mem_decimalText) stops
  have left : (decimalText n ++ rest).dropWhile Char.isDigit = rest :=
    dropWhile_append (fun _ => isDigit_of_mem_decimalText) stops
  have some : decimalText n ≠ [] := Nat.toDigits_ne_nil
  simp only [takeNumber, digits, left, decimalValue_decimalText]
  rw [if_neg]
  simpa using ⟨some, small⟩

/-! ## Addresses of version 4 -/

/-- An octet is written with three digits at most and with no needless zero. -/
theorem takeOctet_decimalText (o : UInt8) {rest : List Char} (stops : Stops Char.isDigit rest) :
    takeOctet (decimalText o.toNat ++ rest) = some (o, rest) := by
  have digits : (decimalText o.toNat ++ rest).takeWhile Char.isDigit = decimalText o.toNat :=
    takeWhile_append (fun _ => isDigit_of_mem_decimalText) stops
  have short : (decimalText o.toNat).length ≤ 3 :=
    Nat.toDigits_length 10 _ 3 (by decide) (Nat.lt_trans o.toNat_lt (by decide))
  have needed : (decimalText o.toNat).length = 1 ∨ (decimalText o.toNat).head? ≠ some '0' := by
    by_cases zero : (decimalText o.toNat).head? = some '0'
    · exact .inl (congrArg List.length (zero_of_head?_toDigits zero))
    · exact .inr zero
  simp only [takeOctet, digits, takeNumber_decimalText o.toNat_lt stops, Option.map_some,
    UInt8.ofNat_toNat]
  rw [if_pos]
  simpa using ⟨short, needed⟩

theorem takeNextOctet_decimalText (o : UInt8) {rest : List Char}
    (stops : Stops Char.isDigit rest) :
    takeNextOctet ('.' :: (decimalText o.toNat ++ rest)) = some (o, rest) :=
  takeOctet_decimalText o stops

/-- An address of version 4 is read from its text. -/
theorem takeIPv4_text (ip : IPv4) {rest : List Char} (stops : Stops Char.isDigit rest) :
    takeIPv4 (ip.text ++ rest) = some (ip, rest) := by
  have dotted : ip.text ++ rest = decimalText ip.a.toNat ++ '.' :: (decimalText ip.b.toNat ++
      '.' :: (decimalText ip.c.toNat ++ '.' :: (decimalText ip.d.toNat ++ rest))) := by
    simp [IPv4.text, List.intercalate]
  have dot (s : List Char) : Stops Char.isDigit ('.' :: s) := stops_cons (by decide) s
  rw [dotted, takeIPv4, takeOctet_decimalText ip.a (dot _)]
  simp only [Option.bind_eq_bind, Option.bind_some, takeNextOctet_decimalText _ (dot _),
    takeNextOctet_decimalText ip.d stops]
  rfl

/-- An address of version 4 has a dot behind its first digits. -/
theorem takeIPv4_eq_none {s : List Char} (h : (s.dropWhile Char.isDigit).head? ≠ some '.') :
    takeIPv4 s = none := by
  rw [takeIPv4]
  cases octet : takeOctet s with
  | none => rfl
  | some p =>
      have left : p.2 = s.dropWhile Char.isDigit := by
        rw [takeOctet] at octet
        split at octet
        · obtain ⟨q, number, rfl⟩ := Option.map_eq_some_iff.mp octet
          rw [takeNumber] at number
          split at number
          · cases number
          · cases number
            rfl
        · cases octet
      have noDot : takeNextOctet p.2 = none := by
        rw [← left] at h
        rw [takeNextOctet]
        cases rest : p.2 with
        | nil => rfl
        | cons c rest =>
            rw [rest] at h
            rw [takeChar, if_neg fun dot => h (congrArg some dot), Option.bind_none]
      simp only [Option.bind_eq_bind, Option.bind_some, noDot, Option.bind_none]

/-! ## Groups -/

theorem isHexDigit_digitChar {n : Nat} (h : n < 16) : isHexDigit (Nat.digitChar n) = true := by
  have digits : ∀ i : Fin 16, isHexDigit (Nat.digitChar i.val) = true := by decide
  exact digits ⟨n, h⟩

theorem hexDigitValue_digitChar {n : Nat} (h : n < 16) : hexDigitValue (Nat.digitChar n) = n := by
  have digits : ∀ i : Fin 16, hexDigitValue (Nat.digitChar i.val) = i.val := by decide
  exact digits ⟨n, h⟩

theorem isHexDigit_of_mem_toDigits {n : Nat} {c : Char} (h : c ∈ Nat.toDigits 16 n) :
    isHexDigit c = true := by
  induction n using Nat.strongRecOn with
  | ind n ih =>
      rw [Nat.toDigits_eq_if (by decide)] at h
      split at h
      · next small =>
          rw [List.mem_singleton.mp h]
          exact isHexDigit_digitChar small
      · rcases List.mem_append.mp h with front | last
        · exact ih (n / 16) (by omega) front
        · rw [List.mem_singleton.mp last]
          exact isHexDigit_digitChar (Nat.mod_lt _ (by decide))

theorem hexValue_toDigits (n : Nat) : hexValue (Nat.toDigits 16 n) = n := by
  induction n using Nat.strongRecOn with
  | ind n ih =>
      rw [Nat.toDigits_eq_if (by decide)]
      split
      · next small =>
          have digit := hexDigitValue_digitChar small
          simpa [hexValue] using digit
      · next large =>
          have front : hexValue (Nat.toDigits 16 (n / 16)) = n / 16 := ih (n / 16) (by omega)
          have last := hexDigitValue_digitChar (Nat.mod_lt n (show 0 < 16 by decide))
          rw [hexValue] at front ⊢
          rw [List.foldl_append, front, List.foldl_cons, List.foldl_nil, last]
          omega

/-- A group is read from its digits. -/
theorem takeGroup_toDigits (g : UInt16) {rest : List Char} (stops : Stops isHexDigit rest) :
    takeGroup (Nat.toDigits 16 g.toNat ++ rest) = some (g, rest) := by
  have digits : (Nat.toDigits 16 g.toNat ++ rest).takeWhile isHexDigit =
      Nat.toDigits 16 g.toNat := takeWhile_append (fun _ => isHexDigit_of_mem_toDigits) stops
  have left : (Nat.toDigits 16 g.toNat ++ rest).dropWhile isHexDigit = rest :=
    dropWhile_append (fun _ => isHexDigit_of_mem_toDigits) stops
  have some : Nat.toDigits 16 g.toNat ≠ [] := Nat.toDigits_ne_nil
  have short : (Nat.toDigits 16 g.toNat).length ≤ 4 :=
    Nat.toDigits_length 16 _ 4 (by decide) (Nat.lt_of_lt_of_le g.toNat_lt (by decide))
  simp only [takeGroup, digits, left, hexValue_toDigits, UInt16.ofNat_toNat]
  rw [if_neg]
  simpa [some] using short

/-- A group is not the beginning of an address of version 4, unless a dot follows it. -/
theorem takeIPv4_toDigits (g : UInt16) {rest : List Char} (stops : Stops isHexDigit rest)
    (noDot : rest.head? ≠ some '.') : takeIPv4 (Nat.toDigits 16 g.toNat ++ rest) = none := by
  refine takeIPv4_eq_none ?_
  rw [List.dropWhile_append]
  split
  · have plain : Stops Char.isDigit rest := by
      intro c hc
      have other := stops c hc
      simp only [isHexDigit, Bool.or_eq_false_iff] at other
      exact other.1.1
    rwa [plain.dropWhile]
  · next left =>
      -- The digits that are left are digits of the group, and none of these is a dot.
      cases letters : (Nat.toDigits 16 g.toNat).dropWhile Char.isDigit with
      | nil => simp [letters] at left
      | cons c letters' =>
          have mem : c ∈ Nat.toDigits 16 g.toNat := by
            refine (List.dropWhile_sublist Char.isDigit).mem ?_
            rw [letters]
            exact .head _
          have digit := isHexDigit_of_mem_toDigits mem
          rw [List.cons_append, List.head?_cons]
          rintro ⟨⟩
          cases digit

/-- No group goes on here or follows. -/
inductive EndsGroups : List Char → Prop where
  | colons (rest : List Char) : EndsGroups (':' :: ':' :: rest)
  | percent (rest : List Char) : EndsGroups ('%' :: rest)
  | bracket (rest : List Char) : EndsGroups (']' :: rest)

namespace EndsGroups

variable {rest : List Char} (ends : EndsGroups rest)

include ends

theorem stops : Stops isHexDigit rest := by
  cases ends <;> exact stops_cons (by decide) _

theorem noDot : rest.head? ≠ some '.' := by
  cases ends <;> simp

theorem takeGroup (first : Bool) : (takeLead first rest).bind takeGroup = none := by
  cases ends <;> cases first <;> rfl

theorem takeIPv4 (first : Bool) : (takeLead first rest).bind takeIPv4 = none := by
  cases ends <;> cases first <;> rfl

theorem takeGroups (first : Bool) (room : Nat) : takeGroups first room rest = ⟨[], false, rest⟩ := by
  cases room with
  | zero => rfl
  | succ room =>
      cases room with
      | zero => rw [Address.takeGroups, ends.takeGroup]
      | succ room => rw [Address.takeGroups, ends.takeIPv4, ends.takeGroup]

end EndsGroups

/-- A group is taken with those that follow it. -/
theorem takeGroups_of_group {first : Bool} {s rest : List Char} {g : UInt16}
    (lead : takeLead first s = some (Nat.toDigits 16 g.toNat ++ rest))
    (stops : Stops isHexDigit rest) (noDot : rest.head? ≠ some '.') (room : Nat) :
    takeGroups first (room + 1) s =
      { takeGroups false room rest with groups := g :: (takeGroups false room rest).groups } := by
  have group : (takeLead first s).bind takeGroup = some (g, rest) := by
    rw [lead, Option.bind_some, takeGroup_toDigits g stops]
  have noAddress : (takeLead first s).bind takeIPv4 = none := by
    rw [lead, Option.bind_some, takeIPv4_toDigits g stops noDot]
  cases room with
  | zero => simp only [takeGroups, group]
  | succ room => rw [takeGroups, noAddress, group]

/-- The groups after the first, each with the colon in front of it. -/
def tailText (groups : List UInt16) : List Char :=
  groups.flatMap fun g => ':' :: Nat.toDigits 16 g.toNat

theorem groupsText_cons (g : UInt16) (groups : List UInt16) :
    IPv6.groupsText (g :: groups) = Nat.toDigits 16 g.toNat ++ tailText groups := by
  induction groups generalizing g with
  | nil => simp [IPv6.groupsText, tailText, List.intercalate]
  | cons next groups ih =>
      have more := ih next
      rw [IPv6.groupsText, List.map_cons, List.map_cons, List.intercalate_cons_cons]
      rw [IPv6.groupsText, List.map_cons] at more
      simp [more, tailText]

section

variable {rest : List Char} (ends : EndsGroups rest)

include ends

/-- A group ends where the next one begins. -/
theorem stops_tailText (groups : List UInt16) :
    Stops isHexDigit (tailText groups ++ rest) ∧ (tailText groups ++ rest).head? ≠ some '.' := by
  cases groups with
  | nil => exact ⟨ends.stops, ends.noDot⟩
  | cons g groups => exact ⟨stops_cons (by decide) _, by simp [tailText]⟩

theorem takeGroups_tailText {groups : List UInt16} {room : Nat} (fits : groups.length ≤ room) :
    takeGroups false room (tailText groups ++ rest) = ⟨groups, false, rest⟩ := by
  induction groups generalizing room with
  | nil => exact ends.takeGroups false room
  | cons g groups ih =>
      obtain ⟨room, rfl⟩ := Nat.exists_eq_add_of_lt fits
      obtain ⟨stops, noDot⟩ := stops_tailText ends groups
      have lead : takeLead false (tailText (g :: groups) ++ rest) =
          some (Nat.toDigits 16 g.toNat ++ (tailText groups ++ rest)) := by
        rw [tailText, List.flatMap_cons, ← tailText, List.append_assoc]
        rfl
      rw [takeGroups_of_group lead stops noDot, ih (by omega)]

/-- As many groups as there is room for are read from their text. -/
theorem takeGroups_groupsText {groups : List UInt16} {room : Nat} (fits : groups.length ≤ room) :
    takeGroups true room (IPv6.groupsText groups ++ rest) = ⟨groups, false, rest⟩ := by
  cases groups with
  | nil => exact ends.takeGroups true room
  | cons g groups =>
      obtain ⟨room, rfl⟩ := Nat.exists_eq_add_of_lt fits
      obtain ⟨stops, noDot⟩ := stops_tailText ends groups
      have lead : takeLead true (IPv6.groupsText (g :: groups) ++ rest) =
          some (Nat.toDigits 16 g.toNat ++ (tailText groups ++ rest)) := by
        rw [groupsText_cons, List.append_assoc]
        rfl
      rw [takeGroups_of_group lead stops noDot, takeGroups_tailText ends (by omega)]

end

/-! ## Addresses of version 6 -/

/-- Eight groups are a whole address. -/
theorem takeIPv6_of_eight {s rest : List Char} {ip : IPv6}
    (groups : takeGroups true 8 s = ⟨ip.groups, false, rest⟩) : takeIPv6 s = some (ip, rest) := by
  simp only [takeIPv6, groups]
  rw [dif_pos ip.length_groups]

/-- Around two colons stand the groups in front of the zeros and those after them. -/
theorem takeIPv6_of_colons {s middle rest : List Char} {front back : List UInt16}
    {dotted : Bool}
    (before : takeGroups true 8 s = ⟨front, false, ':' :: ':' :: middle⟩)
    (few : front.length + back.length ≤ 7)
    (after : takeGroups true (7 - front.length) middle = ⟨back, dotted, rest⟩) :
    takeIPv6 s = some (padGroups front back (by omega), rest) := by
  have colons : (takeChar ':' (':' :: ':' :: middle)).bind (takeChar ':') = some middle := rfl
  simp only [takeIPv6, before, colons, after]
  rw [dif_neg (by omega), if_neg (by simp)]

theorem groups_padGroups {front back : List UInt16} (h : front.length + back.length ≤ 8) :
    (padGroups front back h).groups =
      front ++ List.replicate (8 - front.length - back.length) 0 ++ back := rfl

theorem eq_of_groups_eq {ip other : IPv6} (h : ip.groups = other.groups) : ip = other := by
  cases ip
  cases other
  cases h
  rfl

/-- Two octets are the two halves of a group. -/
theorem pairOctets_halves (g : UInt16) :
    pairOctets (UInt8.ofNat (g.toNat / 256)) (UInt8.ofNat g.toNat) = g := by
  have bound := g.toNat_lt
  have halves : (UInt8.ofNat (g.toNat / 256)).toNat * 256 + (UInt8.ofNat g.toNat).toNat =
      g.toNat := by
    simp only [UInt8.toNat_ofNat']
    omega
  rw [pairOctets, halves, UInt16.ofNat_toNat]

theorem groups_of_mapped? {ip : IPv6} {v4 : IPv4} (h : ip.mapped? = some v4) :
    ip.groups = [0, 0, 0, 0, 0, 0xFFFF, v4.high, v4.low] := by
  rw [IPv6.mapped?.eq_def] at h
  split at h
  · next high low form =>
      cases h
      rw [form, IPv4.high, IPv4.low, IPv4.ofGroups, pairOctets_halves, pairOctets_halves]
  · cases h

/-- An address that maps one of version 4 is read from its text. -/
theorem takeIPv6_mapped {ip : IPv6} {v4 : IPv4} (mapped : ip.mapped? = some v4)
    {rest : List Char} (stops : Stops Char.isDigit rest) :
    takeIPv6 ("::ffff:".toList ++ v4.text ++ rest) = some (ip, rest) := by
  have before : takeGroups true 8 ("::ffff:".toList ++ v4.text ++ rest) =
      ⟨[], false, ':' :: ':' :: ("ffff:".toList ++ v4.text ++ rest)⟩ :=
    (EndsGroups.colons _).takeGroups true 8
  have lead : takeLead true ("ffff:".toList ++ v4.text ++ rest) =
      some (Nat.toDigits 16 (0xFFFF : UInt16).toNat ++ ':' :: (v4.text ++ rest)) := rfl
  have dotted : takeGroups false 6 (':' :: (v4.text ++ rest)) =
      ⟨[v4.high, v4.low], true, rest⟩ := by
    have address : (takeLead false (':' :: (v4.text ++ rest))).bind takeIPv4 = some (v4, rest) :=
      takeIPv4_text v4 stops
    rw [takeGroups, address]
  have after : takeGroups true 7 ("ffff:".toList ++ v4.text ++ rest) =
      ⟨[0xFFFF, v4.high, v4.low], true, rest⟩ := by
    rw [takeGroups_of_group lead (stops_cons (by decide) _) (by simp) 6, dotted]
  rw [takeIPv6_of_colons before (by simp) after]
  congr 2
  refine eq_of_groups_eq ?_
  rw [groups_of_mapped? mapped]
  rfl

/-- A run of zeros is made of zeros. -/
theorem groups_eq_around (groups : List UInt16) (i : Nat) :
    groups = groups.take i ++ List.replicate (IPv6.zerosFrom groups i) 0 ++
      groups.drop (i + IPv6.zerosFrom groups i) := by
  have zeros : (groups.drop i).takeWhile (· = 0) =
      List.replicate (IPv6.zerosFrom groups i) 0 := by
    refine List.eq_replicate_of_mem fun g mem => ?_
    simpa using List.mem_takeWhile_imp mem
  have after : (groups.drop i).dropWhile (· = 0) =
      groups.drop (i + IPv6.zerosFrom groups i) := by
    calc (groups.drop i).dropWhile (· = 0)
        = ((groups.drop i).takeWhile (· = 0) ++ (groups.drop i).dropWhile (· = 0)).drop
            (IPv6.zerosFrom groups i) := (List.drop_left' rfl).symm
      _ = groups.drop (i + IPv6.zerosFrom groups i) := by
          rw [List.takeWhile_append_dropWhile, List.drop_drop]
  rw [List.append_assoc, ← zeros, ← after, List.takeWhile_append_dropWhile,
    List.take_append_drop]

/-- An address of version 6 is read from its text. -/
theorem takeIPv6_text (ip : IPv6) {rest : List Char} (ends : EndsGroups rest)
    (stops : Stops Char.isDigit rest) : takeIPv6 (ip.text ++ rest) = some (ip, rest) := by
  cases mapped : ip.mapped? with
  | some v4 =>
      rw [IPv6.text, mapped]
      exact takeIPv6_mapped mapped stops
  | none =>
      have length := ip.length_groups
      rw [IPv6.text, mapped]
      simp only
      -- Which run of zeros is left out does not matter.
      generalize IPv6.longestZeros ip.groups = start
      split
      · exact takeIPv6_of_eight (takeGroups_groupsText ends length.le)
      · next long =>
          have around := groups_eq_around ip.groups start
          generalize IPv6.zerosFrom ip.groups start = run at around long
          have sizes := congrArg List.length around
          simp only [List.length_append, List.length_replicate] at sizes
          have before : takeGroups true 8 (IPv6.groupsText (ip.groups.take start) ++
              (':' :: ':' :: (IPv6.groupsText (ip.groups.drop (start + run)) ++ rest))) =
                ⟨ip.groups.take start, false, _⟩ :=
            takeGroups_groupsText (.colons _) (by omega)
          have after : takeGroups true (7 - (ip.groups.take start).length)
              (IPv6.groupsText (ip.groups.drop (start + run)) ++ rest) =
                ⟨ip.groups.drop (start + run), false, rest⟩ :=
            takeGroups_groupsText ends (by omega)
          simp only [List.append_assoc, List.cons_append, List.nil_append]
          rw [takeIPv6_of_colons before (by omega) after]
          congr 2
          refine eq_of_groups_eq ?_
          have zeros : 8 - (ip.groups.take start).length -
              (ip.groups.drop (start + run)).length = run := by omega
          rw [groups_padGroups, zeros, ← around]

/-! ## Socket addresses -/

theorem takePort_decimalText (port : UInt16) :
    takePort (':' :: decimalText port.toNat) = some (port, []) := by
  have number := takeNumber_decimalText port.toNat_lt (stops_nil Char.isDigit)
  rw [List.append_nil] at number
  have colon : takeChar ':' (':' :: decimalText port.toNat) = some (decimalText port.toNat) := rfl
  rw [takePort, colon, Option.bind_some, number, Option.map_some, UInt16.ofNat_toNat]

theorem takeScope_scopeText (scope : UInt32) (rest : List Char) :
    takeScope (SocketAddress.scopeText scope ++ ']' :: rest) = (scope, ']' :: rest) := by
  rw [SocketAddress.scopeText]
  split
  · next zero => rw [zero]; rfl
  · have number := takeNumber_decimalText scope.toNat_lt
      (stops_cons (p := Char.isDigit) (show (']').isDigit = false by decide) rest)
    rw [takeScope, List.cons_append, takeChar, if_pos rfl, Option.bind_some, number]
    simp only [UInt32.ofNat_toNat]

/-- No group goes on in a scope or after the brackets. -/
theorem endsGroups_scopeText (scope : UInt32) (rest : List Char) :
    EndsGroups (SocketAddress.scopeText scope ++ ']' :: rest) := by
  rw [SocketAddress.scopeText]
  split
  · exact .bracket rest
  · exact .percent _

end SchoolDesk.Address

namespace SchoolDesk

open Address

/-- What is written for a socket address is read as this address. -/
theorem SocketAddress.ofString?_text (a : SocketAddress) : ofString? a.text = some a := by
  cases a with
  | v4 ip port =>
      have read : takeSocketV4 (ip.text ++ ':' :: decimalText port.toNat) =
          some (.v4 ip port, []) := by
        rw [takeSocketV4, takeIPv4_text ip (stops_cons (by decide) _)]
        simp only [Option.bind_eq_bind, Option.bind_some, takePort_decimalText]
        rfl
      rw [ofString?, text, String.toList_ofList, read, Option.some_or]
  | v6 ip scope port =>
      have noV4 (s : List Char) : takeSocketV4 ('[' :: s) = none := rfl
      have read : takeSocketV6 ('[' :: (ip.text ++ (scopeText scope ++
          ']' :: ':' :: decimalText port.toNat))) = some (.v6 ip scope port, []) := by
        have ends := endsGroups_scopeText scope (':' :: decimalText port.toNat)
        have stops : Stops Char.isDigit
            (scopeText scope ++ ']' :: ':' :: decimalText port.toNat) := by
          rw [scopeText]
          split
          · exact stops_cons (by decide) _
          · exact stops_cons (by decide) _
        have closing (s : List Char) : takeChar ']' (']' :: s) = some s := rfl
        rw [takeSocketV6, takeChar, if_pos rfl]
        simp only [Option.bind_eq_bind, Option.bind_some, takeIPv6_text ip ends stops,
          takeScope_scopeText, closing, takePort_decimalText]
        rfl
      have written : (SocketAddress.v6 ip scope port).text.toList = '[' :: (ip.text ++
          (scopeText scope ++ ']' :: ':' :: decimalText port.toNat)) := by
        simp [text]
      rw [ofString?, written, noV4, Option.none_or, read]

/-- Two addresses with one text are one address. -/
theorem SocketAddress.text_injective : Function.Injective SocketAddress.text := by
  intro a b same
  have read := ofString?_text a
  rw [same, ofString?_text b] at read
  exact (Option.some.inj read).symm

/-- The text of the address that some settings name stands for this address.  Whoever sets
the address anew by this text, and leaves all else as it is, gets the same settings.  This
holds of every address: its text is read as the address, and two texts that are read have
addresses with the same text exactly if they have the same address. -/
theorem Config.ofLookup_text :
    (∀ (lookup : String → Option String) (c : Config), ofLookup lookup = .ok c →
      ofLookup (Function.update lookup addressVar (some c.address.text)) = .ok c) ∧
    (∀ a : SocketAddress, SocketAddress.ofString? a.text = some a) ∧
    ∀ (s t : String) (a b : SocketAddress), SocketAddress.ofString? s = some a →
      SocketAddress.ofString? t = some b → (a.text = b.text ↔ a = b) := by
  refine ⟨fun lookup c h => ?_, SocketAddress.ofString?_text, fun s t a b _ _ => ?_⟩
  · have others : c.staticDir = (lookup staticDirVar).getD default.staticDir ∧
        c.loginPassword = (lookup loginPasswordVar).getD default.loginPassword := by
      rw [ofLookup] at h
      simp only at h
      split at h
      · cases h
        exact ⟨rfl, rfl⟩
      · split at h
        · cases h
          exact ⟨rfl, rfl⟩
        · cases h
    obtain ⟨address, staticDir, loginPassword⟩ := c
    obtain ⟨rfl, rfl⟩ := others
    simp only [ofLookup, Function.update_self, SocketAddress.ofString?_text]
    rw [Function.update_of_ne (by decide), Function.update_of_ne (by decide)]
  · exact SocketAddress.text_injective.eq_iff

/-- An address with zeros in front of its numbers, a tail with dots and a scope. -/
theorem Config.ofLookup_text_scope :
    let lookup : String → Option String :=
      Function.update (fun _ => none) addressVar (some "[0:0:01::0.0.0.9%007]:0080")
    let c : Config :=
      { default with address := .v6 ⟨[0, 0, 1, 0, 0, 0, 0, 9], rfl⟩ 7 80 }
    ofLookup lookup = .ok c ∧ c.address.text = "[0:0:1::9%7]:80" ∧
      ofLookup (Function.update lookup addressVar (some c.address.text)) = .ok c := by
  intro lookup c
  have read : ofLookup lookup = .ok c := by decide
  exact ⟨read, by decide, ofLookup_text.1 lookup c read⟩

end SchoolDesk
