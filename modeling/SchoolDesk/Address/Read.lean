import SchoolDesk.Address.Basic

/-!
# Reading addresses

An octet has one to three decimal digits and no needless zero in front.  A group
has one to four hexadecimal digits.  A port or a scope has any number of decimal
digits, and only its value is bounded.

In an address of version 6, two colons stand for one or more groups of zeros,
and may do so once.  The last two groups may be written as an address of version
4.  A reader takes the groups in front of the two colons and then those after
them, and each time as many as there is room for.

Every reader takes what it can from the front of a text and gives back the rest.
`takeGroups_length` says that no more groups are taken than there is room for.
-/

namespace SchoolDesk.Address

/-- A given character must come next. -/
def takeChar (c : Char) : List Char → Option (List Char)
  | [] => none
  | b :: s => if b = c then some s else none

/-- The number of a decimal digit. -/
def digitValue (c : Char) : Nat := c.toNat - '0'.toNat

/-- The number that decimal digits spell. -/
def decimalValue (digits : List Char) : Nat :=
  digits.foldl (fun n c => 10 * n + digitValue c) 0

/-- A hexadecimal digit of either case. -/
def isHexDigit (c : Char) : Bool :=
  c.isDigit || ('a' ≤ c && c ≤ 'f') || ('A' ≤ c && c ≤ 'F')

/-- The number of a hexadecimal digit. -/
def hexDigitValue (c : Char) : Nat :=
  if c.isDigit then digitValue c
  else if 'a' ≤ c then c.toNat - 'a'.toNat + 10
  else c.toNat - 'A'.toNat + 10

/-- The number that hexadecimal digits spell. -/
def hexValue (digits : List Char) : Nat :=
  digits.foldl (fun n c => 16 * n + hexDigitValue c) 0

/-- A decimal number below a bound. -/
def takeNumber (bound : Nat) (s : List Char) : Option (Nat × List Char) :=
  let digits := s.takeWhile Char.isDigit
  let n := decimalValue digits
  if digits.isEmpty || bound ≤ n then none else some (n, s.dropWhile Char.isDigit)

/-- An octet. -/
def takeOctet (s : List Char) : Option (UInt8 × List Char) :=
  let digits := s.takeWhile Char.isDigit
  if digits.length ≤ 3 && (digits.length == 1 || digits.head? != some '0') then
    (takeNumber 256 s).map fun p => (UInt8.ofNat p.1, p.2)
  else none

/-- An octet after a dot. -/
def takeNextOctet (s : List Char) : Option (UInt8 × List Char) :=
  (takeChar '.' s).bind takeOctet

/-- An address of version 4. -/
def takeIPv4 (s : List Char) : Option (IPv4 × List Char) := do
  let (a, s) ← takeOctet s
  let (b, s) ← takeNextOctet s
  let (c, s) ← takeNextOctet s
  let (d, s) ← takeNextOctet s
  return (⟨a, b, c, d⟩, s)

/-- A group. -/
def takeGroup (s : List Char) : Option (UInt16 × List Char) :=
  let digits := s.takeWhile isHexDigit
  if digits.isEmpty || 4 < digits.length then none
  else some (UInt16.ofNat (hexValue digits), s.dropWhile isHexDigit)

/-- The colon in front of every group but the first. -/
def takeLead (first : Bool) (s : List Char) : Option (List Char) :=
  if first then some s else takeChar ':' s

/-- Some groups that were read. -/
structure Groups where
  groups : List UInt16
  /-- The last two were written as an address of version 4. -/
  dotted : Bool
  rest : List Char

/-- As many groups as there are, and as there is room for. -/
def takeGroups (first : Bool) : Nat → List Char → Groups
  | 0, s => ⟨[], false, s⟩
  | 1, s =>
      match (takeLead first s).bind takeGroup with
      | some (g, s) => ⟨[g], false, s⟩
      | none => ⟨[], false, s⟩
  | room + 2, s =>
      match (takeLead first s).bind takeIPv4 with
      | some (ip, s) => ⟨[ip.high, ip.low], true, s⟩
      | none =>
          match (takeLead first s).bind takeGroup with
          | some (g, s) =>
              let more := takeGroups false (room + 1) s
              { more with groups := g :: more.groups }
          | none => ⟨[], false, s⟩
termination_by structural room => room

theorem takeGroups_length (first : Bool) (room : Nat) (s : List Char) :
    (takeGroups first room s).groups.length ≤ room := by
  fun_induction takeGroups first room s with
  | case1 => simp
  | case2 => simp
  | case3 => simp
  | case4 => simp
  | case5 first room s _ g t _ more ih =>
    have : more.groups.length ≤ room + 1 := ih
    simp only [List.length_cons]
    omega
  | case6 => simp

/-- The address whose groups are some in front, some at the end and zeros between
them. -/
def padGroups (front back : List UInt16) (h : front.length + back.length ≤ 8) : IPv6 where
  groups := front ++ List.replicate (8 - front.length - back.length) 0 ++ back
  length_groups := by
    simp only [List.length_append, List.length_replicate]
    omega

/-- An address of version 6. -/
def takeIPv6 (s : List Char) : Option (IPv6 × List Char) :=
  let front := takeGroups true 8 s
  if h : front.groups.length = 8 then some (⟨front.groups, h⟩, front.rest)
  else if front.dotted then none
  else
    match (takeChar ':' front.rest).bind (takeChar ':') with
    | none => none
    | some s =>
        let back := takeGroups true (7 - front.groups.length) s
        some (padGroups front.groups back.groups (by
          have : front.groups.length ≤ 8 := takeGroups_length ..
          have : back.groups.length ≤ 7 - front.groups.length := takeGroups_length ..
          omega), back.rest)

/-- A port after its colon. -/
def takePort (s : List Char) : Option (UInt16 × List Char) :=
  ((takeChar ':' s).bind (takeNumber UInt16.size)).map fun p => (UInt16.ofNat p.1, p.2)

/-- A scope after its percent sign, or scope zero. -/
def takeScope (s : List Char) : UInt32 × List Char :=
  match (takeChar '%' s).bind (takeNumber UInt32.size) with
  | some (n, s) => (UInt32.ofNat n, s)
  | none => (0, s)

/-- A socket address of version 4. -/
def takeSocketV4 (s : List Char) : Option (SocketAddress × List Char) := do
  let (ip, s) ← takeIPv4 s
  let (port, s) ← takePort s
  return (.v4 ip port, s)

/-- A socket address of version 6, with its IP address and scope in brackets. -/
def takeSocketV6 (s : List Char) : Option (SocketAddress × List Char) := do
  let s ← takeChar '[' s
  let (ip, s) ← takeIPv6 s
  let (scope, s) := takeScope s
  let s ← takeChar ']' s
  let (port, s) ← takePort s
  return (.v6 ip scope port, s)

end SchoolDesk.Address

namespace SchoolDesk

/-- The socket address that a whole text spells. -/
def SocketAddress.ofString? (s : String) : Option SocketAddress :=
  match (Address.takeSocketV4 s.toList).or (Address.takeSocketV6 s.toList) with
  | some (address, []) => some address
  | _ => none

end SchoolDesk
