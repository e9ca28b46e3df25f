import SchoolDesk.Address.Basic

/-!
# Writing addresses

An address of version 6 is written with its groups in lower-case hexadecimal and
without zeros in front.  Two colons stand for the longest run of two or more
groups of zeros, the first one if there are several.  An address that maps one of
version 4 is written as `::ffff:` and the mapped address with its dots.

A scope is written only if it is not zero.
-/

namespace SchoolDesk

/-- A number in decimal digits. -/
def decimalText (n : Nat) : List Char := Nat.toDigits 10 n

/-- The text of an address of version 4. -/
def IPv4.text (ip : IPv4) : List Char :=
  List.intercalate ['.'] ([ip.a, ip.b, ip.c, ip.d].map fun octet => decimalText octet.toNat)

namespace IPv6

/-- The number of groups of zeros that stand together from a group on. -/
def zerosFrom (groups : List UInt16) (i : Nat) : Nat :=
  ((groups.drop i).takeWhile (· = 0)).length

/-- Where the longest run of groups of zeros begins, the first one if there are
several. -/
def longestZeros (groups : List UInt16) : Nat :=
  (List.range groups.length).foldl
    (fun best i => if zerosFrom groups best < zerosFrom groups i then i else best) 0

/-- Groups with colons between them. -/
def groupsText (groups : List UInt16) : List Char :=
  List.intercalate [':'] (groups.map fun g => Nat.toDigits 16 g.toNat)

/-- The address of version 4 that is mapped, if one is. -/
def mapped? (ip : IPv6) : Option IPv4 :=
  match ip.groups with
  | [0, 0, 0, 0, 0, 0xFFFF, high, low] => some (IPv4.ofGroups high low)
  | _ => none

/-- The text of an address of version 6. -/
def text (ip : IPv6) : List Char :=
  match ip.mapped? with
  | some v4 => "::ffff:".toList ++ v4.text
  | none =>
      let start := longestZeros ip.groups
      let run := zerosFrom ip.groups start
      if run < 2 then groupsText ip.groups
      else
        groupsText (ip.groups.take start) ++ [':', ':'] ++
          groupsText (ip.groups.drop (start + run))

end IPv6

namespace SocketAddress

/-- The text of the IP address alone. -/
def ipText : SocketAddress → String
  | .v4 ip _ => String.ofList ip.text
  | .v6 ip _ _ => String.ofList ip.text

/-- A scope after a percent sign, and nothing for scope zero. -/
def scopeText (scope : UInt32) : List Char :=
  if scope = 0 then [] else '%' :: decimalText scope.toNat

/-- The text of a socket address. -/
def text : SocketAddress → String
  | .v4 ip port => String.ofList (ip.text ++ ':' :: decimalText port.toNat)
  | .v6 ip scope port =>
      String.ofList ('[' :: ip.text ++ scopeText scope ++ [']', ':'] ++ decimalText port.toNat)

end SocketAddress

end SchoolDesk
