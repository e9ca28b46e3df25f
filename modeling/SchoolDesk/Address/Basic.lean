/-!
# Internet addresses

An IP address of version 4 has four octets, and one of version 6 has eight groups
of sixteen bits.  A socket address is an IP address with a port.  One of version
6 has a scope too, which says on which link the address is meant, and scope zero
says nothing.
-/

namespace SchoolDesk

/-- An IP address of version 4. -/
structure IPv4 where
  a : UInt8
  b : UInt8
  c : UInt8
  d : UInt8
deriving DecidableEq, Repr, Inhabited

/-- An IP address of version 6. -/
structure IPv6 where
  /-- The groups, first to last. -/
  groups : List UInt16
  /-- There are eight of them. -/
  length_groups : groups.length = 8
deriving DecidableEq, Repr

/-- The sixteen bits of two octets. -/
def pairOctets (high low : UInt8) : UInt16 := UInt16.ofNat (high.toNat * 256 + low.toNat)

/-- The first two octets of an address of version 4, as a group. -/
def IPv4.high (ip : IPv4) : UInt16 := pairOctets ip.a ip.b

/-- The last two octets of an address of version 4, as a group. -/
def IPv4.low (ip : IPv4) : UInt16 := pairOctets ip.c ip.d

/-- The address of version 4 with two given groups. -/
def IPv4.ofGroups (high low : UInt16) : IPv4 :=
  ⟨UInt8.ofNat (high.toNat / 256), UInt8.ofNat high.toNat, UInt8.ofNat (low.toNat / 256),
    UInt8.ofNat low.toNat⟩

/-- Where a service can listen. -/
inductive SocketAddress where
  | v4 (ip : IPv4) (port : UInt16)
  | v6 (ip : IPv6) (scope : UInt32) (port : UInt16)
deriving DecidableEq, Repr

namespace SocketAddress

/-- The port. -/
def port : SocketAddress → UInt16
  | .v4 _ port => port
  | .v6 _ _ port => port

/-- The address is of version 6. -/
def isV6 : SocketAddress → Bool
  | .v4 .. => false
  | .v6 .. => true

end SocketAddress

end SchoolDesk
