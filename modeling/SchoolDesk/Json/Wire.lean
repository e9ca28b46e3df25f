import SchoolDesk.Json.Record
import SchoolDesk.Roster.Basic
import SchoolDesk.Session.Identity

/-!
# Activities, users and tokens as JSON

Each of the three has a record type, a document and a reader.  The record lists
the fields in the order in which they are written.  A roster is written as an
object with a member for each activity, in the order of the roster.

A login is a record that is only read.
-/

namespace SchoolDesk

open Json (Document Fault Record)

namespace Activity

/-- The fields of an activity. -/
abbrev record : Record :=
  ⟨"Activity", [⟨"description", .text⟩, ⟨"schedule", .text⟩, ⟨"max_participants", .count⟩,
    ⟨"participants", .texts⟩]⟩

/-- An activity as JSON. -/
def document (a : Activity) : Document :=
  .object [("description", .text a.description), ("schedule", .text a.schedule),
    ("max_participants", .count a.capacity.toNat),
    ("participants", .list (a.participants.map .text))]

/-- Reads an activity. -/
def decode (s : Bytes) : Except Fault Activity :=
  match record.decode s with
  | .ok (description, schedule, capacity, participants, _) =>
      .ok ⟨description, schedule, capacity, participants⟩
  | .error e => .error e

end Activity

namespace User

/-- The fields of a user. -/
abbrev record : Record := ⟨"User", [⟨"email", .text⟩, ⟨"username", .text⟩]⟩

/-- A user as JSON. -/
def document (u : User) : Document :=
  .object [("email", .text u.email), ("username", .text u.username)]

/-- Reads a user. -/
def decode (s : Bytes) : Except Fault User :=
  match record.decode s with
  | .ok (email, username, _) => .ok ⟨email, username⟩
  | .error e => .error e

end User

namespace Token

/-- The fields of a token. -/
abbrev record : Record := ⟨"Token", [⟨"access_token", .text⟩, ⟨"token_type", .text⟩]⟩

/-- A token as JSON. -/
def document (t : Token) : Document :=
  .object [("access_token", .text t.accessToken), ("token_type", .text t.tokenType)]

/-- Reads a token. -/
def decode (s : Bytes) : Except Fault Token :=
  match record.decode s with
  | .ok (accessToken, tokenType, _) => .ok ⟨accessToken, tokenType⟩
  | .error e => .error e

end Token

/-- What somebody sends to log in. -/
structure Login where
  username : String
  password : String
deriving DecidableEq, Repr

namespace Login

/-- The fields of a login. -/
abbrev record : Record := ⟨"LoginData", [⟨"username", .text⟩, ⟨"password", .text⟩]⟩

/-- Reads a login. -/
def decode (s : Bytes) : Except Fault Login :=
  match record.decode s with
  | .ok (username, password, _) => .ok ⟨username, password⟩
  | .error e => .error e

end Login

/-- A roster as JSON. -/
def Roster.document (r : Roster) : Document :=
  .object (r.toList.map fun p => (p.1, p.2.document))

end SchoolDesk
