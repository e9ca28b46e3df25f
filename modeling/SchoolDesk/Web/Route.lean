import SchoolDesk.Web.Message

/-!
# Routes

A path is cut at its slashes, and what stands between them decides where it
leads.  Only the raw path counts: letters in percent encoding, other cases of
letters and further slashes lead nowhere.  One route has a part that may be
anything without a slash, and one leads to files, however long the path goes on.

`ofPath?_signup` says that anything without a slash can stand where the name of an
activity does.
-/

namespace SchoolDesk.Web

/-- What the service has. -/
inductive Route where
  /-- The front page. -/
  | home
  /-- The list of all activities. -/
  | activities
  /-- A signup for an activity, whose name is in percent encoding. -/
  | signup (segment : Bytes)
  /-- A login. -/
  | token
  /-- Who is asking. -/
  | me
  /-- A calculation. -/
  | calculate
  /-- A file, at the rest of the path. -/
  | files (rest : Bytes)
deriving DecidableEq, Repr

namespace Route

/-- A slash. -/
def slash : UInt8 := Byte.of '/'

/-- The part of a path that some letters spell. -/
def word (s : String) : Bytes := Text.Utf8.encode s

/-- Where the parts of a path lead, other than to files. -/
def ofSegments? : List Bytes → Option Route
  | [a] =>
      if a = [] then some home
      else if a = word "activities" then some activities
      else if a = word "token" then some token
      else if a = word "calculate" then some calculate
      else none
  | [a, b] => if a = word "users" ∧ b = word "me" then some me else none
  | [a, b, c] => if a = word "activities" ∧ c = word "signup" then some (signup b) else none
  | _ => none

/-- Where a path leads. -/
def ofPath? (path : Bytes) : Option Route :=
  match path.splitOn slash with
  | [] :: first :: rest =>
      if first = word "static" then some (files (path.drop (word "/static").length))
      else ofSegments? (first :: rest)
  | _ => none

/-- The service only shows something there. -/
def isReadOnly : Route → Bool
  | home | activities | me | files _ => true
  | signup _ | token | calculate => false

/-- There are files there, which see to it themselves that only those get a text who
want one. -/
def isFiles : Route → Bool
  | files _ => true
  | _ => false

/-- One may ask for a route with a method. -/
def allows (route : Route) (m : Method) : Bool :=
  if route.isReadOnly then m = .get || m = .head else m = .post

/-- The methods with which one may ask for a route. -/
def allowed (route : Route) : String := if route.isReadOnly then "GET,HEAD" else "POST"

theorem ofPath?_signup (segment : Bytes) (h : slash ∉ segment) :
    ofPath? (word "/activities/" ++ segment ++ word "/signup") = some (signup segment) := by
  have hfront : word "/activities/" ++ segment ++ word "/signup" =
      [] ++ slash :: (word "activities" ++ slash :: (segment ++ slash :: word "signup")) := by
    have h1 : word "/activities/" = slash :: (word "activities" ++ [slash]) := by decide
    have h2 : word "/signup" = slash :: word "signup" := by decide
    rw [h1, h2]
    simp
  have hsplit : (word "/activities/" ++ segment ++ word "/signup").splitOn slash =
      [[], word "activities", segment, word "signup"] := by
    rw [hfront, List.splitOn_append_cons_self_of_not_mem (by simp),
      List.splitOn_append_cons_self_of_not_mem (by decide),
      List.splitOn_append_cons_self_of_not_mem h, List.splitOn_eq_singleton (by decide)]
  rw [ofPath?, hsplit]
  have hne : word "activities" ≠ word "static" := by decide
  simp [hne, ofSegments?]

end Route

end SchoolDesk.Web
