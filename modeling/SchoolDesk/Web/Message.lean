import SchoolDesk.Text.Cut
import SchoolDesk.Text.Utf8

/-!
# Requests and responses

A request asks for a target with a method.  The target is a path, and a query
after the first question mark if there is one.  A response has a status, a text
and those of four headers that it needs.
-/

namespace SchoolDesk.Web

/-- What a request wants done with its target. -/
inductive Method where
  | get
  /-- What `get` answers, without the text. -/
  | head
  | post
  | other (name : String)
deriving DecidableEq, Repr

/-- The method of a name.  Case matters. -/
def Method.ofName (name : String) : Method :=
  if name = "GET" then .get
  else if name = "HEAD" then .head
  else if name = "POST" then .post
  else .other name

/-- What somebody asks of the service. -/
structure Request where
  method : Method
  target : Bytes
  /-- The names and values of the headers, first header first. -/
  headers : List (String × Bytes) := []
  body : Bytes := []
deriving DecidableEq, Repr

namespace Request

/-- The target up to its query. -/
def path (r : Request) : Bytes := (Text.cut (Byte.of '?') r.target).1

/-- The query of the target, if there is one. -/
def query? (r : Request) : Option Bytes := (Text.cut (Byte.of '?') r.target).2

/-- The query of the target, which may be empty. -/
def query (r : Request) : Bytes := r.query?.getD []

/-- The value of the first header of a name, given in small letters. -/
def header? (r : Request) (name : String) : Option Bytes :=
  (r.headers.find? fun h => h.1.toLower = name).map (·.2)

end Request

/-- How a request went. -/
inductive Status where
  | ok
  | partialContent
  | notModified
  | temporaryRedirect
  | badRequest
  | unauthorized
  | notFound
  | methodNotAllowed
  | preconditionFailed
  | contentTooLarge
  | unsupportedMediaType
  | rangeNotSatisfiable
  | unprocessable
  | serverError
deriving DecidableEq, Repr

/-- The number of a status. -/
def Status.code : Status → Nat
  | .ok => 200
  | .partialContent => 206
  | .notModified => 304
  | .temporaryRedirect => 307
  | .badRequest => 400
  | .unauthorized => 401
  | .notFound => 404
  | .methodNotAllowed => 405
  | .preconditionFailed => 412
  | .contentTooLarge => 413
  | .unsupportedMediaType => 415
  | .rangeNotSatisfiable => 416
  | .unprocessable => 422
  | .serverError => 500

/-- What the service answers. -/
structure Response where
  status : Status
  /-- The type of the text. -/
  contentType : Option String := none
  /-- Where to ask instead. -/
  location : Option String := none
  /-- The kind of credentials that are wanted. -/
  challenge : Option String := none
  /-- The methods with which one may ask. -/
  allow : Option String := none
  text : String := ""
deriving DecidableEq, Repr

namespace Response

/-- The same response to somebody who does not want the text. -/
def withoutText (r : Response) : Response := { r with text := "" }

/-- Nothing is there. -/
def notFound : Response := { status := .notFound }

/-- The service itself failed. -/
def serverError : Response := { status := .serverError }

/-- One may ask, but not with this method. -/
def methodNotAllowed (allow : String) : Response :=
  { status := .methodNotAllowed, allow := some allow }

/-- One should ask elsewhere. -/
def redirect (location : String) : Response :=
  { status := .temporaryRedirect, location := some location }

end Response

end SchoolDesk.Web
