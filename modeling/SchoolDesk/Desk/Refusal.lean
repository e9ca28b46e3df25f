import SchoolDesk.Expression.Error
import SchoolDesk.Json.Fault
import SchoolDesk.Roster.Basic
import SchoolDesk.Session.Basic
import SchoolDesk.Web.Form
import SchoolDesk.Web.Message

/-!
# Refusals

A request that is understood may still be refused.  A `Refusal` says why.  Its
response is an object with the one member `detail`, which holds the wording.
Whoever is not known is told which credentials are wanted.
-/

namespace SchoolDesk

open Expression (EvalError)
open Json (Document)
open Web (FieldFault Response Status)

/-- Why a request is refused. -/
inductive Refusal where
  | activityNotFound (e : ActivityNotFound)
  /-- No credentials, or none that can be read. -/
  | notAuthenticated
  | auth (e : AuthError)
  | calculation (e : EvalError)
  /-- A result for which JSON has no number. -/
  | notFinite (x : Float)
  /-- The name in the path is no text. -/
  | badPath
  | badQuery (f : FieldFault)
  /-- The body is not said to be JSON. -/
  | notJson
  /-- The body is too long to be read. -/
  | longBody
  | badBody (f : Json.Fault)
deriving DecidableEq, Repr

namespace Refusal

/-- The wording of a double that is not finite. -/
def notFiniteText (x : Float) : String :=
  if x.isNaN then "NaN" else if x < 0.0 then "-inf" else "inf"

/-- The wording of a body that cannot be read. -/
def bodyText (f : Json.Fault) : String :=
  match f.cause.category with
  | .content => "Failed to deserialize the JSON body into the target type: " ++ f.message
  | .grammar | .ending => "Failed to parse the request body as JSON: " ++ f.message

/-- The wording of a refusal. -/
def message : Refusal → String
  | activityNotFound _ => "Activity not found"
  | notAuthenticated => "Not authenticated"
  | auth e => e.message
  | calculation e => "Error calculating expression: " ++ e.message
  | notFinite x =>
      "Error calculating expression: result " ++ notFiniteText x ++ " is not a finite number"
  | badPath => "Invalid URL: Invalid UTF-8 in `activity_name`"
  | badQuery f => "Failed to deserialize query string: " ++ f.message
  | notJson => "Expected request with `Content-Type: application/json`"
  | longBody => "Failed to buffer the request body: length limit exceeded"
  | badBody f => bodyText f

/-- The status of a refusal. -/
def status : Refusal → Status
  | activityNotFound _ => .notFound
  | notAuthenticated | auth _ => .unauthorized
  | calculation _ | notFinite _ | badPath | badQuery _ => .badRequest
  | notJson => .unsupportedMediaType
  | longBody => .contentTooLarge
  | badBody f =>
      match f.cause.category with
      | .content => .unprocessable
      | .grammar | .ending => .badRequest

/-- The refusal as JSON. -/
def document (e : Refusal) : Document := .object [("detail", .text e.message)]

end Refusal

/-- The type of the texts the service writes. -/
def jsonType : String := "application/json"

/-- A document as a response. -/
def documentResponse (status : Status) (d : Document) : Response :=
  { status := status, contentType := some jsonType, text := d.toString }

/-- A refusal as a response. -/
def Refusal.response (e : Refusal) : Response :=
  { documentResponse e.status e.document with
    challenge := if e.status = .unauthorized then some "Bearer" else none }

end SchoolDesk
