import SchoolDesk.Desk.Refusal
import SchoolDesk.Expression.Evaluate
import SchoolDesk.Json.Wire
import SchoolDesk.Web.Bearer
import SchoolDesk.Web.MediaType
import SchoolDesk.Web.Route
import SchoolDesk.Web.Site

/-!
# The desk

The desk is the state of the service: the roster, the sessions and the pages.
It answers one request after the other.  A request has a response and leaves a
desk behind.  Only an accepted signup changes the roster, and only an accepted
login changes the sessions.

What can be wrong with a request is looked for in a fixed order.  A path comes
before a query, credentials come before a query, and the type of a body comes
before the body, which must not be too long.
-/

namespace SchoolDesk

open Json (Document)
open Web

/-- What a signup answers. -/
inductive SignupAnswer where
  | signedUp (name email : String)
  | alreadySignedUp
deriving DecidableEq, Repr

/-- The answer to a signup as JSON. -/
def SignupAnswer.document : SignupAnswer → Document
  | .signedUp name email =>
      .object [("message", .text ("Signed up " ++ email ++ " for " ++ name))]
  | .alreadySignedUp =>
      .object [("error", .text "Student already registered for this activity.")]

/-- An expression and its value. -/
structure Calculation where
  expression : String
  result : Float
deriving DecidableEq, Repr

/-- A calculation as JSON. -/
def Calculation.document (c : Calculation) : Document :=
  .object [("expression", .text c.expression), ("result", .real c.result)]

/-- The state of the service. -/
structure Desk where
  roster : Roster
  sessions : Sessions
  site : Site := {}

namespace Desk

/-- The one field of a query that a request needs. -/
def queryField (name : String) (r : Request) : Except Refusal String :=
  (Form.field name r.query).mapError .badQuery

/-! ## Signing up -/

/-- The name in a part of a path. -/
def activityName (segment : Bytes) : Except Refusal String :=
  match Text.Utf8.decode? (Web.Percent.decode segment) with
  | some name => .ok name
  | none => .error .badPath

/-- Signs an email address up for an activity. -/
def signup (d : Desk) (name email : String) : Except Refusal (SignupAnswer × Desk) :=
  match d.roster.signup name email with
  | .ok (.registered, roster) => .ok (.signedUp name email, { d with roster := roster })
  | .ok (.alreadyRegistered, roster) => .ok (.alreadySignedUp, { d with roster := roster })
  | .error e => .error (.activityNotFound e)

/-- A request for a signup. -/
def answerSignup (d : Desk) (segment : Bytes) (r : Request) :
    Except Refusal (SignupAnswer × Desk) := do
  let name ← activityName segment
  let email ← queryField "email" r
  d.signup name email

/-! ## Logging in -/

/-- The body of a request is said to be JSON. -/
def hasJson (r : Request) : Bool :=
  ((r.header? "content-type").bind MediaType.ofValue?).any MediaType.isJson

/-- The most bytes that a body can have. -/
def bodyLimit : Nat := 2097152

/-- The login in the body of a request. -/
def readLogin (r : Request) : Except Refusal Login :=
  if !hasJson r then .error .notJson
  else if bodyLimit < r.body.length then .error .longBody
  else (Login.decode r.body).mapError .badBody

/-- Logs a user in. -/
def login (d : Desk) (l : Login) : Except Refusal (Token × Desk) :=
  match d.sessions.login l.username l.password with
  | .ok (token, sessions) => .ok (token, { d with sessions := sessions })
  | .error e => .error (.auth e)

/-- A request for a login. -/
def answerLogin (d : Desk) (r : Request) : Except Refusal (Token × Desk) := do
  let l ← readLogin r
  d.login l

/-! ## Asking with a token -/

/-- The token a request bears. -/
def tokenOf? (r : Request) : Option String :=
  (r.header? "authorization").bind Bearer.ofValue?

/-- The user who is asking. -/
def userOf (d : Desk) (r : Request) : Except Refusal User :=
  match tokenOf? r with
  | none => .error .notAuthenticated
  | some token => (d.sessions.authenticate token).mapError .auth

/-- The value of an expression, finite ones only. -/
def calculate (expression : String) : Except Refusal Calculation :=
  match Expression.evaluate expression with
  | .ok x => if x.isFinite then .ok ⟨expression, x⟩ else .error (.notFinite x)
  | .error e => .error (.calculation e)

/-- A request for a calculation. -/
def answerCalculate (d : Desk) (r : Request) : Except Refusal Calculation := do
  let _user ← d.userOf r
  let expression ← queryField "expression" r
  calculate expression

/-! ## Requests -/

/-- The response to an answer or a refusal, and the desk left behind. -/
def respond {α : Type} (d : Desk) (document : α → Document) :
    Except Refusal (α × Desk) → Response × Desk
  | .ok (a, next) => (documentResponse .ok (document a), next)
  | .error e => (e.response, d)

/-- A request for a route, made with a method the route allows. -/
def serve (d : Desk) (r : Request) : Route → Response × Desk
  | .home => (.redirect "/static/index.html", d)
  | .activities => (documentResponse .ok d.roster.document, d)
  | .signup segment => d.respond SignupAnswer.document (d.answerSignup segment r)
  | .token => d.respond Token.document (d.answerLogin r)
  | .me => d.respond User.document ((d.userOf r).map fun u => (u, d))
  | .calculate => d.respond Calculation.document ((d.answerCalculate r).map fun c => (c, d))
  | .files rest => (d.site.answer rest r, d)

/-- Answers a request. -/
def answer (d : Desk) (r : Request) : Response × Desk :=
  match Route.ofPath? r.path with
  | none => (.notFound, d)
  | some route =>
      if route.allows r.method then
        let (response, next) := d.serve r route
        (if r.method = .head && !route.isFiles then response.withoutText else response, next)
      else (.methodNotAllowed route.allowed, d)

/-- Answers requests one after the other. -/
def run (d : Desk) : List Request → List Response × Desk
  | [] => ([], d)
  | r :: requests =>
      let (response, next) := d.answer r
      let (responses, last) := next.run requests
      (response :: responses, last)

end Desk

end SchoolDesk
