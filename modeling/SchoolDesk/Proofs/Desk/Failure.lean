import SchoolDesk.Proofs.Desk.Gate
import SchoolDesk.Proofs.Desk.Reply

/-!
# Requests that fail

A request that asks for a route in the right way can still fail: its path, its query or
its body cannot be read, its credentials are none or wrong, there is no such activity, or
an expression has no finite value.  `Desk.Fails` lists all this, in the order in which it
is looked for, and says each time of which refusal it is the cause.  It is about the
request and what the desk holds, and not about responses.

`fails_signup_iff` and its likes say that each route refuses for these causes and for no
others.  So a response with a status from 400 to 499 is always that of a failure, reports
its wording in one and the same form, and asks for credentials if these are what is wrong
(`reports_failure`).
-/

namespace SchoolDesk

open Expression (evaluate)
open Json (Document)
open Text.Utf8 (decode? encode)
open Web

namespace Desk

/-! ## Causes -/

/-- Why a request for a route fails. -/
inductive Fails (d : Desk) (r : Request) : Route → Refusal → Prop where
  | name {segment : Bytes} (h : decode? (Percent.decode segment) = none) :
      Fails d r (.signup segment) .badPath
  | address {segment : Bytes} {name : String} {f : FieldFault}
      (named : decode? (Percent.decode segment) = some name)
      (h : Form.field "email" r.query = .error f) :
      Fails d r (.signup segment) (.badQuery f)
  | activity {segment : Bytes} {name email : String}
      (named : decode? (Percent.decode segment) = some name)
      (addressed : Form.field "email" r.query = .ok email) (h : d.roster.get? name = none) :
      Fails d r (.signup segment) (.activityNotFound ⟨name⟩)
  | type (h : hasJson r = false) : Fails d r .token .notJson
  | length (json : hasJson r = true) (h : bodyLimit < r.body.length) : Fails d r .token .longBody
  | body {f : Json.Fault} (json : hasJson r = true) (short : ¬ bodyLimit < r.body.length)
      (h : Login.decode r.body = .error f) : Fails d r .token (.badBody f)
  | password {l : Login} (json : hasJson r = true) (short : ¬ bodyLimit < r.body.length)
      (read : Login.decode r.body = .ok l) (h : l.password ≠ d.sessions.password) :
      Fails d r .token (.auth .incorrectCredentials)
  | credentials {route : Route} (guarded : route = .me ∨ route = .calculate)
      (h : tokenOf? r = none) : Fails d r route .notAuthenticated
  | token {route : Route} {token : String} (guarded : route = .me ∨ route = .calculate)
      (bears : tokenOf? r = some token) (h : d.sessions.users[token]? = none) :
      Fails d r route (.auth .invalidToken)
  | field {token : String} {user : User} {f : FieldFault} (bears : tokenOf? r = some token)
      (known : d.sessions.users[token]? = some user)
      (h : Form.field "expression" r.query = .error f) : Fails d r .calculate (.badQuery f)
  | value {token : String} {user : User} {expression : String} {e : Expression.EvalError}
      (bears : tokenOf? r = some token) (known : d.sessions.users[token]? = some user)
      (asked : Form.field "expression" r.query = .ok expression)
      (h : evaluate expression = .error e) : Fails d r .calculate (.calculation e)
  | finite {token : String} {user : User} {expression : String} {v : Float}
      (bears : tokenOf? r = some token) (known : d.sessions.users[token]? = some user)
      (asked : Form.field "expression" r.query = .ok expression)
      (valued : evaluate expression = .ok v) (h : v.isFinite = false) :
      Fails d r .calculate (.notFinite v)

/-! ## What is refused at each step -/

section

variable {r : Request} {e : Refusal}

theorem activityName_eq_ok_iff {segment : Bytes} {name : String} :
    activityName segment = .ok name ↔ decode? (Percent.decode segment) = some name := by
  rw [activityName]
  cases decode? (Percent.decode segment) <;> simp

theorem activityName_eq_error_iff {segment : Bytes} :
    activityName segment = .error e ↔ decode? (Percent.decode segment) = none ∧ .badPath = e := by
  rw [activityName]
  cases decode? (Percent.decode segment) <;> simp

theorem signup_eq_error_iff {d : Desk} {name email : String} :
    d.signup name email = .error e ↔
      d.roster.get? name = none ∧ .activityNotFound ⟨name⟩ = e := by
  rw [signup, Roster.signup]
  cases there : d.roster.get? name with
  | none => simp
  | some a => by_cases old : a.isRegistered email = true <;> simp [old]

theorem readLogin_eq_ok_iff {l : Login} :
    readLogin r = .ok l ↔
      hasJson r = true ∧ ¬ bodyLimit < r.body.length ∧ Login.decode r.body = .ok l := by
  rw [readLogin]
  by_cases json : hasJson r = true
  · by_cases long : bodyLimit < r.body.length
    · simp [json, long]
    · simp [json, long, mapError_eq_ok_iff]
  · simp [json]

theorem readLogin_eq_error_iff :
    readLogin r = .error e ↔
      hasJson r = false ∧ .notJson = e ∨
        hasJson r = true ∧ (bodyLimit < r.body.length ∧ .longBody = e ∨
          ¬ bodyLimit < r.body.length ∧
            ∃ f, Login.decode r.body = .error f ∧ .badBody f = e) := by
  rw [readLogin]
  by_cases json : hasJson r = true
  · by_cases long : bodyLimit < r.body.length
    · simp [json, long]
    · simp [json, long, mapError_eq_error_iff]
  · simp [json]

theorem login_eq_error_iff {d : Desk} {l : Login} :
    d.login l = .error e ↔
      l.password ≠ d.sessions.password ∧ .auth .incorrectCredentials = e := by
  rw [login, Sessions.login]
  by_cases right : l.password = d.sessions.password <;> simp [right]

theorem authenticate_eq_error_iff {s : Sessions} {token : String} {fault : AuthError} :
    s.authenticate token = .error fault ↔ s.users[token]? = none ∧ .invalidToken = fault := by
  rw [Sessions.authenticate]
  cases s.users[token]? <;> simp

theorem authenticate_eq_ok_iff {s : Sessions} {token : String} {user : User} :
    s.authenticate token = .ok user ↔ s.users[token]? = some user := by
  rw [Sessions.authenticate]
  cases s.users[token]? <;> simp

theorem userOf_eq_ok_iff {d : Desk} {user : User} :
    d.userOf r = .ok user ↔
      ∃ token, tokenOf? r = some token ∧ d.sessions.users[token]? = some user := by
  rw [userOf]
  cases tokenOf? r with
  | none => simp
  | some token => simp [mapError_eq_ok_iff, authenticate_eq_ok_iff]

theorem userOf_eq_error_iff {d : Desk} :
    d.userOf r = .error e ↔
      tokenOf? r = none ∧ .notAuthenticated = e ∨
        ∃ token, tokenOf? r = some token ∧ d.sessions.users[token]? = none ∧
          .auth .invalidToken = e := by
  rw [userOf]
  cases tokenOf? r with
  | none => simp
  | some token => simp [mapError_eq_error_iff, authenticate_eq_error_iff, and_assoc]

theorem calculate_eq_error_iff {expression : String} :
    calculate expression = .error e ↔
      (∃ fault, evaluate expression = .error fault ∧ .calculation fault = e) ∨
        ∃ v, evaluate expression = .ok v ∧ v.isFinite = false ∧ .notFinite v = e := by
  rw [calculate]
  generalize evaluate expression = value
  cases value with
  | error fault => simp
  | ok v => by_cases finite : v.isFinite = true <;> simp [finite]

/-! ## What is refused at each route -/

variable {d : Desk}

/-- A signup is refused for its path, its query or an activity that is not there. -/
theorem fails_signup_iff {segment : Bytes} :
    d.Fails r (.signup segment) e ↔ d.answerSignup segment r = .error e := by
  simp only [answerSignup, bind_eq_error_iff, activityName_eq_error_iff, activityName_eq_ok_iff,
    queryField, mapError_eq_error_iff, mapError_eq_ok_iff, signup_eq_error_iff]
  constructor
  · intro h
    cases h with
    | name h => exact .inl ⟨h, rfl⟩
    | address named h => exact .inr ⟨_, named, .inl ⟨_, h, rfl⟩⟩
    | activity named addressed h => exact .inr ⟨_, named, .inr ⟨_, addressed, h, rfl⟩⟩
    | credentials guarded => simp at guarded
    | token guarded => simp at guarded
  · rintro (⟨h, rfl⟩ | ⟨name, named, ⟨f, h, rfl⟩ | ⟨email, addressed, h, rfl⟩⟩)
    · exact .name h
    · exact .address named h
    · exact .activity named addressed h

/-- A login is refused for its body or a wrong password. -/
theorem fails_token_iff : d.Fails r .token e ↔ d.answerLogin r = .error e := by
  simp only [answerLogin, bind_eq_error_iff, readLogin_eq_error_iff, readLogin_eq_ok_iff,
    login_eq_error_iff]
  constructor
  · intro h
    cases h with
    | type h => exact .inl (.inl ⟨h, rfl⟩)
    | length json h => exact .inl (.inr ⟨json, .inl ⟨h, rfl⟩⟩)
    | body json short h => exact .inl (.inr ⟨json, .inr ⟨short, _, h, rfl⟩⟩)
    | password json short read h => exact .inr ⟨_, ⟨json, short, read⟩, h, rfl⟩
    | credentials guarded => simp at guarded
    | token guarded => simp at guarded
  · rintro ((⟨h, rfl⟩ | ⟨json, ⟨h, rfl⟩ | ⟨short, f, h, rfl⟩⟩) | ⟨l, ⟨json, short, read⟩, h, rfl⟩)
    · exact .type h
    · exact .length json h
    · exact .body json short h
    · exact .password json short read h

/-- Who is asking is refused for the credentials. -/
theorem fails_me_iff : d.Fails r .me e ↔ d.userOf r = .error e := by
  rw [userOf_eq_error_iff]
  constructor
  · intro h
    cases h with
    | credentials guarded h => exact .inl ⟨h, rfl⟩
    | token guarded bears h => exact .inr ⟨_, bears, h, rfl⟩
  · rintro (⟨h, rfl⟩ | ⟨token, bears, h, rfl⟩)
    · exact .credentials (.inl rfl) h
    · exact .token (.inl rfl) bears h

/-- A calculation is refused for the credentials, the query, or an expression that has no
finite value. -/
theorem fails_calculate_iff : d.Fails r .calculate e ↔ d.answerCalculate r = .error e := by
  simp only [answerCalculate, bind_eq_error_iff, userOf_eq_error_iff, userOf_eq_ok_iff, queryField,
    mapError_eq_error_iff, mapError_eq_ok_iff, calculate_eq_error_iff]
  constructor
  · intro h
    cases h with
    | credentials guarded h => exact .inl (.inl ⟨h, rfl⟩)
    | token guarded bears h => exact .inl (.inr ⟨_, bears, h, rfl⟩)
    | field bears known h => exact .inr ⟨_, ⟨_, bears, known⟩, .inl ⟨_, h, rfl⟩⟩
    | value bears known asked h =>
        exact .inr ⟨_, ⟨_, bears, known⟩, .inr ⟨_, asked, .inl ⟨_, h, rfl⟩⟩⟩
    | finite bears known asked valued h =>
        exact .inr ⟨_, ⟨_, bears, known⟩, .inr ⟨_, asked, .inr ⟨_, valued, h, rfl⟩⟩⟩
  · rintro ((⟨h, rfl⟩ | ⟨token, bears, h, rfl⟩) | ⟨user, ⟨token, bears, known⟩, ⟨f, h, rfl⟩ |
      ⟨expression, asked, ⟨fault, h, rfl⟩ | ⟨v, valued, h, rfl⟩⟩⟩)
    · exact .credentials (.inr rfl) h
    · exact .token (.inr rfl) bears h
    · exact .field bears known h
    · exact .value bears known asked h
    · exact .finite bears known asked valued h

end

/-! ## Responses -/

/-- What is only shown does not fail. -/
theorem not_fails_of_shown {d : Desk} {r : Request} {e : Refusal} {route : Route}
    (shown : route = .home ∨ route = .activities) : ¬ d.Fails r route e := by
  rintro (_ | _ | _ | _ | _ | _ | _ | ⟨rfl | rfl, -⟩ | ⟨rfl | rfl, -⟩ | _ | _ | _) <;>
    simp at shown

/-- A request that fails gets the response of its refusal. -/
theorem serve_of_fails {d : Desk} {r : Request} {route : Route} {e : Refusal}
    (api : route.isFiles = false) (h : d.Fails r route e) : (d.serve r route).1 = e.response := by
  cases route with
  | home => exact absurd h (not_fails_of_shown (.inl rfl))
  | activities => exact absurd h (not_fails_of_shown (.inr rfl))
  | signup segment =>
      rw [serve, fails_signup_iff.mp h]
      rfl
  | token =>
      rw [serve, fails_token_iff.mp h]
      rfl
  | me =>
      rw [serve, fails_me_iff.mp h]
      rfl
  | calculate =>
      rw [serve, fails_calculate_iff.mp h]
      rfl
  | files rest => cases api

/-- One that does not fail gets a document. -/
theorem fails_or_document {α : Type} {d : Desk} {r : Request} {route : Route}
    {answer : Except Refusal (α × Desk)} (refused : ∀ e, d.Fails r route e ↔ answer = .error e)
    (write : α → Document) :
    (∃ e, d.Fails r route e) ∨
      ∃ document, (d.respond write answer).1 = documentResponse .ok document := by
  cases answer with
  | ok a => exact .inr ⟨write a.1, rfl⟩
  | error e => exact .inl ⟨e, (refused e).mpr rfl⟩

/-- So does every request that does not fail, unless it is sent elsewhere. -/
theorem serve_cases (d : Desk) (r : Request) {route : Route} (api : route.isFiles = false) :
    (∃ e, d.Fails r route e) ∨ (d.serve r route).1 = .redirect "/static/index.html" ∨
      ∃ document, (d.serve r route).1 = documentResponse .ok document := by
  cases route with
  | home => exact .inr (.inl rfl)
  | activities => exact .inr (.inr ⟨_, rfl⟩)
  | signup segment => exact (fails_or_document (fun _ => fails_signup_iff) _).imp_right .inr
  | token => exact (fails_or_document (fun _ => fails_token_iff) _).imp_right .inr
  | me =>
      exact (fails_or_document (fun _ => fails_me_iff.trans map_eq_error_iff.symm) _).imp_right .inr
  | calculate =>
      exact (fails_or_document (fun _ => fails_calculate_iff.trans map_eq_error_iff.symm)
        _).imp_right .inr
  | files rest => cases api

end Desk

/-- A refusal has a status from 400 to 499. -/
theorem Refusal.code_status (e : Refusal) : 400 ≤ e.status.code ∧ e.status.code < 500 := by
  cases e with
  | badBody f =>
      rw [status]
      cases f.cause.category <;> decide
  | _ => simp [status, Status.code]

/-- A refusal asks for credentials if these are what is wrong. -/
theorem Refusal.challenge_response (e : Refusal) :
    e.response.challenge = if e.response.status.code = 401 then some "Bearer" else none := by
  have same : e.status.code = 401 ↔ e.status = .unauthorized := by
    cases e.status <;> simp [Status.code]
  rw [show e.response.status = e.status from rfl]
  simp only [response, same]

namespace Desk

/-- Every failure of a request that asks for a route, other than to files, in the right
way is answered in one form, whatever the desk holds.  A status from 400 to 499 means that
the request fails.  The response is then JSON, an object with the one member `detail`, from
which the wording of the failure is read back.  Credentials are asked for if the status is
401, and only then. -/
theorem reports_failure (d : Desk) {r : Request} {route : Route}
    (leads : Route.ofPath? r.path = some route) (api : route.isFiles = false)
    (allowed : route.allows r.method = true) (text : r.method ≠ .head) :
    let response := (d.answer r).1
    (400 ≤ response.status.code ∧ response.status.code < 500 ↔ ∃ e, d.Fails r route e) ∧
      (∀ e, d.Fails r route e → response.Reports e.status "detail" e.message) ∧
      response.challenge = if response.status.code = 401 then some "Bearer" else none := by
  intro response
  have served : response = (d.serve r route).1 := by
    simp [response, answer, leads, allowed, text]
  have refused {e : Refusal} (h : d.Fails r route e) : response = e.response :=
    served.trans (serve_of_fails api h)
  have others (bad : 400 ≤ response.status.code ∧ response.status.code < 500) :
      ∃ e, d.Fails r route e := by
    rcases d.serve_cases r api with h | elsewhere | ⟨document, success⟩
    · exact h
    · rw [served, elsewhere] at bad
      exact absurd bad (by decide)
    · rw [served, success] at bad
      exact absurd bad.1 (show ¬ 400 ≤ Status.ok.code by decide)
  refine ⟨⟨others, fun fails => ?_⟩, fun e h => ?_, ?_⟩
  · obtain ⟨e, h⟩ := fails
    rw [refused h]
    exact e.code_status
  · rw [refused h]
    exact e.reports_response
  · rcases d.serve_cases r api with ⟨e, h⟩ | elsewhere | ⟨document, success⟩
    · rw [refused h]
      exact e.challenge_response
    · rw [served, elsewhere]
      rfl
    · rw [served, success]
      rfl

/-- Ann asks for the value of a quote. -/
def askQuote : Request where
  method := .post
  target := Route.word "/calculate?expression=%22"
  headers := [("Authorization", Bearer.credentials (Route.word "user-ann-token"))]

/-- Somebody logs in without a password. -/
def logInWithoutPassword : Request where
  method := .post
  target := Route.word "/token"
  headers := [("Content-Type", Route.word "application/json")]
  body := encode "\x7b\"username\": \"a\"\x7d"

/-- Once Ann has logged in she is told that a quote means nothing, with the quote.  Who leaves
out the password is told where it is missed. -/
theorem reports_failure_ann :
    let start : Desk :=
      { roster := .empty, sessions := ({ password := "pw" } : Sessions).remember "ann" }
    (start.answer askQuote).1.Reports .badRequest "detail"
        "Error calculating expression: Unknown character in expression: \"" ∧
      (start.answer askQuote).1.challenge = none ∧
      (start.answer logInWithoutPassword).1.Reports .unprocessable "detail"
        ("Failed to deserialize the JSON body into the target type: " ++
          "missing field `password` at line 1 column 17") := by
  intro start
  have known : start.sessions.users[accessToken "ann"]? = some (User.ofUsername "ann") :=
    Sessions.mem_usernames_iff.mp (Sessions.mem_usernames_remember.mpr (.inl rfl))
  have bears : tokenOf? askQuote = some (accessToken "ann") := by decide +kernel
  have asked : Form.field "expression" askQuote.query = .ok "\"" := by decide +kernel
  have failed : evaluate "\"" = .error (.unknownCharacter '"') := by decide +kernel
  have leads : Route.ofPath? askQuote.path = some .calculate := by decide +kernel
  obtain ⟨-, reports, challenge⟩ := start.reports_failure leads rfl (by decide) (by decide)
  have reported := reports _ (.value bears known asked failed)
  have missing : Login.decode logInWithoutPassword.body =
      .error ⟨[], .missingField "password", ⟨1, 17⟩⟩ := by decide +kernel
  have leadsToToken : Route.ofPath? logInWithoutPassword.path = some .token := by decide +kernel
  obtain ⟨-, refuses, -⟩ := start.reports_failure leadsToToken rfl (by decide) (by decide)
  have refused := refuses _ (.body (by decide +kernel) (by decide +kernel) missing)
  refine ⟨reported, ?_, refused⟩
  rw [challenge, reported.went]
  rfl

end Desk

end SchoolDesk
