import SchoolDesk.Desk.Basic
import SchoolDesk.Proofs.Web.Route

/-!
# What a request does

A request that asks for a route, with a method that the route allows, is served there
(`answer_of_asks`).  `Desk.Does` lists all that a request can do: it signs somebody up,
it logs somebody in, or it leaves the desk as it was, and `does_answer` says that every
answer is one of these.

The *exchanges* of a run are its requests, each with its response.  What is true of a
whole run is said of them, without a look at the desk between two requests.  The
response at some place of a run is the answer of the desk that the requests before it
leave behind (`getElem?_exchanges`).
-/

namespace SchoolDesk

open Web

/-! ## Answers and refusals -/

instance decidableEqExcept {ε α : Type} [DecidableEq ε] [DecidableEq α] :
    DecidableEq (Except ε α)
  | .ok a, .ok b => decidable_of_iff (a = b) (by simp)
  | .error e, .error f => decidable_of_iff (e = f) (by simp)
  | .ok _, .error _ => isFalse (by simp)
  | .error _, .ok _ => isFalse (by simp)

section

variable {ε δ α : Type} (f : ε → δ)

@[simp] theorem mapError_ok (a : α) : (Except.ok a).mapError f = .ok a := rfl

@[simp] theorem mapError_error (e : ε) :
    (Except.error e : Except ε α).mapError f = .error (f e) := rfl

/-- Another wording of the refusals is the same answer. -/
theorem mapError_eq_ok_iff {x : Except ε α} {a : α} : x.mapError f = .ok a ↔ x = .ok a := by
  cases x <;> simp

theorem mapError_eq_error_iff {x : Except ε α} {d : δ} :
    x.mapError f = .error d ↔ ∃ e, x = .error e ∧ f e = d := by
  cases x <;> simp

end

section

variable {ε α β : Type} {x : Except ε α} {f : α → Except ε β}

/-- What is answered in two steps is answered in the first and in the second. -/
theorem bind_eq_ok_iff {b : β} : x >>= f = .ok b ↔ ∃ a, x = .ok a ∧ f a = .ok b := by
  cases x <;> simp [bind, Except.bind]

/-- What is refused in two steps is refused in the first, or in the second only. -/
theorem bind_eq_error_iff {e : ε} :
    x >>= f = .error e ↔ x = .error e ∨ ∃ a, x = .ok a ∧ f a = .error e := by
  cases x <;> simp [bind, Except.bind]

theorem map_eq_ok_iff {g : α → β} {b : β} : x.map g = .ok b ↔ ∃ a, x = .ok a ∧ g a = b := by
  cases x <;> simp [Except.map]

theorem map_eq_error_iff {g : α → β} {e : ε} : x.map g = .error e ↔ x = .error e := by
  cases x <;> simp [Except.map]

end

/-! ## One request -/

/-- A request asks for a route with a method. -/
def Web.Request.Asks (r : Request) (m : Method) (route : Route) : Prop :=
  r.method = m ∧ r.path = route.path

instance (r : Request) (m : Method) (route : Route) : Decidable (r.Asks m route) :=
  inferInstanceAs (Decidable (_ ∧ _))

/-- An address that is there already changes nothing. -/
theorem Roster.eq_of_signup_alreadyRegistered {roster next : Roster} {name email : String}
    (h : roster.signup name email = .ok (.alreadyRegistered, next)) : next = roster := by
  obtain ⟨a, -, ⟨-, -, same⟩ | ⟨-, made, -⟩⟩ := Roster.signup_cases h
  · exact same
  · cases made

namespace Desk

/-- A request that a route allows is served there. -/
theorem answer_of_asks {r : Request} {m : Method} {route : Route} (asks : r.Asks m route)
    (fits : route.Fits) (allowed : route.allows m = true) (text : m ≠ .head) (d : Desk) :
    d.answer r = d.serve r route := by
  obtain ⟨method, path⟩ := asks
  have leads : Route.ofPath? r.path = some route := Route.ofPath?_eq_some_iff.mpr ⟨path, fits⟩
  simp [answer, leads, method, allowed, text]

/-- What can be done to a desk by a request, with the response to it. -/
inductive Does (d : Desk) (r : Request) : Response → Desk → Prop where
  | nothing (response : Response) : Does d r response d
  | signup {segment : Bytes} {name email : String} {roster : Roster}
      (asks : r.Asks .post (.signup segment)) (fits : (Route.signup segment).Fits)
      (named : activityName segment = .ok name)
      (addressed : queryField "email" r = .ok email)
      (registered : d.roster.signup name email = .ok (.registered, roster)) :
      Does d r (documentResponse .ok (SignupAnswer.signedUp name email).document)
        { d with roster := roster }
  | login {l : Login} (asks : r.Asks .post .token) (read : readLogin r = .ok l)
      (right : l.password = d.sessions.password) :
      Does d r (documentResponse .ok (Token.bearer (accessToken l.username)).document)
        { d with sessions := d.sessions.remember l.username }

/-- A signup is made if its name and its address can be read and the address is new to the
activity, changes nothing if the address is not new, and is refused otherwise. -/
theorem serve_signup_cases (d : Desk) (r : Request) (segment : Bytes) :
    (∃ name email roster, activityName segment = .ok name ∧ queryField "email" r = .ok email ∧
        d.roster.signup name email = .ok (.registered, roster) ∧
        d.serve r (.signup segment) =
          (documentResponse .ok (SignupAnswer.signedUp name email).document,
            { d with roster := roster })) ∨
      d.serve r (.signup segment) =
        (documentResponse .ok SignupAnswer.alreadySignedUp.document, d) ∨
      ∃ e : Refusal, d.serve r (.signup segment) = (e.response, d) := by
  rw [serve, answerSignup]
  cases named : activityName segment with
  | error e => exact .inr (.inr ⟨e, rfl⟩)
  | ok name =>
      cases addressed : queryField "email" r with
      | error e => exact .inr (.inr ⟨e, rfl⟩)
      | ok email =>
          simp only [bind, Except.bind, Desk.signup]
          cases signup : d.roster.signup name email with
          | error e => exact .inr (.inr ⟨.activityNotFound e, rfl⟩)
          | ok outcome =>
              obtain ⟨outcome, roster⟩ := outcome
              cases outcome with
              | registered => exact .inl ⟨name, email, roster, rfl, rfl, signup, rfl⟩
              | alreadyRegistered =>
                  obtain rfl := Roster.eq_of_signup_alreadyRegistered signup
                  exact .inr (.inl rfl)

theorem does_signup {d : Desk} {r : Request} {segment : Bytes}
    (asks : r.Asks .post (.signup segment)) (fits : (Route.signup segment).Fits) :
    d.Does r (d.serve r (.signup segment)).1 (d.serve r (.signup segment)).2 := by
  rcases d.serve_signup_cases r segment with
    ⟨name, email, roster, named, addressed, registered, served⟩ | served | ⟨e, served⟩
  · rw [served]
    exact .signup asks fits named addressed registered
  · rw [served]
    exact .nothing _
  · rw [served]
    exact .nothing _

/-- A login is accepted if it can be read and its password is right, and refused
otherwise. -/
theorem serve_token_cases (d : Desk) (r : Request) :
    (∃ l, readLogin r = .ok l ∧ l.password = d.sessions.password ∧
      d.serve r .token = (documentResponse .ok (Token.bearer (accessToken l.username)).document,
        { d with sessions := d.sessions.remember l.username })) ∨
      ∃ e : Refusal, d.serve r .token = (e.response, d) := by
  rw [serve, answerLogin]
  cases read : readLogin r with
  | error e => exact .inr ⟨e, rfl⟩
  | ok l =>
      simp only [bind, Except.bind, Desk.login, Sessions.login]
      by_cases right : l.password = d.sessions.password
      · simp only [if_pos right]
        exact .inl ⟨l, rfl, right, rfl⟩
      · simp only [if_neg right]
        exact .inr ⟨.auth .incorrectCredentials, rfl⟩

theorem does_login {d : Desk} {r : Request} (asks : r.Asks .post .token) :
    d.Does r (d.serve r .token).1 (d.serve r .token).2 := by
  rcases d.serve_token_cases r with ⟨l, read, right, served⟩ | ⟨e, served⟩
  · rw [served]
    exact .login asks read right
  · rw [served]
    exact .nothing _

/-- An answer that hands the desk back leaves it as it was. -/
theorem respond_map {α : Type} (d : Desk) (document : α → Json.Document)
    (answer : Except Refusal α) : (d.respond document (answer.map fun a => (a, d))).2 = d := by
  cases answer with
  | ok a => rfl
  | error e => rfl

/-- Every answer does one of these. -/
theorem does_answer (d : Desk) (r : Request) : d.Does r (d.answer r).1 (d.answer r).2 := by
  rw [answer]
  cases leads : Route.ofPath? r.path with
  | none => exact .nothing _
  | some route =>
      by_cases allowed : route.allows r.method = true
      · simp only [if_pos allowed]
        obtain ⟨path, fits⟩ := Route.ofPath?_eq_some_iff.mp leads
        -- What is only shown leaves the desk, with the text or without it.
        have shown (same : (d.serve r route).2 = d) (response : Response) :
            d.Does r response (d.serve r route).2 := by
          rw [same]
          exact .nothing _
        cases route with
        | signup segment =>
            have method : r.method = .post := by
              simpa [Route.allows, Route.isReadOnly] using allowed
            simpa [method] using does_signup ⟨method, path⟩ fits
        | token =>
            have method : r.method = .post := by
              simpa [Route.allows, Route.isReadOnly] using allowed
            simpa [method] using does_login ⟨method, path⟩
        | home => exact shown rfl _
        | activities => exact shown rfl _
        | me => exact shown (respond_map d _ _) _
        | calculate => exact shown (respond_map d _ _) _
        | files rest => exact shown rfl _
      · simp only [if_neg allowed]
        exact .nothing _

/-! ## Whole runs -/

/-- The requests of a run, each with the response to it. -/
def exchanges (d : Desk) (requests : List Request) : List (Request × Response) :=
  requests.zip (d.run requests).1

theorem exchanges_cons (d : Desk) (r : Request) (requests : List Request) :
    d.exchanges (r :: requests) = (r, (d.answer r).1) :: (d.answer r).2.exchanges requests := rfl

theorem run_cons (d : Desk) (r : Request) (requests : List Request) :
    (d.run (r :: requests)).2 = ((d.answer r).2.run requests).2 := rfl

/-- The first exchanges of a run are those of the first requests. -/
theorem take_exchanges (d : Desk) (requests : List Request) (i : Nat) :
    (d.exchanges requests).take i = d.exchanges (requests.take i) := by
  induction requests generalizing d i with
  | nil => simp [exchanges]
  | cons r requests ih =>
      cases i with
      | zero => rfl
      | succ i => rw [exchanges_cons, List.take_succ_cons, List.take_succ_cons, exchanges_cons, ih]

/-- The desk that some requests and the next one leave behind is the one that this one
leaves of the desk before it. -/
theorem run_take_succ {requests : List Request} {i : Nat} {r : Request}
    (place : requests[i]? = some r) (d : Desk) :
    (d.run (requests.take (i + 1))).2 = ((d.run (requests.take i)).2.answer r).2 := by
  induction requests generalizing d i with
  | nil => cases place
  | cons first requests ih =>
      cases i with
      | zero =>
          cases place
          rfl
      | succ i =>
          rw [List.take_succ_cons, List.take_succ_cons, run_cons, run_cons]
          exact ih place _

/-- Every request has a response, and it is the answer of the desk that the requests
before it leave behind. -/
theorem getElem?_exchanges (d : Desk) (requests : List Request) (i : Nat) :
    (d.exchanges requests)[i]? =
      requests[i]?.map fun r => (r, ((d.run (requests.take i)).2.answer r).1) := by
  induction requests generalizing d i with
  | nil => rfl
  | cons r requests ih =>
      cases i with
      | zero => rfl
      | succ i =>
          rw [exchanges_cons, List.getElem?_cons_succ, List.getElem?_cons_succ, ih]
          rfl

end Desk

end SchoolDesk
