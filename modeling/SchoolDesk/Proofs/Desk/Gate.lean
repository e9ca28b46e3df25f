import SchoolDesk.Proofs.Desk.Exchange

/-!
# Who is let in

Two routes are only for those who have logged in: `GET /users/me` and
`POST /calculate`.  Whom a request to them stands for is decided by the token it bears,
and a token is good if it is that of a username under which somebody has logged in.

The desk keeps the usernames of all logins that went well, and no others.  One request
adds the username it logs in, if it logs one in (`mem_usernames_answer`), so after a run
the usernames are those of the exchanges that logged somebody in (`mem_usernames_run`).
Different usernames have different tokens, so nobody is taken for somebody else.
-/

namespace SchoolDesk

open Web

/-! ## The usernames that have logged in -/

/-- Somebody logs in under a username: a token is asked for with a login of this
username, and the response is a success. -/
structure LogsIn (username : String) (request : Request) (response : Response) : Prop where
  asks : request.Asks .post .token
  accepted : response.status = .ok
  named : ∃ l, Login.decode request.body = .ok l ∧ l.username = username

/-- A refusal is never a success. -/
theorem Refusal.status_ne_ok (e : Refusal) : e.status ≠ .ok := by
  cases e with
  | badBody f =>
      rw [status]
      cases f.cause.category <;> simp
  | _ => simp [status]

namespace Desk

/-- The login of a request is what its body says. -/
theorem decode_of_readLogin {r : Request} {l : Login} (h : readLogin r = .ok l) :
    Login.decode r.body = .ok l := by
  rw [readLogin] at h
  split at h
  · cases h
  · split at h
    · cases h
    · exact (mapError_eq_ok_iff _).mp h

/-- Whoever logs in under a username gets the token of it, and the username is kept. -/
theorem answer_of_logsIn {d : Desk} {r : Request} {u : String} (h : LogsIn u r (d.answer r).1) :
    d.answer r = (documentResponse .ok (Token.bearer (accessToken u)).document,
      { d with sessions := d.sessions.remember u }) := by
  obtain ⟨asks, accepted, l, decoded, rfl⟩ := h
  rw [answer_of_asks asks trivial rfl (by simp)] at accepted ⊢
  rcases d.serve_token_cases r with ⟨l', read, -, served⟩ | ⟨e, served⟩
  · have same : Except.ok l' = Except.ok l := (decode_of_readLogin read).symm.trans decoded
    cases same
    exact served
  · rw [served] at accepted
    exact absurd accepted e.status_ne_ok

/-- No request makes the desk forget a username. -/
theorem mem_usernames_of_mem {d : Desk} {u : String} (known : u ∈ d.sessions.usernames)
    (r : Request) : u ∈ (d.answer r).2.sessions.usernames := by
  have does := d.does_answer r
  generalize d.answer r = answered at does ⊢
  obtain ⟨response, next⟩ := answered
  cases does with
  | nothing => exact known
  | signup => exact known
  | login => exact Sessions.mem_usernames_remember.mpr (.inr known)

/-- After one request the usernames are those from before it, and the one that it logs
in. -/
theorem mem_usernames_answer {d : Desk} {r : Request} {u : String} :
    u ∈ (d.answer r).2.sessions.usernames ↔
      u ∈ d.sessions.usernames ∨ LogsIn u r (d.answer r).1 := by
  constructor
  · have does := d.does_answer r
    generalize d.answer r = answered at does ⊢
    obtain ⟨response, next⟩ := answered
    intro known
    cases does with
    | nothing => exact .inl known
    | signup => exact .inl known
    | @login l asks read right =>
        rcases Sessions.mem_usernames_remember.mp known with rfl | known
        · exact .inr ⟨asks, rfl, l, decode_of_readLogin read, rfl⟩
        · exact .inl known
  · rintro (known | logsIn)
    · exact mem_usernames_of_mem known r
    · rw [answer_of_logsIn logsIn]
      exact Sessions.mem_usernames_remember.mpr (.inl rfl)

/-- After a run the usernames are those from before it, and those that it logged in. -/
theorem mem_usernames_run {d : Desk} {requests : List Request} {u : String} :
    u ∈ (d.run requests).2.sessions.usernames ↔
      u ∈ d.sessions.usernames ∨ ∃ e ∈ d.exchanges requests, LogsIn u e.1 e.2 := by
  induction requests generalizing d with
  | nil => simp [run, exchanges]
  | cons r requests ih =>
      rw [run_cons, ih, mem_usernames_answer, exchanges_cons]
      simp [or_assoc]

end Desk

/-! ## Whom a token stands for -/

/-- The token of a username that has logged in stands for the user of that name. -/
theorem Sessions.authenticate_accessToken {s : Sessions} {u : String} (h : u ∈ s.usernames) :
    s.authenticate (accessToken u) = .ok (User.ofUsername u) := by
  rw [authenticate, mem_usernames_iff.mp h]

/-- Another token stands for nobody. -/
theorem Sessions.authenticate_eq_error {s : Sessions} {token : String}
    (h : ∀ u ∈ s.usernames, token ≠ accessToken u) :
    s.authenticate token = .error .invalidToken := by
  rw [authenticate]
  cases found : s.users[token]? with
  | none => rfl
  | some user =>
      obtain ⟨same, known⟩ := s.users_spec token user found
      refine absurd same (h user.username (mem_usernames_iff.mpr ?_))
      rw [← same, ← known, found]

/-! ## The routes for those who have logged in -/

theorem User.ofUsername_eq (u : String) :
    User.ofUsername u = { email := u ++ "@mergington.edu", username := u } := by
  have domain : "@" ++ emailDomain = "@mergington.edu" := by decide
  rw [ofUsername, String.append_assoc, domain]

/-- A request that only those who have logged in may make. -/
def Web.Request.IsGuarded (r : Request) : Prop :=
  r.Asks .get .me ∨ r.Asks .post .calculate

/-- The response to somebody who is not known. -/
def Web.Response.unknown (detail : String) : Response where
  status := .unauthorized
  contentType := some "application/json"
  challenge := some "Bearer"
  text := (Json.Document.object [("detail", .text detail)]).toString

namespace Desk

theorem answer_me {r : Request} (asks : r.Asks .get .me) (d : Desk) :
    d.answer r = d.respond User.document ((d.userOf r).map fun u => (u, d)) := by
  rw [answer_of_asks asks trivial rfl (by simp), serve]

theorem answer_calculate {r : Request} (asks : r.Asks .post .calculate) (d : Desk) :
    d.answer r =
      d.respond Calculation.document ((d.answerCalculate r).map fun c => (c, d)) := by
  rw [answer_of_asks asks trivial rfl (by simp), serve]

/-- Whoever is not known is refused, whatever else the request holds. -/
theorem answer_of_userOf_eq_error {d : Desk} {r : Request} (guarded : r.IsGuarded) {e : Refusal}
    (h : d.userOf r = .error e) : (d.answer r).1 = e.response := by
  rcases guarded with asks | asks
  · rw [answer_me asks, h]
    rfl
  · rw [answer_calculate asks, answerCalculate, h]
    rfl

/-- A field that cannot be had is a bad request. -/
theorem status_of_queryField_eq_error {name : String} {r : Request} {e : Refusal}
    (h : queryField name r = .error e) : e.status = .badRequest := by
  rw [queryField] at h
  cases field : Form.field name r.query with
  | ok value => simp [field] at h
  | error f =>
      rw [field, mapError_error] at h
      cases h
      rfl

/-- An expression without a finite value is a bad request. -/
theorem status_of_calculate_eq_error {expression : String} {e : Refusal}
    (h : calculate expression = .error e) : e.status = .badRequest := by
  rw [calculate] at h
  split at h
  · split at h
    · cases h
    · cases h
      rfl
  · cases h
    rfl

/-- Whoever is known may be refused, but not for being unknown. -/
theorem status_answer_of_userOf_eq_ok {d : Desk} {r : Request} (guarded : r.IsGuarded)
    {user : User} (h : d.userOf r = .ok user) : (d.answer r).1.status ≠ .unauthorized := by
  have bad {e : Refusal} (status : e.status = .badRequest) :
      e.response.status ≠ .unauthorized := by
    rw [show e.response.status = e.status from rfl, status]
    simp
  rcases guarded with asks | asks
  · rw [answer_me asks, h]
    simp [Except.map, respond, documentResponse]
  · rw [answer_calculate asks, answerCalculate, h]
    cases field : queryField "expression" r with
    | error e => exact bad (status_of_queryField_eq_error field)
    | ok expression =>
        cases value : calculate expression with
        | ok c => simp [bind, Except.bind, value, Except.map, respond, documentResponse]
        | error e =>
            simpa [bind, Except.bind, value, Except.map, respond] using
              bad (status_of_calculate_eq_error value)

/-- Whom a request stands for: the user whose token it bears, if that user has logged
in.  Without a token it is not authenticated, and with any other token it is invalid. -/
theorem userOf_cases (d : Desk) (r : Request) :
    (∃ u ∈ d.sessions.usernames, tokenOf? r = some (accessToken u) ∧
        d.userOf r = .ok (User.ofUsername u)) ∨
      (¬ ∃ u ∈ d.sessions.usernames, tokenOf? r = some (accessToken u)) ∧
        d.userOf r =
          .error (if tokenOf? r = none then .notAuthenticated else .auth .invalidToken) := by
  cases bears : tokenOf? r with
  | none => exact .inr ⟨by simp, by simp [userOf, bears]⟩
  | some token =>
      by_cases known : ∃ u ∈ d.sessions.usernames, token = accessToken u
      · obtain ⟨u, hu, rfl⟩ := known
        refine .inl ⟨u, hu, rfl, ?_⟩
        simp [userOf, bears, Sessions.authenticate_accessToken hu]
      · have other (u : String) (hu : u ∈ d.sessions.usernames) : token ≠ accessToken u :=
          fun he => known ⟨u, hu, he⟩
        refine .inr ⟨?_, ?_⟩
        · rintro ⟨u, hu, he⟩
          exact other u hu (Option.some.inj he)
        · simp [userOf, bears, Sessions.authenticate_eq_error other]

/-- What somebody is answered who makes a guarded request: anything but a request for
credentials if the token is that of a username that has logged in, and a request for
credentials otherwise. -/
theorem answer_guarded (d : Desk) {r : Request} (guarded : r.IsGuarded) :
    ((d.answer r).1.status ≠ .unauthorized ↔
        ∃ u ∈ d.sessions.usernames, tokenOf? r = some (accessToken u)) ∧
      (∀ u ∈ d.sessions.usernames, tokenOf? r = some (accessToken u) → r.Asks .get .me →
        (d.answer r).1 = documentResponse .ok
          (User.document { email := u ++ "@mergington.edu", username := u })) ∧
      ((d.answer r).1.status = .unauthorized →
        (d.answer r).1 = .unknown (if tokenOf? r = none then "Not authenticated"
          else "Invalid authentication credentials")) := by
  rcases d.userOf_cases r with ⟨u, hu, bears, user⟩ | ⟨unknown, user⟩
  · have letIn := status_answer_of_userOf_eq_ok guarded user
    refine ⟨⟨fun _ => ⟨u, hu, bears⟩, fun _ => letIn⟩, ?_, fun refused => absurd refused letIn⟩
    intro v hv bears' asks
    rw [bears] at bears'
    obtain rfl := accessToken_injective (Option.some.inj bears')
    rw [answer_me asks, user, User.ofUsername_eq]
    rfl
  · have refused := answer_of_userOf_eq_error guarded user
    refine ⟨⟨fun letIn => absurd ?_ letIn, fun known => absurd known unknown⟩,
      fun u hu bears _ => absurd ⟨u, hu, bears⟩ unknown, fun _ => ?_⟩
    · rw [refused]
      split <;> rfl
    · rw [refused]
      split <;> rfl

/-- In every run of a desk on which nobody has logged in yet, a guarded request is let in
if it bears the token of a username that an earlier request of the run has logged in,
and only then.  `GET /users/me` then tells the user of that name, and otherwise
credentials are asked for. -/
theorem status_ne_unauthorized_iff (roster : Roster) (password : String) (site : Site)
    (requests : List Request) (i : Nat) (r : Request) (place : requests[i]? = some r)
    (guarded : r.IsGuarded) :
    let start : Desk := { roster := roster, sessions := { password := password }, site := site }
    let earlier := (start.exchanges requests).take i
    ∃ response, (start.exchanges requests)[i]? = some (r, response) ∧
      (response.status ≠ .unauthorized ↔
        ∃ u, tokenOf? r = some (accessToken u) ∧ ∃ e ∈ earlier, LogsIn u e.1 e.2) ∧
      (∀ u, tokenOf? r = some (accessToken u) → (∃ e ∈ earlier, LogsIn u e.1 e.2) →
        r.Asks .get .me →
          response = documentResponse .ok
            (User.document { email := u ++ "@mergington.edu", username := u })) ∧
      (response.status = .unauthorized →
        response = .unknown (if tokenOf? r = none then "Not authenticated"
          else "Invalid authentication credentials")) := by
  intro start earlier
  let d := (start.run (requests.take i)).2
  have known (u : String) : u ∈ d.sessions.usernames ↔ ∃ e ∈ earlier, LogsIn u e.1 e.2 := by
    rw [show earlier = start.exchanges (requests.take i) from start.take_exchanges requests i,
      mem_usernames_run]
    simp [start]
  obtain ⟨letIn, told, refused⟩ := d.answer_guarded guarded
  refine ⟨(d.answer r).1, by rw [getElem?_exchanges, place]; rfl, ?_, ?_, refused⟩
  · rw [letIn]
    constructor
    · rintro ⟨u, hu, bears⟩
      exact ⟨u, bears, (known u).mp hu⟩
    · rintro ⟨u, bears, hu⟩
      exact ⟨u, (known u).mpr hu, bears⟩
  · intro u bears hu asks
    exact told u ((known u).mpr hu) bears asks

/-- Ann logs in. -/
def loginAnn : Request where
  method := .post
  target := Route.word "/token"
  headers := [("Content-Type", Route.word "application/json")]
  body := Route.word "\x7b\"username\": \"ann\", \"password\": \"pw\"\x7d"

/-- Whoever bears the token of Ann asks who is asking. -/
def askAsAnn : Request where
  method := .get
  target := Route.word "/users/me?"
  headers := [("Authorization", Bearer.credentials (Route.word "user-ann-token"))]

/-- The token of Ann is invalid until she logs in, and stands for her from then on. -/
theorem status_ne_unauthorized_ann :
    let start : Desk := { roster := .empty, sessions := { password := "pw" } }
    let exchanges := start.exchanges [askAsAnn, loginAnn, askAsAnn]
    exchanges[0]? = some (askAsAnn, .unknown "Invalid authentication credentials") ∧
      exchanges[2]? = some (askAsAnn, documentResponse .ok
        (User.document { email := "ann@mergington.edu", username := "ann" })) := by
  intro start exchanges
  have asks : askAsAnn.Asks .get .me := by decide
  have bears : tokenOf? askAsAnn = some (accessToken "ann") := by decide +kernel
  have same : (start.answer askAsAnn).2 = start := by
    rw [answer_me asks]
    exact respond_map start _ _
  have login : LogsIn "ann" loginAnn ((start.answer askAsAnn).2.answer loginAnn).1 := by
    rw [same]
    refine ⟨by decide, by decide +kernel, ⟨"ann", "pw"⟩, by decide +kernel, rfl⟩
  constructor
  · obtain ⟨response, there, letIn, -, refused⟩ :=
      status_ne_unauthorized_iff .empty "pw" {} [askAsAnn, loginAnn, askAsAnn] 0 askAsAnn rfl
        (.inl asks)
    have unauthorized : response.status = .unauthorized := by
      refine Decidable.byContradiction fun other => ?_
      obtain ⟨u, -, e, earlier, -⟩ := letIn.mp other
      cases earlier
    rw [there, refused unauthorized, bears]
    rfl
  · obtain ⟨response, there, -, told, -⟩ :=
      status_ne_unauthorized_iff .empty "pw" {} [askAsAnn, loginAnn, askAsAnn] 2 askAsAnn rfl
        (.inl asks)
    have earlier : ∃ e ∈ exchanges.take 2, LogsIn "ann" e.1 e.2 :=
      ⟨(loginAnn, _), .tail _ (.head _), login⟩
    rw [there, told "ann" bears earlier asks]
    rfl

end Desk

end SchoolDesk
