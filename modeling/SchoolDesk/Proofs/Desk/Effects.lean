import SchoolDesk.Proofs.Desk.Gate
import SchoolDesk.Proofs.Json.Quote
import SchoolDesk.Proofs.Roster.Changes

/-!
# What a run leaves behind

Two kinds of exchange change a desk.  A signup that is answered with a message adds one
address to one activity, and a login that succeeds adds one token to the sessions.  Both
are known from the request and the response alone, without a look at the desk
(`signedUp?`, `loggedIn?`), and `effect_answer` says that a request does what its exchange
tells, and nothing else.

So the roster after a run holds the addresses of all signups, in the order of the requests
and each behind the participants of its activity (`toList_run`), and the sessions hold the
logins (`sessions_run`).  `run_effects` says both, and what every place of a run does.
-/

namespace SchoolDesk

open Web

/-! ## Addresses added to activities -/

namespace Entries

/-- Adds addresses, each to the activity of the name it comes with, in order. -/
def enroll (signups : List (String × String)) (es : Entries) : Entries :=
  es.map fun p => (p.1, { p.2 with
    participants := p.2.participants ++ (signups.filter (·.1 = p.1)).map Prod.snd })

@[simp] theorem enroll_nil (es : Entries) : enroll [] es = es := by
  simp [enroll]

theorem enroll_append (signups more : List (String × String)) (es : Entries) :
    enroll (signups ++ more) es = enroll more (enroll signups es) := by
  simp [enroll, List.append_assoc]

/-- An address for a name that is not there is not added. -/
theorem enroll_singleton_of_not_mem {name : String} {es : Entries}
    (h : name ∉ es.map Prod.fst) (email : String) : enroll [(name, email)] es = es := by
  rw [enroll]
  refine (List.map_congr_left fun p hp => ?_).trans (List.map_id es)
  have other : name ≠ p.1 := fun same => h (same ▸ List.mem_map_of_mem hp)
  simp [other]

/-- Replacing an activity by one with a further address adds this address. -/
theorem put_register {name : String} {a : Activity} {es : Entries}
    (nodup : (es.map Prod.fst).Nodup) (there : es.lookup name = some a) (email : String) :
    put name (a.register email) es = enroll [(name, email)] es := by
  induction es with
  | nil => cases there
  | cons p es ih =>
      obtain ⟨n, b⟩ := p
      obtain ⟨fresh, nodup⟩ := List.nodup_cons.mp nodup
      have front : enroll [(name, email)] ((n, b) :: es) =
          enroll [(name, email)] [(n, b)] ++ enroll [(name, email)] es := by
        simp [enroll]
      rw [put, front]
      by_cases same : n = name
      · subst same
        rw [List.lookup_cons_self] at there
        cases there
        rw [if_pos rfl, enroll_singleton_of_not_mem fresh]
        simp [enroll, Activity.register]
      · have differs : (name == n) = false := by simpa using Ne.symm same
        rw [List.lookup_cons, differs] at there
        rw [if_neg same, ih nodup there]
        simp [enroll, Ne.symm same]

end Entries

namespace Roster

/-- A signup that registers an address adds it to an activity that is there. -/
theorem eq_insert_of_signup_registered {r next : Roster} {name email : String}
    (h : r.signup name email = .ok (.registered, next)) :
    ∃ a, r.get? name = some a ∧ email ∉ a.participants ∧
      next = r.insert name (a.register email) := by
  obtain ⟨a, there, ⟨-, same, -⟩ | ⟨new, -, made⟩⟩ := signup_cases h
  · cases same
  · exact ⟨a, there, new, made⟩

/-- A new address is registered for an activity that is there. -/
theorem signup_of_not_mem {r : Roster} {name email : String} {a : Activity}
    (there : r.get? name = some a) (new : email ∉ a.participants) :
    r.signup name email = .ok (.registered, r.insert name (a.register email)) := by
  simp [signup, there, new, Activity.isRegistered]

theorem toList_insert_register {r : Roster} {name : String} {a : Activity}
    (there : r.get? name = some a) (email : String) :
    (r.insert name (a.register email)).toList = Entries.enroll [(name, email)] r.toList := by
  rw [toList_insert]
  refine Entries.put_register ?_ ?_ email
  · rw [map_fst_toList]
    exact r.names_nodup
  · rw [lookup_toList, there]

end Roster

/-! ## What an exchange says -/

/-- The response is a success, and its text is an object that begins with a member. -/
def Web.Response.tells (response : Response) (member : String) : Bool :=
  response.status = .ok &&
    ('\x7b' :: Json.quote member ++ [':']).isPrefixOf response.text.toList

/-- An object begins with its first member. -/
theorem tells_documentResponse (member : String) (document : Json.Document)
    (more : List (String × Json.Document)) :
    (documentResponse .ok (.object ((member, document) :: more))).tells member = true := by
  have front : ('\x7b' :: Json.quote member ++ [':']) <+:
      (documentResponse .ok (.object ((member, document) :: more))).text.toList := by
    refine ⟨document.write ++ Json.writeMembers more ++ ['\x7d'], ?_⟩
    simp [documentResponse, Json.Document.toString, Json.Document.write, Json.braced]
  rw [Response.tells, List.isPrefixOf_iff_prefix.mpr front]
  rfl

theorem tells_signedUp (name email : String) :
    (documentResponse .ok (SignupAnswer.signedUp name email).document).tells "message" = true :=
  tells_documentResponse _ _ _

theorem tells_alreadySignedUp :
    (documentResponse .ok SignupAnswer.alreadySignedUp.document).tells "error" = true :=
  tells_documentResponse _ _ _

theorem tells_bearer (word : String) :
    (documentResponse .ok (Token.bearer word).document).tells "access_token" = true :=
  tells_documentResponse _ _ _

/-- An object begins with one member only. -/
theorem Web.Response.eq_of_tells {response : Response} {member other : String}
    (h : response.tells member = true) (h' : response.tells other = true) : member = other := by
  obtain ⟨rest, text⟩ := List.isPrefixOf_iff_prefix.mp (Bool.and_eq_true_iff.mp h).2
  obtain ⟨rest', text'⟩ := List.isPrefixOf_iff_prefix.mp (Bool.and_eq_true_iff.mp h').2
  have same := text.trans text'.symm
  simp only [List.cons_append, List.append_assoc, List.cons.injEq, true_and] at same
  exact (Json.quote_append_inj same).1

theorem Web.Response.status_of_tells {response : Response} {member : String}
    (h : response.tells member = true) : response.status = .ok := by
  simpa using (Bool.and_eq_true_iff.mp h).1

namespace Desk

/-- The name and the address of a signup with a message for an answer: they are in the path
and the query of a `POST`. -/
def signedUp? (e : Request × Response) : Option (String × String) :=
  match e.1.method, Route.ofPath? e.1.path with
  | .post, some (.signup segment) =>
      if e.2.tells "message" then
        match activityName segment, queryField "email" e.1 with
        | .ok name, .ok email => some (name, email)
        | _, _ => none
      else none
  | _, _ => none

/-- The username of a login that succeeds: it is in the body of a `POST`. -/
def loggedIn? (e : Request × Response) : Option String :=
  if e.1.Asks .post .token ∧ e.2.status = .ok then
    (Login.decode e.1.body).toOption.map Login.username
  else none

/-- The names and addresses of the signups among some exchanges, in order. -/
def signups (exchanges : List (Request × Response)) : List (String × String) :=
  exchanges.filterMap signedUp?

/-- The usernames of the logins among some exchanges, in order. -/
def logins (exchanges : List (Request × Response)) : List String := exchanges.filterMap loggedIn?

/-- What has to hold of an exchange in which somebody is signed up. -/
theorem signedUp?_eq_some_iff {r : Request} {response : Response} {name email : String} :
    signedUp? (r, response) = some (name, email) ↔
      ∃ segment, r.Asks .post (.signup segment) ∧ (Route.signup segment).Fits ∧
        activityName segment = .ok name ∧ queryField "email" r = .ok email ∧
        response.tells "message" = true := by
  rw [signedUp?]
  constructor
  · intro h
    split at h
    · next segment method leads =>
        obtain ⟨path, fits⟩ := Route.ofPath?_eq_some_iff.mp leads
        split at h
        · next told =>
            split at h
            · next name' email' named addressed =>
                cases h
                exact ⟨segment, ⟨method, path⟩, fits, named, addressed, told⟩
            · cases h
        · cases h
    · cases h
  · rintro ⟨segment, ⟨method, path⟩, fits, named, addressed, told⟩
    have leads := Route.ofPath?_eq_some_iff.mpr ⟨path, fits⟩
    simp only [method, leads, told, named, addressed, if_true]

/-- What has to hold of an exchange in which somebody is logged in. -/
theorem loggedIn?_eq_some_iff {r : Request} {response : Response} {u : String} :
    loggedIn? (r, response) = some u ↔ LogsIn u r response := by
  rw [loggedIn?]
  constructor
  · intro h
    split at h
    · next asked =>
        cases decoded : Login.decode r.body with
        | error f => simp [decoded, Except.toOption] at h
        | ok l => exact ⟨asked.1, asked.2, l, decoded, by simpa [decoded, Except.toOption] using h⟩
    · cases h
  · rintro ⟨asks, accepted, l, decoded, rfl⟩
    rw [if_pos ⟨asks, accepted⟩, decoded]
    rfl

/-! ## One request -/

/-- A signup with a message for an answer adds one address to one activity. -/
theorem answer_of_tells {d : Desk} {r : Request} {segment : Bytes}
    (asks : r.Asks .post (.signup segment)) (fits : (Route.signup segment).Fits)
    (told : (d.answer r).1.tells "message" = true) :
    ∃ name email a, signedUp? (r, (d.answer r).1) = some (name, email) ∧
      d.roster.get? name = some a ∧ email ∉ a.participants ∧
      (d.answer r).2 = { d with roster := d.roster.insert name (a.register email) } := by
  have served := answer_of_asks asks fits rfl (by simp) d
  rcases d.serve_signup_cases r segment with
    ⟨name, email, roster, named, addressed, registered, made⟩ | made | ⟨e, made⟩
  · obtain ⟨a, there, new, rfl⟩ := Roster.eq_insert_of_signup_registered registered
    refine ⟨name, email, a, ?_, there, new, by rw [served, made]⟩
    exact signedUp?_eq_some_iff.mpr ⟨segment, asks, fits, named, addressed, told⟩
  · rw [served, made] at told
    exact absurd (Response.eq_of_tells told tells_alreadySignedUp) (by decide)
  · rw [served, made] at told
    exact absurd (Response.status_of_tells told) e.status_ne_ok

/-- A signup of a new address for an activity that is there is answered with a message. -/
theorem tells_of_new {d : Desk} {r : Request} {segment : Bytes} {name email : String}
    {a : Activity} (asks : r.Asks .post (.signup segment)) (fits : (Route.signup segment).Fits)
    (named : activityName segment = .ok name) (addressed : queryField "email" r = .ok email)
    (there : d.roster.get? name = some a) (new : email ∉ a.participants) :
    (d.answer r).1.tells "message" = true := by
  have registered := Roster.signup_of_not_mem there new
  have made : d.answerSignup segment r = .ok (.signedUp name email,
      { d with roster := d.roster.insert name (a.register email) }) := by
    rw [answerSignup, named, addressed]
    simp only [bind, Except.bind, Desk.signup, registered]
  rw [answer_of_asks asks fits rfl (by simp), serve, made]
  exact tells_signedUp name email

/-- A login with the right password succeeds. -/
theorem status_of_right {d : Desk} {r : Request} {l : Login} (asks : r.Asks .post .token)
    (read : readLogin r = .ok l) (right : l.password = d.sessions.password) :
    (d.answer r).1.status = .ok := by
  have made : d.answerLogin r = .ok (Token.bearer (accessToken l.username),
      { d with sessions := d.sessions.remember l.username }) := by
    rw [answerLogin, read]
    simp only [bind, Except.bind, Desk.login, Sessions.login, if_pos right]
  rw [answer_of_asks asks trivial rfl (by simp), serve, made]
  rfl

/-- Whoever asks for a token and is given one is logged in. -/
theorem logsIn_of_status {d : Desk} {r : Request} (asks : r.Asks .post .token)
    (accepted : (d.answer r).1.status = .ok) : ∃ u, LogsIn u r (d.answer r).1 := by
  have served := answer_of_asks asks trivial rfl (by simp) d
  rcases d.serve_token_cases r with ⟨l, read, -⟩ | ⟨e, made⟩
  · exact ⟨l.username, asks, accepted, l, decode_of_readLogin read, rfl⟩
  · rw [served, made] at accepted
    exact absurd accepted e.status_ne_ok

/-- A request that signs nobody up and logs nobody in leaves the desk as it was. -/
theorem answer_of_none {d : Desk} {r : Request} (noSignup : signedUp? (r, (d.answer r).1) = none)
    (noLogin : loggedIn? (r, (d.answer r).1) = none) : (d.answer r).2 = d := by
  have does := d.does_answer r
  generalize d.answer r = answered at does noSignup noLogin ⊢
  obtain ⟨response, next⟩ := answered
  cases does with
  | nothing => rfl
  | @signup segment name email _ asks fits named addressed =>
      have told := tells_signedUp name email
      cases noSignup.symm.trans
        (signedUp?_eq_some_iff.mpr ⟨segment, asks, fits, named, addressed, told⟩)
  | @login l asks read =>
      have decoded := decode_of_readLogin read
      cases noLogin.symm.trans (loggedIn?_eq_some_iff.mpr ⟨asks, rfl, l, decoded, rfl⟩)

/-- So does one that cannot be a signup with a message and cannot be a login. -/
theorem answer_of_neither {d : Desk} {r : Request}
    (noSignup : ∀ segment, r.Asks .post (.signup segment) → (Route.signup segment).Fits →
      (d.answer r).1.tells "message" = true → False)
    (noLogin : ∀ u, ¬ LogsIn u r (d.answer r).1) : (d.answer r).2 = d := by
  refine answer_of_none (Option.eq_none_iff_forall_ne_some.mpr ?_)
    (Option.eq_none_iff_forall_ne_some.mpr ?_)
  · rintro ⟨name, email⟩ made
    obtain ⟨segment, asks, fits, -, -, told⟩ := signedUp?_eq_some_iff.mp made
    exact noSignup segment asks fits told
  · exact fun u made => noLogin u (loggedIn?_eq_some_iff.mp made)

/-- What an exchange does to a desk. -/
structure Effect (d : Desk) (r : Request) (response : Response) (next : Desk) : Prop where
  /-- A new address for an activity that is there is answered with a message. -/
  newcomer : ∀ segment name email a, r.Asks .post (.signup segment) →
    (Route.signup segment).Fits → activityName segment = .ok name →
      queryField "email" r = .ok email → d.roster.get? name = some a → email ∉ a.participants →
        response.tells "message" = true
  /-- A signup with a message for an answer adds one address to one activity. -/
  signup : ∀ segment, r.Asks .post (.signup segment) → (Route.signup segment).Fits →
    response.tells "message" = true →
      ∃ name email a, signedUp? (r, response) = some (name, email) ∧
        d.roster.get? name = some a ∧ email ∉ a.participants ∧
        next = { d with roster := d.roster.insert name (a.register email) }
  /-- A login with the right password succeeds. -/
  right : ∀ l, r.Asks .post .token → readLogin r = .ok l →
    l.password = d.sessions.password → response.status = .ok
  /-- A login that succeeds adds one token to the sessions. -/
  login : r.Asks .post .token → response.status = .ok →
    ∃ u, loggedIn? (r, response) = some u ∧
      next = { d with sessions := d.sessions.remember u }
  /-- Everything else leaves the desk. -/
  other : signedUp? (r, response) = none → loggedIn? (r, response) = none → next = d
  refused : response.status ≠ .ok → next = d
  twice : response.tells "error" = true → next = d
  notPosted : r.method ≠ .post → next = d
  elsewhere : (∀ segment, (Route.signup segment).Fits → r.path ≠ (Route.signup segment).path) →
    r.path ≠ Route.token.path → next = d
  /-- The list of all activities is what is in the roster. -/
  list : r.Asks .get .activities → response = documentResponse .ok d.roster.document

/-- Every answer has its effect. -/
theorem effect_answer (d : Desk) (r : Request) :
    d.Effect r (d.answer r).1 (d.answer r).2 where
  newcomer _ _ _ _ := tells_of_new
  signup _ := answer_of_tells
  right _ := status_of_right
  login asks accepted := by
    obtain ⟨u, logsIn⟩ := logsIn_of_status asks accepted
    exact ⟨u, loggedIn?_eq_some_iff.mpr logsIn, by rw [answer_of_logsIn logsIn]⟩
  other := answer_of_none
  refused status := by
    refine answer_of_neither (fun _ _ _ told => status (Response.status_of_tells told)) ?_
    exact fun _ logsIn => status logsIn.accepted
  twice told := by
    refine answer_of_neither (fun _ _ _ told' => ?_) fun u logsIn => ?_
    · exact absurd (Response.eq_of_tells told told') (by decide)
    · rw [answer_of_logsIn logsIn] at told
      exact absurd (Response.eq_of_tells told (tells_bearer _)) (by decide)
  notPosted method :=
    answer_of_neither (fun _ asks _ _ => method asks.1) fun _ logsIn => method logsIn.asks.1
  elsewhere noSignup noToken :=
    answer_of_neither (fun segment asks fits _ => noSignup segment fits asks.2)
      fun _ logsIn => noToken logsIn.asks.2
  list asks := by
    rw [answer_of_asks asks trivial rfl (by simp)]
    rfl

/-- One request adds to the roster whom it signs up. -/
theorem toList_answer (d : Desk) (r : Request) :
    (d.answer r).2.roster.toList =
      Entries.enroll (signedUp? (r, (d.answer r).1)).toList d.roster.toList := by
  cases made : signedUp? (r, (d.answer r).1) with
  | some signup =>
      obtain ⟨segment, asks, fits, -, -, told⟩ := signedUp?_eq_some_iff.mp made
      obtain ⟨name, email, a, made', there, -, next⟩ := answer_of_tells asks fits told
      cases made.symm.trans made'
      rw [next, Option.toList_some]
      exact Roster.toList_insert_register there email
  | none =>
      rw [Option.toList_none, Entries.enroll_nil]
      cases login : loggedIn? (r, (d.answer r).1) with
      | some u => rw [answer_of_logsIn (loggedIn?_eq_some_iff.mp login)]
      | none => rw [answer_of_none made login]

/-- One request adds to the sessions whom it logs in. -/
theorem sessions_answer (d : Desk) (r : Request) :
    (d.answer r).2.sessions =
      (loggedIn? (r, (d.answer r).1)).toList.foldl Sessions.remember d.sessions := by
  cases login : loggedIn? (r, (d.answer r).1) with
  | some u =>
      rw [answer_of_logsIn (loggedIn?_eq_some_iff.mp login)]
      rfl
  | none =>
      cases made : signedUp? (r, (d.answer r).1) with
      | some signup =>
          obtain ⟨segment, asks, fits, -, -, told⟩ := signedUp?_eq_some_iff.mp made
          obtain ⟨name, email, a, -, -, -, next⟩ := answer_of_tells asks fits told
          rw [next]
          rfl
      | none =>
          rw [answer_of_none made login]
          rfl

/-! ## Whole runs -/

/-- After a run the roster is the one from before it, with all who were signed up. -/
theorem toList_run (d : Desk) (requests : List Request) :
    (d.run requests).2.roster.toList =
      Entries.enroll (signups (d.exchanges requests)) d.roster.toList := by
  induction requests generalizing d with
  | nil => exact (Entries.enroll_nil _).symm
  | cons r requests ih =>
      rw [run_cons, ih, toList_answer, ← Entries.enroll_append, exchanges_cons]
      congr 1
      rw [signups, signups, List.filterMap_cons]
      cases signedUp? (r, (d.answer r).1) <;> rfl

/-- After a run the sessions are those from before it, with all who were logged in. -/
theorem sessions_run (d : Desk) (requests : List Request) :
    (d.run requests).2.sessions =
      (logins (d.exchanges requests)).foldl Sessions.remember d.sessions := by
  induction requests generalizing d with
  | nil => rfl
  | cons r requests ih =>
      rw [run_cons, ih, sessions_answer, ← List.foldl_append, exchanges_cons]
      congr 1
      rw [logins, logins, List.filterMap_cons]
      cases loggedIn? (r, (d.answer r).1) <;> rfl

/-- A run of a desk with any roster and any sessions leaves the roster with the addresses
of the signups that were answered with a message, in the order of the requests, each
behind the participants of its activity, and the sessions with the usernames of the logins
that succeeded.  At every place of the run the request does what its exchange tells, to
the desk that those before it leave behind, and whoever asks there for the activities is
shown those of the start with the addresses added so far. -/
theorem run_effects (start : Desk) (requests : List Request) :
    let exchanges := start.exchanges requests
    let desk (n : Nat) := (start.run (requests.take n)).2
    (start.run requests).2.roster.toList =
        Entries.enroll (signups exchanges) start.roster.toList ∧
      (start.run requests).2.sessions =
        (logins exchanges).foldl Sessions.remember start.sessions ∧
      ∀ n r, requests[n]? = some r →
        ∃ response, exchanges[n]? = some (r, response) ∧
          (desk n).Effect r response (desk (n + 1)) ∧
          (r.Asks .get .activities → response = documentResponse .ok (Json.Document.object
            ((Entries.enroll (signups (exchanges.take n)) start.roster.toList).map fun p =>
              (p.1, p.2.document)))) := by
  intro exchanges desk
  refine ⟨toList_run start requests, sessions_run start requests, fun n r place => ?_⟩
  have next : desk (n + 1) = ((desk n).answer r).2 := run_take_succ place start
  refine ⟨((desk n).answer r).1, by rw [getElem?_exchanges, place]; rfl, ?_, fun asks => ?_⟩
  · rw [next]
    exact (desk n).effect_answer r
  · rw [((desk n).effect_answer r).list asks, Roster.document, toList_run, take_exchanges]

end Desk

end SchoolDesk
