import SchoolDesk.Proofs.Desk.Effects

/-!
# The roster and the sessions do not meet

A desk keeps a roster and sessions, and each route is about one of the two or about
neither.  What is asked of the one half is answered as if nobody had ever asked anything
of the other.  So requests to the one half can be taken out of a run, and those to the
other are answered as before.  A request that changes nothing can be taken out of a run
for any other.

The two runs go side by side.  The desks between their requests agree in a *view*, which
is the half that is looked at, while the other half drifts apart.  `Desk.Hides` says which
requests a view does not notice, and that all others are answered from the view alone.
`filter_exchanges_of_purge` follows the two runs.  `purge_exchanges` is the result.
-/

namespace SchoolDesk

open Web

/-! ## Taking out -/

/-- Some of the items with a property are taken out of a list, or all of them, or none. -/
inductive Purge {α : Type} (P : α → Prop) : List α → List α → Prop where
  | nil : Purge P [] []
  | keep {a : α} {l kept : List α} (rest : Purge P l kept) : Purge P (a :: l) (a :: kept)
  | drop {a : α} {l kept : List α} (h : P a) (rest : Purge P l kept) : Purge P (a :: l) kept

namespace Web

/-- Somebody logs in there or shows a token. -/
def Route.usesSessions : Route → Bool
  | token | me | calculate => true
  | _ => false

/-- The activities are there, or one of them. -/
def Route.usesRoster : Route → Bool
  | activities | signup _ => true
  | _ => false

/-- Somebody shows a token there. -/
def Route.isGuarded : Route → Bool
  | me | calculate => true
  | _ => false

/-- The path of a request leads to a route of a kind. -/
def Request.leadsTo (r : Request) (kind : Route → Bool) : Bool := (Route.ofPath? r.path).any kind

theorem Request.leadsTo_eq {r : Request} {m : Method} {route : Route} (asks : r.Asks m route)
    (fits : route.Fits) (kind : Route → Bool) : r.leadsTo kind = kind route := by
  rw [leadsTo, Route.ofPath?_eq_some_iff.mpr ⟨asks.2, fits⟩, Option.any_some]

end Web

namespace Desk

/-! ## Two runs side by side -/

/-- A view of the desk does not notice requests of a kind.  All others are answered from
the view, and the view after them depends on the view before them. -/
structure Hides {V : Type} (view : Desk → V) (hidden : Request → Bool) : Prop where
  quiet : ∀ d r, hidden r = true → view (d.answer r).2 = view d
  seen : ∀ d d' r, hidden r = false → view d = view d' →
    (d.answer r).1 = (d'.answer r).1 ∧ view (d.answer r).2 = view (d'.answer r).2

/-- Without some of the requests that a view does not notice, all that it notices are
answered as before. -/
theorem filter_exchanges_of_purge {V : Type} {view : Desk → V} {hidden : Request → Bool}
    (hides : Hides view hidden) {requests kept : List Request}
    (purge : Purge (fun r => hidden r = true) requests kept) {d d' : Desk}
    (same : view d = view d') :
    (d'.exchanges kept).filter (fun e => !hidden e.1) =
      (d.exchanges requests).filter fun e => !hidden e.1 := by
  induction purge generalizing d d' with
  | nil => rfl
  | @keep r _ _ _ ih =>
      rw [exchanges_cons, exchanges_cons, List.filter_cons, List.filter_cons]
      cases kind : hidden r with
      | true =>
          have after := (hides.quiet d r kind).trans (same.trans (hides.quiet d' r kind).symm)
          simpa using ih after
      | false =>
          obtain ⟨response, after⟩ := hides.seen d d' r kind same
          simp [response, ih after]
  | @drop r _ _ kind _ ih =>
      rw [exchanges_cons d, List.filter_cons, kind]
      simpa using ih ((hides.quiet d r kind).trans same)

/-- Two desks that serve a request alike answer it alike. -/
theorem answer_congr {V : Type} (view : Desk → V) {d d' : Desk} {r : Request}
    (same : view d = view d')
    (served : ∀ route, Route.ofPath? r.path = some route →
      (d.serve r route).1 = (d'.serve r route).1 ∧
        view (d.serve r route).2 = view (d'.serve r route).2) :
    (d.answer r).1 = (d'.answer r).1 ∧ view (d.answer r).2 = view (d'.answer r).2 := by
  rw [answer, answer]
  cases leads : Route.ofPath? r.path with
  | none => exact ⟨rfl, same⟩
  | some route =>
      obtain ⟨response, after⟩ := served route leads
      by_cases allowed : route.allows r.method = true
      · simp [allowed, response, after]
      · simp [allowed, same]

/-! ## The roster -/

/-- The half of a desk that has the roster.  The pages never change. -/
def rosterHalf (d : Desk) : Roster × Site := (d.roster, d.site)

/-- A signup does not look at the sessions. -/
theorem serve_signup_congr (roster : Roster) (sessions sessions' : Sessions) (site : Site)
    (r : Request) (segment : Bytes) :
    ((Desk.mk roster sessions site).serve r (.signup segment)).1 =
        ((Desk.mk roster sessions' site).serve r (.signup segment)).1 ∧
      rosterHalf ((Desk.mk roster sessions site).serve r (.signup segment)).2 =
        rosterHalf ((Desk.mk roster sessions' site).serve r (.signup segment)).2 := by
  simp only [serve, answerSignup]
  cases activityName segment with
  | error e => exact ⟨rfl, rfl⟩
  | ok name =>
      cases queryField "email" r with
      | error e => exact ⟨rfl, rfl⟩
      | ok email =>
          simp only [bind, Except.bind, Desk.signup]
          cases roster.signup name email with
          | error e => exact ⟨rfl, rfl⟩
          | ok outcome =>
              obtain ⟨outcome, next⟩ := outcome
              cases outcome <;> exact ⟨rfl, rfl⟩

/-- What is asked of the sessions is not noticed in the half that has the roster. -/
theorem hides_sessions : Hides rosterHalf fun r => r.leadsTo Route.usesSessions where
  quiet d r kind := by
    have does := d.does_answer r
    generalize d.answer r = answered at does ⊢
    obtain ⟨response, next⟩ := answered
    cases does with
    | nothing => rfl
    | signup asks fits =>
        rw [Request.leadsTo_eq asks fits] at kind
        cases kind
    | login => rfl
  seen d d' r kind same := by
    obtain ⟨roster, sessions, site⟩ := d
    obtain ⟨roster', sessions', site'⟩ := d'
    obtain ⟨rfl, rfl⟩ := Prod.mk.inj same
    refine answer_congr rosterHalf rfl fun route leads => ?_
    rw [Request.leadsTo, leads, Option.any_some] at kind
    cases route with
    | home => exact ⟨rfl, rfl⟩
    | activities => exact ⟨rfl, rfl⟩
    | signup segment => exact serve_signup_congr roster sessions sessions' site r segment
    | token => cases kind
    | me => cases kind
    | calculate => cases kind
    | files rest => exact ⟨rfl, rfl⟩

/-! ## The sessions -/

/-- The half of a desk that has the sessions. -/
def sessionsHalf (d : Desk) : Sessions × Site := (d.sessions, d.site)

/-- A login does not look at the roster. -/
theorem serve_token_congr (roster roster' : Roster) (sessions : Sessions) (site : Site)
    (r : Request) :
    ((Desk.mk roster sessions site).serve r .token).1 =
        ((Desk.mk roster' sessions site).serve r .token).1 ∧
      sessionsHalf ((Desk.mk roster sessions site).serve r .token).2 =
        sessionsHalf ((Desk.mk roster' sessions site).serve r .token).2 := by
  simp only [serve, answerLogin]
  cases readLogin r with
  | error e => exact ⟨rfl, rfl⟩
  | ok l =>
      simp only [bind, Except.bind, Desk.login]
      cases sessions.login l.username l.password <;> exact ⟨rfl, rfl⟩

/-- Neither does an answer that hands the desk back. -/
theorem respond_map_congr {α : Type} (document : α → Json.Document) (answer : Except Refusal α)
    {d d' : Desk} (same : sessionsHalf d = sessionsHalf d') :
    (d.respond document (answer.map fun a => (a, d))).1 =
        (d'.respond document (answer.map fun a => (a, d'))).1 ∧
      sessionsHalf (d.respond document (answer.map fun a => (a, d))).2 =
        sessionsHalf (d'.respond document (answer.map fun a => (a, d'))).2 := by
  cases answer with
  | ok a => exact ⟨rfl, same⟩
  | error e => exact ⟨rfl, same⟩

/-- What is asked of the roster is not noticed in the half that has the sessions. -/
theorem hides_roster : Hides sessionsHalf fun r => r.leadsTo Route.usesRoster where
  quiet d r kind := by
    have does := d.does_answer r
    generalize d.answer r = answered at does ⊢
    obtain ⟨response, next⟩ := answered
    cases does with
    | nothing => rfl
    | signup => rfl
    | login asks =>
        rw [Request.leadsTo_eq asks trivial] at kind
        cases kind
  seen d d' r kind same := by
    obtain ⟨roster, sessions, site⟩ := d
    obtain ⟨roster', sessions', site'⟩ := d'
    obtain ⟨rfl, rfl⟩ := Prod.mk.inj same
    refine answer_congr sessionsHalf rfl fun route leads => ?_
    rw [Request.leadsTo, leads, Option.any_some] at kind
    cases route with
    | home => exact ⟨rfl, rfl⟩
    | activities => cases kind
    | signup segment => cases kind
    | token => exact serve_token_congr roster roster' sessions site r
    | me => exact respond_map_congr _ _ rfl
    | calculate => exact respond_map_congr _ _ rfl
    | files rest => exact ⟨rfl, rfl⟩

/-! ## Requests that change nothing -/

/-- A request that is refused or only shows a token leaves the desk. -/
def Idles (e : Request × Response) : Prop :=
  400 ≤ e.2.status.code ∧ e.2.status.code < 500 ∨ e.1.leadsTo Route.isGuarded = true

theorem answer_of_idles {d : Desk} {r : Request} (idles : Idles (r, (d.answer r).1)) :
    (d.answer r).2 = d := by
  refine answer_of_neither (fun segment asks fits told => ?_) fun u logsIn => ?_
  · rcases idles with refused | guarded
    · rw [Response.status_of_tells told] at refused
      exact absurd refused (by decide)
    · rw [Request.leadsTo_eq asks fits] at guarded
      cases guarded
  · rcases idles with refused | guarded
    · rw [logsIn.accepted] at refused
      exact absurd refused (by decide)
    · rw [Request.leadsTo_eq logsIn.asks trivial] at guarded
      cases guarded

/-- Without some of them, all the others are answered as before. -/
theorem exchanges_of_purge {d : Desk} {requests : List Request}
    {kept : List (Request × Response)} (purge : Purge Idles (d.exchanges requests) kept) :
    d.exchanges (kept.map Prod.fst) = kept := by
  induction requests generalizing d kept with
  | nil =>
      cases purge
      rfl
  | cons r requests ih =>
      rw [exchanges_cons] at purge
      cases purge with
      | keep rest => rw [List.map_cons, exchanges_cons, ih rest]
      | drop idles rest =>
          rw [answer_of_idles idles] at rest
          exact ih rest

/-- In every run of a desk with any roster and any sessions, any requests to `/token`,
`/users/me` and `/calculate` can be taken out, and all other requests are answered as
before; so they are if any requests to `/activities` and to signups are taken out.  If any
requests are taken out that are answered with a status from 400 to 499 or go to
`/users/me` or `/calculate`, then all that are left are answered as before. -/
theorem purge_exchanges (d : Desk) :
    (∀ requests kept, Purge (fun r => r.leadsTo Route.usesSessions = true) requests kept →
      (d.exchanges kept).filter (fun e => !e.1.leadsTo Route.usesSessions) =
        (d.exchanges requests).filter fun e => !e.1.leadsTo Route.usesSessions) ∧
      (∀ requests kept, Purge (fun r => r.leadsTo Route.usesRoster = true) requests kept →
        (d.exchanges kept).filter (fun e => !e.1.leadsTo Route.usesRoster) =
          (d.exchanges requests).filter fun e => !e.1.leadsTo Route.usesRoster) ∧
      ∀ requests kept,
        Purge (fun e => 400 ≤ e.2.status.code ∧ e.2.status.code < 500 ∨
          e.1.leadsTo Route.isGuarded = true) (d.exchanges requests) kept →
        d.exchanges (kept.map Prod.fst) = kept :=
  ⟨fun _ _ purge => filter_exchanges_of_purge hides_sessions purge rfl,
    fun _ _ purge => filter_exchanges_of_purge hides_roster purge rfl,
    fun _ _ purge => exchanges_of_purge purge⟩

/-- Somebody asks for the activities. -/
def listActivities : Request where
  method := .get
  target := Route.word "/activities"

/-- Whoever asks for the activities does not notice that Ann logs in, and she does not
notice who asks for them.  That she has asked too early is not noticed by anybody. -/
theorem purge_exchanges_ann :
    let start : Desk := { roster := .empty, sessions := { password := "pw" } }
    (start.exchanges [listActivities]).filter (fun e => !e.1.leadsTo Route.usesSessions) =
        (start.exchanges [loginAnn, listActivities, askAsAnn]).filter
          (fun e => !e.1.leadsTo Route.usesSessions) ∧
      (start.exchanges [loginAnn, askAsAnn]).filter (fun e => !e.1.leadsTo Route.usesRoster) =
        (start.exchanges [loginAnn, listActivities, askAsAnn]).filter
          (fun e => !e.1.leadsTo Route.usesRoster) ∧
      start.exchanges [loginAnn, listActivities] =
        (start.exchanges [askAsAnn, loginAnn, listActivities]).tail := by
  intro start
  obtain ⟨withoutSessions, withoutRoster, withoutIdle⟩ := start.purge_exchanges
  have login : loginAnn.leadsTo Route.usesSessions = true := by decide +kernel
  have list : listActivities.leadsTo Route.usesRoster = true := by decide +kernel
  have ask : askAsAnn.leadsTo Route.usesSessions = true := by decide +kernel
  have token : askAsAnn.leadsTo Route.isGuarded = true := by decide +kernel
  exact ⟨withoutSessions _ _ (.drop login (.keep (.drop ask .nil))),
    withoutRoster _ _ (.keep (.drop list (.keep .nil))),
    withoutIdle [askAsAnn, loginAnn, listActivities] _ (.drop (.inr token) (.keep (.keep .nil)))⟩

end Desk

end SchoolDesk
