import SchoolDesk.Proofs.Desk.Effects
import SchoolDesk.Proofs.Desk.Reply
import SchoolDesk.Proofs.Json.Record

/-!
# Signing up for an activity of any name

The name of an activity is in the path of a signup and the address is in its query.  The
two are written in different ways: a plus sign is itself in a path and a space in a query,
and a slash ends a part of a path.  A name that is encoded has no slash in it, so it is
one part of the path, and the desk decodes it only after it knows where the path leads.

`signup_addressed` says that a signup acts on exactly the name and the address that are
written into its target, whatever their characters are.  What it does is seen in what the
desk then lists, read as JSON (`lists_answer`).
-/

namespace SchoolDesk

open Json (Document)
open Text.Utf8 (encode)
open Web

/-! ## The list of all activities -/

/-- The text of a response is JSON, an object with a member for each of some entries, in
their order, from which the activity of the entry is read back. -/
structure Web.Response.Lists (response : Response) (es : Entries) : Prop where
  went : response.status = .ok
  json : response.contentType = some "application/json"
  reads : ∃ members, Json.members? (encode response.text) = some members ∧
    members.map (fun m => (m.1, Activity.decode m.2)) = es.map fun p => (p.1, .ok p.2)

theorem Roster.lists_document (roster : Roster) :
    (documentResponse .ok roster.document).Lists roster.toList where
  went := rfl
  json := rfl
  reads := by
    refine ⟨_, by rw [documentResponse, Json.encode_toString, document, Json.members?_bytes], ?_⟩
    rw [List.map_map, List.map_map]
    exact List.map_congr_left fun p _ => congrArg (Prod.mk p.1) p.2.decode_bytes

/-- Whoever asks for the activities is shown those of the roster. -/
theorem Desk.lists_answer (d : Desk) {r : Request} (asks : r.Asks .get .activities) :
    (d.answer r).1.Lists d.roster.toList := by
  rw [(d.effect_answer r).list asks]
  exact d.roster.lists_document

/-! ## The target of a signup -/

/-- The bytes of a class can stand for themselves in a part of a path. -/
def Web.Route.KeepsParts (keeps : UInt8 → Bool) : Prop :=
  ∀ b ∈ [Percent.sign, slash, Byte.of '?', Byte.of '#'], keeps b = false

instance (keeps : UInt8 → Bool) : Decidable (Route.KeepsParts keeps) :=
  List.decidableBAll (fun b => keeps b = false) _

/-- What is encoded has no other byte that means something in a path. -/
theorem Web.Percent.not_mem_encode {keeps : UInt8 → Bool} {b : UInt8} (other : keeps b = false)
    (sign : b ≠ sign) (letter : Byte.isAlphanumeric b = false) (s : Bytes) :
    b ∉ encode keeps s := by
  intro there
  rcases mem_encode there with kept | same | alphanumeric
  · rw [kept] at other
    cases other
  · exact sign same
  · rw [alphanumeric] at letter
    cases letter

namespace Desk

/-- The target of the signup of an address for an activity, with the name of the activity
in percent encoding. -/
def signupTarget (keeps : UInt8 → Bool) (name email : String) : Bytes :=
  (Route.signup (Percent.encode keeps (encode name))).path ++
    Byte.of '?' :: Form.encodeField "email" email

section

variable {keeps : UInt8 → Bool} (safe : Route.KeepsParts keeps) (name : String)

include safe

/-- The name of an activity comes back from its encoding. -/
theorem activityName_encode : activityName (Percent.encode keeps (encode name)) = .ok name := by
  rw [activityName, Percent.decode_encode (safe _ (by simp)), Text.Utf8.decode?_encode]

theorem fits_encode : (Route.signup (Percent.encode keeps (encode name))).Fits :=
  Percent.not_mem_encode (safe _ (by simp)) (by decide) (by decide) _

theorem questionMark_not_mem_path :
    Byte.of '?' ∉ (Route.signup (Percent.encode keeps (encode name))).path := by
  have inside : Byte.of '?' ∉ Percent.encode keeps (encode name) :=
    Percent.not_mem_encode (safe _ (by simp)) (by decide) (by decide) _
  simp only [Route.path, List.mem_append, not_or]
  exact ⟨⟨by decide, inside⟩, by decide⟩

end

/-- A request for the signup of an address for an activity is answered for exactly these
two. -/
theorem answer_of_signupTarget {keeps : UInt8 → Bool} (safe : Route.KeepsParts keeps)
    {r : Request} {name email : String} (method : r.method = .post)
    (target : r.target = signupTarget keeps name email) (d : Desk) :
    d.answer r = d.respond SignupAnswer.document (d.signup name email) := by
  have plain := questionMark_not_mem_path safe name
  rw [answer_of_asks ⟨method, Request.path_of_target plain target⟩ (fits_encode safe name)
    rfl (by simp), serve, answerSignup, activityName_encode safe,
    queryField_of_target plain target]
  rfl

/-! ## What a signup does -/

/-- Whoever asks a later desk for the activities is shown an address behind the participants
that an activity had before, and all other activities as before. -/
def Shows (d next : Desk) (name email : String) (a : Activity) : Prop :=
  ∃ es : Entries, (∀ r, r.Asks .get .activities → (next.answer r).1.Lists es) ∧
    es.map Prod.fst = d.roster.names ∧
    es.lookup name = some { a with participants := a.participants ++ [email] } ∧
    ∀ other, other ≠ name → es.lookup other = d.roster.get? other

/-- What the signup of an address for an activity does.  It adds the address behind the
participants of this activity, or it changes nothing and says why. -/
structure SignsUp (d : Desk) (name email : String) (response : Response) (next : Desk) :
    Prop where
  signedUp : ∀ a, d.roster.get? name = some a → email ∉ a.participants →
    response.Reports .ok "message" ("Signed up " ++ email ++ " for " ++ name) ∧
      next.sessions = d.sessions ∧ d.Shows next name email a
  already : ∀ a, d.roster.get? name = some a → email ∈ a.participants →
    response.Reports .ok "error" "Student already registered for this activity." ∧ next = d
  notFound : d.roster.get? name = none →
    response.Reports .notFound "detail" "Activity not found" ∧ next = d

/-- An address that is added is shown. -/
theorem shows_insert (d : Desk) {name : String} {a : Activity}
    (there : d.roster.get? name = some a) (email : String) :
    d.Shows { d with roster := d.roster.insert name (a.register email) } name email a := by
  have listed : name ∈ d.roster.names := Roster.isSome_get?_iff.mp (by simp [there])
  refine ⟨(d.roster.insert name (a.register email)).toList, fun r asks => lists_answer _ asks,
    ?_, ?_, fun other differs => ?_⟩
  · rw [Roster.map_fst_toList, Roster.names_insert, if_pos listed]
  · rw [Roster.lookup_toList, Roster.get?_insert_self]
    rfl
  · rw [Roster.lookup_toList, Roster.get?_insert, if_neg differs.symm]

/-- A signup with what it answers does what it should. -/
theorem signsUp_respond (d : Desk) (name email : String) :
    d.SignsUp name email (d.respond SignupAnswer.document (d.signup name email)).1
      (d.respond SignupAnswer.document (d.signup name email)).2 where
  signedUp a there new := by
    rw [signup, Roster.signup_of_not_mem there new]
    exact ⟨reports_document .ok "message" _, rfl, d.shows_insert there email⟩
  already a there old := by
    have registered : d.roster.signup name email = .ok (.alreadyRegistered, d.roster) := by
      simp [Roster.signup, there, old, Activity.isRegistered]
    rw [signup, registered]
    exact ⟨reports_document .ok "error" _, rfl⟩
  notFound none := by
    rw [signup, Roster.signup, none]
    exact ⟨(Refusal.activityNotFound ⟨name⟩).reports_response, rfl⟩

/-- Any desk, whatever has been done to it, signs up exactly the address that is written
into the query of a signup for exactly the activity that is written into its path. -/
theorem signup_addressed (d : Desk) {keeps : UInt8 → Bool} (safe : Route.KeepsParts keeps)
    {r : Request} {name email : String} (method : r.method = .post)
    (target : r.target = signupTarget keeps name email) :
    d.SignsUp name email (d.answer r).1 (d.answer r).2 := by
  rw [answer_of_signupTarget safe method target]
  exact d.signsUp_respond name email

/-- Somebody signs up for a café, with a plus sign and a slash in its name. -/
def signupCafe : Request where
  method := .post
  target := Route.word "/activities/Caf%C3%A9%20%2F+100%25%3F/signup?email=ann%2B1+%40x"

/-- The café is found by its name, and the address is shown behind its participants. -/
theorem signup_addressed_cafe :
    let cafe : Activity :=
      { description := "", schedule := "", capacity := 1, participants := ["bob@x"] }
    let start : Desk :=
      { roster := .ofList [("Café /+100%?", cafe)], sessions := { password := "pw" } }
    (start.answer signupCafe).1.Reports .ok "message" "Signed up ann+1 @x for Café /+100%?" ∧
      start.Shows (start.answer signupCafe).2 "Café /+100%?" "ann+1 @x" cafe := by
  intro cafe start
  have there : start.roster.get? "Café /+100%?" = some cafe := Roster.get?_insert_self _ _ _
  have safe : Route.KeepsParts fun b => Percent.isUnreserved b || b == Byte.of '+' := by decide
  have signs : start.SignsUp "Café /+100%?" "ann+1 @x" (start.answer signupCafe).1
      (start.answer signupCafe).2 :=
    start.signup_addressed safe rfl (by decide +kernel)
  obtain ⟨reports, -, shown⟩ := signs.signedUp cafe there (by decide)
  exact ⟨reports, shown⟩

end Desk

end SchoolDesk
