import SchoolDesk.Proofs.Desk.Gate
import SchoolDesk.Proofs.Json.Quote

/-!
# Tokens that are issued

A login hands out a token, and whoever bears it later should be let in.  The token comes
back in a header, and what stands there must be visible ASCII.  The token of a username
holds the username as it is, so the token of a username with any other character is
issued, and kept, and cannot be borne: to the desk its bearer has no credentials.

`answer_bearer` says what the bearer of the token of a username is answered, once this
username has logged in.  `issued_usable_iff` says it of all the tokens that are issued in
a run, each known from the text of the response that issues it.
-/

namespace SchoolDesk

open Text.Utf8 (encode IsControl IsVisible)
open Web

/-! ## The text of a token -/

/-- A token is known from its text. -/
theorem Token.eq_of_document_eq {t t' : Token}
    (h : t.document.toString = t'.document.toString) : t = t' := by
  have written := String.ofList_injective h
  simp only [document, Json.Document.write, Json.writeMembers, Json.braced, List.append_assoc,
    List.cons_append] at written
  obtain ⟨-, members⟩ := Json.quote_append_inj (List.cons.inj written).2
  obtain ⟨accessToken, members⟩ := Json.quote_append_inj (List.cons.inj members).2
  obtain ⟨-, members⟩ := Json.quote_append_inj (List.cons.inj members).2
  obtain ⟨tokenType, -⟩ := Json.quote_append_inj (List.cons.inj members).2
  cases t
  cases t'
  cases accessToken
  cases tokenType
  rfl

/-! ## A token in a header -/

/-- The one header by which a request says who is asking holds the credentials of a
token. -/
def Web.Request.Bears (r : Request) (token : String) : Prop :=
  (r.headers.filter fun h => h.1.toLower = "authorization").map (·.2) =
    [Bearer.credentials (encode token)]

instance (r : Request) (token : String) : Decidable (r.Bears token) :=
  inferInstanceAs (Decidable (_ = _))

/-- Nothing can be read from credentials with a byte that is not visible. -/
theorem Web.Bearer.ofValue?_eq_none {value : Bytes} (h : value.all Byte.isVisible = false) :
    ofValue? value = none := by
  rw [ofValue?]
  split
  · rfl
  · simp [h]

theorem all_isVisible_accessToken_iff {u : String} :
    (encode (accessToken u)).all Byte.isVisible = true ↔ ∀ c ∈ u.toList, IsVisible c := by
  have front : (encode "user-").all Byte.isVisible = true := by decide
  have back : (encode "-token").all Byte.isVisible = true := by decide
  rw [accessToken, Text.Utf8.encode_append, Text.Utf8.encode_append, List.all_append,
    List.all_append, front, back, Bool.true_and, Bool.and_true,
    Text.Utf8.all_isVisible_encode_iff]

/-- The token of a username comes back from its credentials if the username is visible. -/
theorem ofValue?_credentials_accessToken {u : String} (h : ∀ c ∈ u.toList, IsVisible c) :
    Bearer.ofValue? (Bearer.credentials (encode (accessToken u))) = some (accessToken u) := by
  have visible := all_isVisible_accessToken_iff.mpr h
  have begins : (encode (accessToken u)).head? = some (Byte.of 'u') := by
    rw [accessToken, Text.Utf8.encode_append, Text.Utf8.encode_append]
    rfl
  have ascii : ∀ c ∈ (accessToken u).toList, c.toNat < 0x80 := fun c hc =>
    (Text.Utf8.all_isVisible_encode_iff.mp visible c hc).1
  rw [Bearer.ofValue?_credentials visible (by rw [begins]; decide),
    Text.Utf8.text_encode ascii]

/-- The token of any other username does not. -/
theorem ofValue?_credentials_eq_none {u : String} (h : ¬ ∀ c ∈ u.toList, IsVisible c) :
    Bearer.ofValue? (Bearer.credentials (encode (accessToken u))) = none := by
  refine Bearer.ofValue?_eq_none ?_
  rw [← all_isVisible_accessToken_iff, Bool.not_eq_true] at h
  rw [Bearer.credentials, List.all_append, h, Bool.and_false]

namespace Desk

theorem tokenOf?_of_bears {r : Request} {token : String} (bears : r.Bears token) :
    tokenOf? r = Bearer.ofValue? (Bearer.credentials (encode token)) := by
  have first : r.header? "authorization" = some (Bearer.credentials (encode token)) := by
    rw [Request.header?, ← List.head?_filter, ← List.head?_map, bears]
    rfl
  rw [tokenOf?, first]
  rfl

/-- What the bearer of the token of a username is answered who asks who is asking, once
this username has logged in: the user of this name if the username is visible, and
otherwise that there are no credentials. -/
theorem answer_bearer {d : Desk} {u : String} (known : u ∈ d.sessions.usernames) {r : Request}
    (asks : r.Asks .get .me) (bears : r.Bears (accessToken u)) :
    ((∀ c ∈ u.toList, IsVisible c) ∧ (d.answer r).1 = documentResponse .ok
        (User.document { email := u ++ "@mergington.edu", username := u })) ∨
      (¬ ∀ c ∈ u.toList, IsVisible c) ∧ (d.answer r).1 = .unknown "Not authenticated" := by
  obtain ⟨letIn, told, refused⟩ := d.answer_guarded (.inl asks)
  have token := tokenOf?_of_bears bears
  by_cases visible : ∀ c ∈ u.toList, IsVisible c
  · rw [ofValue?_credentials_accessToken visible] at token
    exact .inl ⟨visible, told u known token asks⟩
  · rw [ofValue?_credentials_eq_none visible] at token
    refine .inr ⟨visible, ?_⟩
    rw [token] at letIn refused
    refine refused (Decidable.byContradiction fun other => ?_)
    obtain ⟨v, -, borne⟩ := letIn.mp other
    cases borne

/-! ## The tokens of a run -/

/-- A token that a run of a desk has issued for a username without control characters
stands for this user in all later requests if the username is ASCII, and only then.
Otherwise its bearer is told to have no credentials. -/
theorem issued_usable_iff (d : Desk) (requests : List Request) (i j : Nat) (later : i < j)
    (login : Request) (issued : Response) (u : String) (token : Token)
    (issue : (d.exchanges requests)[i]? = some (login, issued)) (logsIn : LogsIn u login issued)
    (text : issued.text = token.document.toString) (ask : Request)
    (place : requests[j]? = some ask) (asks : ask.Asks .get .me)
    (bears : ask.Bears token.accessToken) (plain : ∀ c ∈ u.toList, ¬ IsControl c) :
    ∃ response, (d.exchanges requests)[j]? = some (ask, response) ∧
      (response = documentResponse .ok
          (User.document { email := u ++ "@mergington.edu", username := u }) ↔
        ∀ c ∈ u.toList, c.toNat < 0x80) ∧
      ((∃ c ∈ u.toList, 0x80 ≤ c.toNat) → response = .unknown "Not authenticated") := by
  have ascii : (∀ c ∈ u.toList, IsVisible c) ↔ ∀ c ∈ u.toList, c.toNat < 0x80 :=
    forall₂_congr fun c hc => Text.Utf8.isVisible_iff (plain c hc)
  -- The token that was issued is the one of the username.
  have word : token.accessToken = accessToken u := by
    rw [getElem?_exchanges] at issue
    cases there : requests[i]? with
    | none => simp [there] at issue
    | some r =>
        rw [there, Option.map_some, Option.some.injEq, Prod.mk.injEq] at issue
        obtain ⟨rfl, rfl⟩ := issue
        rw [answer_of_logsIn logsIn] at text
        exact congrArg Token.accessToken (Token.eq_of_document_eq text).symm
  -- Nothing that came in between has made the desk forget the username.
  have known : u ∈ (d.run (requests.take j)).2.sessions.usernames := by
    refine mem_usernames_run.mpr (.inr ⟨(login, issued), ?_, logsIn⟩)
    rw [← take_exchanges]
    exact List.mem_of_getElem? (by rw [List.getElem?_take_of_lt later, issue])
  rw [word] at bears
  refine ⟨_, by rw [getElem?_exchanges, place]; rfl, ?_⟩
  rcases answer_bearer known asks bears with ⟨visible, told⟩ | ⟨hidden, refused⟩
  · refine ⟨⟨fun _ => ascii.mp visible, fun _ => told⟩, ?_⟩
    rintro ⟨c, hc, other⟩
    exact absurd (ascii.mp visible c hc) (Nat.not_lt.mpr other)
  · refine ⟨⟨fun told => ?_, fun h => absurd (ascii.mpr h) hidden⟩, fun _ => refused⟩
    rw [refused] at told
    exact absurd (congrArg Response.status told) (by simp [Response.unknown, documentResponse])

/-- René logs in. -/
def loginRene : Request where
  method := .post
  target := Route.word "/token"
  headers := [("Content-Type", Route.word "application/json")]
  body := Route.word "\x7b\"username\": \"René\", \"password\": \"pw\"\x7d"

/-- Whoever bears the token of René asks who is asking. -/
def askAsRene : Request where
  method := .get
  target := Route.word "/users/me"
  headers := [("Authorization", Bearer.credentials (Route.word "user-René-token"))]

/-- Ann logs in and bears her token two requests later. -/
theorem issued_usable_ann :
    let start : Desk := { roster := .empty, sessions := { password := "pw" } }
    (start.exchanges [loginAnn, askAsRene, askAsAnn])[2]? = some (askAsAnn,
      documentResponse .ok (User.document { email := "ann@mergington.edu", username := "ann" })) := by
  intro start
  have logsIn : LogsIn "ann" loginAnn (start.answer loginAnn).1 :=
    ⟨by decide, by decide +kernel, ⟨"ann", "pw"⟩, by decide +kernel, rfl⟩
  have text : (start.answer loginAnn).1.text =
      (Token.bearer "user-ann-token").document.toString := by decide +kernel
  obtain ⟨response, there, usable, -⟩ :=
    issued_usable_iff start [loginAnn, askAsRene, askAsAnn] 0 2 (by decide) loginAnn _ "ann" _
      rfl logsIn text askAsAnn rfl (by decide) (by decide +kernel) (by simp [IsControl])
  rw [there, usable.mpr (by simp)]
  rfl

/-- René logs in as well and is issued a token.  The next request bears it, and has no
credentials. -/
theorem issued_unusable_rene :
    let start : Desk := { roster := .empty, sessions := { password := "pw" } }
    let issued := documentResponse .ok (Token.bearer "user-René-token").document
    start.exchanges [loginRene, askAsRene] =
        [(loginRene, issued), (askAsRene, .unknown "Not authenticated")] ∧
      LogsIn "René" loginRene issued ∧ askAsRene.Asks .get .me ∧
      askAsRene.Bears "user-René-token" ∧ ∀ c ∈ "René".toList, ¬ IsControl c := by
  intro start issued
  have logsIn : LogsIn "René" loginRene issued :=
    ⟨by decide, rfl, ⟨"René", "pw"⟩, by decide +kernel, rfl⟩
  exact ⟨by decide +kernel, logsIn, by decide, by decide +kernel, by simp [IsControl]⟩

end Desk

end SchoolDesk
