import SchoolDesk.Proofs.Desk.Gate
import SchoolDesk.Proofs.Desk.Reply
import SchoolDesk.Proofs.Json.Exact

/-!
# Calculations

Whoever has logged in can have an expression evaluated.  The expression is in the query
of the target, where a plus sign is a space and a percent sign begins an escape, and it is
in the response, where a quote ends a text.  On both ways it stays what it is.

`answer_of_expression` says what any expression is answered: the expression with its value
if the evaluator has a finite value for it, and otherwise why there is none.  A response
that is a success always gives such a value (`gives_of_status`), so the evaluator decides
alone.  `relays_answer` puts the two together.
-/

namespace SchoolDesk

open Expression (evaluate)
open Json (Document)
open Text.Utf8 (encode)
open Web

/-! ## Responses -/

/-- A response gives an expression and its value.  Read as JSON, it holds the expression
and a number, which is not `null` and is read back as the value. -/
structure Web.Response.Gives (response : Response) (expression : String) (v : Float) : Prop where
  finite : v.isFinite = true
  written : response = documentResponse .ok
    (.object [("expression", .text expression), ("result", .real v)])
  reads : ∃ text number,
    Json.members? (encode response.text) = some [("expression", text), ("result", number)] ∧
      Json.readTextValue text = .ok (expression, []) ∧
      number = (Document.real v).bytes ∧ number ≠ encode "null" ∧ Json.Denotes number v

/-- A response hands on what the evaluator makes of an expression. -/
structure Web.Response.Relays (response : Response) (expression : String) : Prop where
  value : ∀ v, evaluate expression = .ok v → v.isFinite = true → response.Gives expression v
  notFinite : ∀ v, evaluate expression = .ok v → v.isFinite = false →
    response.Reports .badRequest "detail" ("Error calculating expression: result " ++
      (if v.isNaN then "NaN" else if v < 0.0 then "-inf" else "inf") ++
        " is not a finite number")
  failure : ∀ e, evaluate expression = .error e →
    response.Reports .badRequest "detail" ("Error calculating expression: " ++ e.message)

/-- A calculation gives its expression and its value. -/
theorem gives_document (expression : String) {v : Float} (finite : v.isFinite = true) :
    (documentResponse .ok (Calculation.document ⟨expression, v⟩)).Gives expression v where
  finite := finite
  written := rfl
  reads := by
    refine ⟨_, _, ?_, readTextValue_document expression, rfl, Json.writeReal_ne_null finite,
      Json.denotes_writeReal finite⟩
    rw [documentResponse, Json.encode_toString, Calculation.document, Json.members?_bytes]
    rfl

namespace Desk

/-! ## Answers -/

/-- The response to a calculation hands on what the evaluator makes of it. -/
theorem relays_respond (d : Desk) (expression : String) :
    (d.respond Calculation.document
      ((calculate expression).map fun c => (c, d))).1.Relays expression := by
  rw [calculate]
  cases value : evaluate expression with
  | error e =>
      refine ⟨by simp [value], by simp [value], fun e' failed => ?_⟩
      rw [value] at failed
      cases failed
      exact (Refusal.calculation e).reports_response
  | ok v =>
      refine ⟨fun w valued finite => ?_, fun w valued infinite => ?_, by simp [value]⟩
      · rw [value] at valued
        cases valued
        simp only [if_pos finite]
        exact gives_document expression finite
      · rw [value] at valued
        cases valued
        simp only [infinite, Bool.false_eq_true, if_false]
        exact (Refusal.notFinite v).reports_response

/-- The target that asks for the value of an expression. -/
def calculationTarget (expression : String) : Bytes :=
  Route.calculate.path ++ Byte.of '?' :: Form.encodeField "expression" expression

/-- Whoever asks for the value of an expression and is known is answered with what the
evaluator makes of it, and nothing else changes. -/
theorem answer_of_expression {d : Desk} {r : Request} {expression token : String} {user : User}
    (method : r.method = .post) (target : r.target = calculationTarget expression)
    (bears : tokenOf? r = some token) (known : d.sessions.authenticate token = .ok user) :
    (d.answer r).2 = d ∧ (d.answer r).1.Relays expression := by
  have plain : Byte.of '?' ∉ Route.calculate.path := by decide
  have asks : r.Asks .post .calculate := ⟨method, Request.path_of_target plain target⟩
  have asker : d.userOf r = .ok user := by
    simp only [userOf, bears, known, mapError_ok]
  have made : d.answerCalculate r = calculate expression := by
    rw [answerCalculate, asker, queryField_of_target plain target]
    rfl
  rw [answer_calculate asks, made]
  exact ⟨respond_map d _ _, d.relays_respond expression⟩

/-- A calculation that is made has a finite value. -/
theorem exists_finite_of_calculate {expression : String} {c : Calculation}
    (h : calculate expression = .ok c) :
    ∃ v, evaluate expression = .ok v ∧ v.isFinite = true ∧ c = ⟨expression, v⟩ := by
  rw [calculate] at h
  split at h
  · next v value =>
      split at h
      · next finite => exact ⟨v, value, finite, (Except.ok.inj h).symm⟩
      · cases h
  · cases h

/-- A success is the document of an answer. -/
theorem exists_ok_of_status_respond {α : Type} {d : Desk} {document : α → Document}
    {answer : Except Refusal (α × Desk)} (h : (d.respond document answer).1.status = .ok) :
    ∃ a next, answer = .ok (a, next) ∧
      (d.respond document answer).1 = documentResponse .ok (document a) := by
  cases answer with
  | ok a => exact ⟨a.1, a.2, rfl, rfl⟩
  | error e => exact absurd h e.status_ne_ok

/-- A success gives the expression that is asked for, and the finite value that it has. -/
theorem gives_of_status {d : Desk} {r : Request} (asks : r.Asks .post .calculate)
    (success : (d.answer r).1.status = .ok) :
    ∃ expression v, Form.field "expression" r.query = .ok expression ∧
      evaluate expression = .ok v ∧ (d.answer r).1.Gives expression v := by
  rw [answer_calculate asks] at success ⊢
  obtain ⟨c, next, answered, response⟩ := exists_ok_of_status_respond success
  obtain ⟨c', made, same⟩ := map_eq_ok_iff.mp answered
  obtain ⟨rfl, -⟩ := Prod.mk.inj same
  obtain ⟨user, -, made⟩ := bind_eq_ok_iff.mp made
  obtain ⟨expression, asked, made⟩ := bind_eq_ok_iff.mp made
  obtain ⟨v, value, finite, rfl⟩ := exists_finite_of_calculate made
  refine ⟨expression, v, (mapError_eq_ok_iff _).mp asked, value, ?_⟩
  rw [response]
  exact gives_document expression finite

/-- Any desk, whatever has been done to it, hands on what the evaluator makes of any
expression, to whoever asks with a good token and writes the expression into the query.
Whatever else the query holds, a success gives the expression that stands there and a
finite value of it. -/
theorem relays_answer (d : Desk) :
    (∀ r expression token user, r.method = .post → r.target = calculationTarget expression →
      tokenOf? r = some token → d.sessions.authenticate token = .ok user →
        (d.answer r).2 = d ∧ (d.answer r).1.Relays expression) ∧
      ∀ r, r.Asks .post .calculate → (d.answer r).1.status = .ok →
        ∃ expression v, Form.field "expression" r.query = .ok expression ∧
          evaluate expression = .ok v ∧ (d.answer r).1.Gives expression v :=
  ⟨fun _ _ _ _ => answer_of_expression, fun _ => gives_of_status⟩

/-- Ann asks for a sum, with blanks around a plus sign. -/
def askSum : Request where
  method := .post
  target := Route.word "/calculate?expression=1+%2B+2"
  headers := [("Authorization", Bearer.credentials (Route.word "user-ann-token"))]

/-- Once Ann has logged in, she is given the sum, and with it what she asked for. -/
theorem relays_answer_sum :
    let start : Desk :=
      { roster := .empty, sessions := ({ password := "pw" } : Sessions).remember "ann" }
    (start.answer askSum).1.Gives "1 + 2" 3.0 ∧
      ∃ expression v, Form.field "expression" askSum.query = .ok expression ∧
        evaluate expression = .ok v ∧ (start.answer askSum).1.Gives expression v := by
  intro start
  have known : start.sessions.authenticate (accessToken "ann") = .ok (User.ofUsername "ann") :=
    Sessions.authenticate_accessToken (Sessions.mem_usernames_remember.mpr (.inl rfl))
  obtain ⟨answered, successes⟩ := start.relays_answer
  obtain ⟨-, relays⟩ :=
    answered askSum "1 + 2" _ _ rfl (by decide +kernel) (by decide +kernel) known
  have gives := relays.value 3.0 (by decide +kernel) (by decide +kernel)
  exact ⟨gives, successes askSum (by decide +kernel) (by rw [gives.written]; rfl)⟩

end Desk

end SchoolDesk
