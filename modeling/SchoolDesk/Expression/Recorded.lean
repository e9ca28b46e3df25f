import SchoolDesk.Expression.Guarded

/-!
# The guarded machine on record

How often the guarded machine applies an operator, and what its stacks are at these
moments, cannot be seen in what it gives.  The recorded machine does the same and keeps
a record: the state in which it calls for an application is written down with each call,
whether the application goes well or not.  An operation that calls for none leaves the
record empty, and operations one after the other leave their records one after the other.

`result_evaluate` says that a text gets the value or the cause that it gets without a
record.
-/

namespace SchoolDesk.Expression

/-- What an operation of the guarded machine gives, with the states in which it calls for
an application, the first one first. -/
structure Recorded (α : Type) where
  calls : List Machine := []
  result : Except EvalError α

namespace Recorded

variable {α β : Type}

/-- The same after some calls. -/
def after (calls : List Machine) (x : Recorded α) : Recorded α :=
  ⟨calls ++ x.calls, x.result⟩

/-- One operation and then another.  An error ends both. -/
def bind (x : Recorded α) (next : α → Recorded β) : Recorded β :=
  match x.result with
  | .ok a => (next a).after x.calls
  | .error e => ⟨x.calls, .error e⟩

/-- The application of what is on top, a call that is written down with the state it is made
in, whatever that state is. -/
def applyTop (m : Machine) : Recorded Machine := ⟨[m], Guarded.applyTop m⟩

/-- Applies what is on top as long as it is an operator of which `due` holds. -/
def unwind (due : Operator → Bool) (m : Machine) : Recorded Machine :=
  match m.pending with
  | .op o :: _ =>
      if due o then
        match _h : (applyTop m).result with
        | .ok next => (unwind due next).after (applyTop m).calls
        | .error e => ⟨(applyTop m).calls, .error e⟩
      else { result := .ok m }
  | _ => { result := .ok m }
termination_by m.pending.length
decreasing_by
  obtain ⟨o, same⟩ := Guarded.pending_applyTop _h
  rw [same]
  exact Nat.lt_succ_self _

/-- Resolves the pending operators that bind at least as tightly, and pushes one. -/
def pushOperator (o : Operator) (m : Machine) : Recorded Machine :=
  (unwind (fun top => o.precedence ≤ top.precedence) m).bind fun m =>
    { result := .ok { m with pending := .op o :: m.pending } }

/-- Unwinds to an opening parenthesis and drops it. -/
def closeParen (m : Machine) : Recorded Machine :=
  (unwind (fun _ => true) m).bind fun m =>
    match m with
    | ⟨operands, .openParen :: pending⟩ => { result := .ok ⟨operands, pending⟩ }
    | _ => { result := .error .mismatchedParentheses }

/-- One lexeme. -/
def step (m : Machine) : Lexeme → Recorded Machine
  | .word w => { result := m.pushWord w }
  | .openParen => { result := .ok { m with pending := .openParen :: m.pending } }
  | .closeParen => closeParen m
  | .op o => pushOperator o m
  | .unknown c => { result := .error (.unknownCharacter c) }

/-- Unwinds what is left and takes the one operand. -/
def finish (m : Machine) : Recorded Float :=
  (unwind (fun _ => true) m).bind fun m =>
    match m with
    | ⟨[value], []⟩ => { result := .ok value }
    | ⟨_, []⟩ => { result := .error .invalidExpression }
    | _ => { result := .error .mismatchedParentheses }

/-- Every lexeme in turn, and then what is left.  The first error ends the run. -/
def run (m : Machine) : List Lexeme → Recorded Float
  | [] => finish m
  | t :: ts => (step m t).bind fun m => run m ts
termination_by structural ts => ts

/-- The value of an expression, or the cause for which it has none. -/
def evaluate (text : String) : Recorded Float :=
  let s := Text.strip text.toList
  if s.isEmpty then { result := .ok 0.0 }
  else match adjacentOperators? s with
    | some (a, b) => { result := .error (.consecutiveOperators a b) }
    | none => run {} (Lexeme.scan s)

/-! ## The record changes nothing -/

theorem result_bind (x : Recorded α) (next : α → Recorded β) :
    (x.bind next).result =
      match x.result with
      | .ok a => (next a).result
      | .error e => .error e := by
  unfold bind
  cases x.result with
  | ok a => rfl
  | error e => rfl

theorem result_unwind (due : Operator → Bool) (m : Machine) :
    (unwind due m).result = Guarded.unwind due m := by
  fun_induction unwind due m with
  | case1 m o below top isDue next applied ih =>
      rw [Guarded.unwind]
      simp only [top, if_pos isDue]
      split
      · next next' same =>
          cases applied.symm.trans same
          exact ih
      · next e same =>
          cases applied.symm.trans same
  | case2 m o below top isDue e failed =>
      rw [Guarded.unwind]
      simp only [top, if_pos isDue]
      split
      · next next' same =>
          cases failed.symm.trans same
      · next e' same => exact failed.symm.trans same
  | case3 m o below top notDue =>
      rw [Guarded.unwind]
      simp only [top, if_neg notDue]
  | case4 m other =>
      rw [Guarded.unwind]
      split
      · next o below top => exact absurd top (other o below)
      · rfl

theorem result_pushOperator (o : Operator) (m : Machine) :
    (pushOperator o m).result = Guarded.pushOperator o m := by
  rw [pushOperator, result_bind, result_unwind, Guarded.pushOperator]
  cases Guarded.unwind (fun top => o.precedence ≤ top.precedence) m with
  | error e => rfl
  | ok next => rfl

theorem result_closeParen (m : Machine) : (closeParen m).result = Guarded.closeParen m := by
  rw [closeParen, result_bind, result_unwind, Guarded.closeParen]
  cases Guarded.unwind (fun _ => true) m with
  | error e => rfl
  | ok next =>
      rcases next with ⟨operands, _ | ⟨_ | _, pending⟩⟩ <;> rfl

theorem result_step (m : Machine) (t : Lexeme) : (step m t).result = Guarded.step m t := by
  cases t with
  | word w => rfl
  | openParen => rfl
  | closeParen => exact result_closeParen m
  | op o => exact result_pushOperator o m
  | unknown c => rfl

theorem result_finish (m : Machine) : (finish m).result = Guarded.finish m := by
  rw [finish, result_bind, result_unwind, Guarded.finish]
  cases Guarded.unwind (fun _ => true) m with
  | error e => rfl
  | ok next =>
      rcases next with ⟨_ | ⟨v, _ | ⟨w, operands⟩⟩, _ | ⟨p, pending⟩⟩ <;> rfl

theorem result_run (m : Machine) (ts : List Lexeme) : (run m ts).result = Guarded.run m ts := by
  induction ts generalizing m with
  | nil => exact result_finish m
  | cons t ts ih =>
      rw [run, result_bind, result_step, Guarded.run]
      cases Guarded.step m t with
      | error e => rfl
      | ok next => exact ih next

/-- The recorded machine gives what the machine gives. -/
theorem result_evaluate (text : String) : (evaluate text).result = Expression.evaluate text := by
  rw [← Guarded.evaluate_eq, evaluate, Guarded.evaluate]
  by_cases blank : (Text.strip text.toList).isEmpty = true
  · rw [if_pos blank, if_pos blank]
  · rw [if_neg blank, if_neg blank]
    cases adjacentOperators? (Text.strip text.toList) with
    | some pair => rfl
    | none => exact result_run {} (Lexeme.scan (Text.strip text.toList))

end Recorded

end SchoolDesk.Expression
