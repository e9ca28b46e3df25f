import SchoolDesk.Expression.Evaluate

/-!
# The machine with its guards

To apply the operator on top of the pending stack takes an operator there and two
operands.  A machine can look at the top first, and then apply it by an operation that
trusts nothing and checks all of this again: that something is pending, that there are two
operands, and that what is pending is an operator.  Every check has a cause of its own to
report.

The guarded machine is written so.  `unwind` looks at the top and calls `applyTop`, which
checks the whole state.  Since `unwind` calls it with an operator on top only, the checks
of what is pending never fail, and the guarded machine is the machine without them
(`evaluate_eq`).
-/

namespace SchoolDesk.Expression.Guarded

/-- Takes an operator and two operands off the stacks and pushes the value, with
everything checked that can go wrong. -/
def applyTop (m : Machine) : Except EvalError Machine :=
  if m.pending.isEmpty then .error .missingOperator
  else match m.operands with
    | right :: left :: operands =>
        match m.pending with
        | .op o :: pending =>
            if o = .div && right == 0.0 then .error .divisionByZero
            else .ok ⟨o.apply left right :: operands, pending⟩
        | .openParen :: _ => .error .mismatchedParentheses
        | [] => .error .missingOperator
    | _ => .error .insufficientOperands

/-- With an operator on top the guards of what is pending pass. -/
theorem applyTop_op (o : Operator) (pending : List Pending) (operands : List Float) :
    applyTop ⟨operands, .op o :: pending⟩ =
      match Machine.applyTop o operands with
      | .ok operands => .ok ⟨operands, pending⟩
      | .error e => .error e := by
  match operands with
  | [] => rfl
  | [_] => rfl
  | right :: left :: operands =>
      by_cases zero : (o = .div && right == 0.0) = true
      · simp [applyTop, Machine.applyTop, zero]
      · simp [applyTop, Machine.applyTop, zero]

/-- An application takes what is on top off the pending stack, or fails. -/
theorem pending_applyTop {m next : Machine} (h : applyTop m = .ok next) :
    ∃ o, m.pending = .op o :: next.pending := by
  obtain ⟨operands, pending⟩ := m
  match pending, operands with
  | [], _ => cases h
  | _ :: _, [] => cases h
  | _ :: _, [_] => cases h
  | .openParen :: _, _ :: _ :: _ => cases h
  | .op o :: pending, right :: left :: operands =>
      rw [applyTop_op] at h
      split at h
      · cases h
        exact ⟨o, rfl⟩
      · cases h

/-- Applies what is on top as long as it is an operator of which `due` holds. -/
def unwind (due : Operator → Bool) (m : Machine) : Except EvalError Machine :=
  match m.pending with
  | .op o :: _ =>
      if due o then
        match _h : applyTop m with
        | .ok next => unwind due next
        | .error e => .error e
      else .ok m
  | _ => .ok m
termination_by m.pending.length
decreasing_by
  obtain ⟨o, same⟩ := pending_applyTop _h
  rw [same]
  exact Nat.lt_succ_self _

/-- Resolves the pending operators that bind at least as tightly, and pushes one. -/
def pushOperator (o : Operator) (m : Machine) : Except EvalError Machine :=
  match unwind (fun top => o.precedence ≤ top.precedence) m with
  | .ok m => .ok { m with pending := .op o :: m.pending }
  | .error e => .error e

/-- Unwinds to an opening parenthesis and drops it. -/
def closeParen (m : Machine) : Except EvalError Machine :=
  match unwind (fun _ => true) m with
  | .ok ⟨operands, .openParen :: pending⟩ => .ok ⟨operands, pending⟩
  | .ok _ => .error .mismatchedParentheses
  | .error e => .error e

/-- One lexeme. -/
def step (m : Machine) : Lexeme → Except EvalError Machine
  | .word w => m.pushWord w
  | .openParen => .ok { m with pending := .openParen :: m.pending }
  | .closeParen => closeParen m
  | .op o => pushOperator o m
  | .unknown c => .error (.unknownCharacter c)

/-- Unwinds what is left and takes the one operand. -/
def finish (m : Machine) : Except EvalError Float :=
  match unwind (fun _ => true) m with
  | .ok ⟨[value], []⟩ => .ok value
  | .ok ⟨_, []⟩ => .error .invalidExpression
  | .ok _ => .error .mismatchedParentheses
  | .error e => .error e

/-- Every lexeme in turn, and then what is left.  The first error ends the run. -/
def run (m : Machine) : List Lexeme → Except EvalError Float
  | [] => finish m
  | t :: ts =>
      match step m t with
      | .ok m => run m ts
      | .error e => .error e
termination_by structural ts => ts

/-- The value of an expression, or the cause for which it has none. -/
def evaluate (text : String) : Except EvalError Float :=
  let s := Text.strip text.toList
  if s.isEmpty then .ok 0.0
  else match adjacentOperators? s with
    | some (a, b) => .error (.consecutiveOperators a b)
    | none => run {} (Lexeme.scan s)

/-! ## The guards never fail -/

/-- With an operator on top, unwinding applies it if it is due, and goes on. -/
theorem unwind_op (due : Operator → Bool) (o : Operator) (pending : List Pending)
    (operands : List Float) :
    unwind due ⟨operands, .op o :: pending⟩ =
      if due o then
        match Machine.applyTop o operands with
        | .ok operands => unwind due ⟨operands, pending⟩
        | .error e => .error e
      else .ok ⟨operands, .op o :: pending⟩ := by
  have top := applyTop_op o pending operands
  rw [unwind]
  show (if due o then _ else _) = _
  congr 1
  split
  · next next same =>
      rw [top] at same
      split at same
      · cases same
        rfl
      · cases same
  · next e same =>
      rw [top] at same
      split at same
      · cases same
      · cases same
        rfl

theorem unwind_eq (due : Operator → Bool) (pending : List Pending) (operands : List Float) :
    unwind due ⟨operands, pending⟩ =
      match Machine.unwind due pending operands with
      | .ok (pending, operands) => .ok ⟨operands, pending⟩
      | .error e => .error e := by
  induction pending generalizing operands with
  | nil =>
      rw [unwind]
      rfl
  | cons p pending ih =>
      cases p with
      | openParen =>
          rw [unwind]
          rfl
      | op o =>
          rw [unwind_op, Machine.unwind]
          by_cases h : due o = true
          · rw [if_pos h, if_pos h]
            cases Machine.applyTop o operands with
            | ok left => exact ih left
            | error e => rfl
          · rw [if_neg h, if_neg h]

theorem step_eq (m : Machine) (t : Lexeme) : step m t = m.step t := by
  cases t with
  | word w => rfl
  | openParen => rfl
  | closeParen =>
      rw [step, closeParen, Machine.step, Machine.closeParen, unwind_eq]
      cases Machine.unwind (fun _ => true) m.pending m.operands with
      | error e => rfl
      | ok left =>
          obtain ⟨pending, operands⟩ := left
          cases pending with
          | nil => rfl
          | cons p pending =>
              cases p with
              | op o => rfl
              | openParen => rfl
  | op o =>
      rw [step, pushOperator, Machine.step, Machine.pushOperator, unwind_eq]
      cases Machine.unwind (fun top => o.precedence ≤ top.precedence) m.pending m.operands with
      | error e => rfl
      | ok left => rfl
  | unknown c => rfl

theorem finish_eq (m : Machine) : finish m = m.finish := by
  rw [finish, Machine.finish, unwind_eq]
  cases Machine.unwind (fun _ => true) m.pending m.operands with
  | error e => rfl
  | ok left =>
      rcases left with ⟨_ | ⟨p, pending⟩, _ | ⟨v, _ | ⟨w, operands⟩⟩⟩ <;> rfl

theorem run_eq (m : Machine) (ts : List Lexeme) :
    run m ts =
      match m.run ts with
      | .ok m => m.finish
      | .error e => .error e := by
  induction ts generalizing m with
  | nil => exact finish_eq m
  | cons t ts ih =>
      rw [run, Machine.run, step_eq]
      cases m.step t with
      | ok next => exact ih next
      | error e => rfl

/-- The guarded machine gives what the machine gives. -/
theorem evaluate_eq (text : String) : evaluate text = Expression.evaluate text := by
  rw [evaluate, Expression.evaluate, evaluateStripped]
  by_cases blank : (Text.strip text.toList).isEmpty = true
  · rw [if_pos blank, if_pos blank]
  · rw [if_neg blank, if_neg blank]
    cases adjacentOperators? (Text.strip text.toList) with
    | some pair => rfl
    | none => exact run_eq {} (Lexeme.scan (Text.strip text.toList))

end SchoolDesk.Expression.Guarded
