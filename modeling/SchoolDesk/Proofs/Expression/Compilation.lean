import SchoolDesk.Expression.Program

/-!
# The machine runs the program it never writes down

The two-stack machine applies an operator as soon as it is due.  Compiling only
writes down that it is due, and the program is run afterwards.

Everything that one lexeme does is in `emit`: the instructions it adds, and either
what is pending after it or the fault it stops at.  Operands have no part in it.
Compiling puts these steps together (`compile_cons`), and a step of the machine
runs the instructions of one (`step_eq_emit`).  So the machine agrees with the
program from every state, with the same error where there is one
(`result_eq_runOn`).
-/

namespace SchoolDesk.Expression

/-- What the machine makes of some lexemes and of the end behind them. -/
def Machine.result (m : Machine) (ts : List Lexeme) : Except EvalError Float :=
  match m.run ts with
  | .ok m => m.finish
  | .error e => .error e

namespace Program

/-! ## What one lexeme does -/

/-- The instructions that a lexeme adds, and what is pending after it or the fault
that it is. -/
def emit (pending : List Pending) : Lexeme → List Instruction × Except EvalError (List Pending)
  | .word w =>
      match Literal.value? w with
      | some v => ([.push v], .ok pending)
      | none => ([], .error (.invalidNumberFormat (String.ofList w)))
  | .openParen => ([], .ok (.openParen :: pending))
  | .closeParen =>
      match takeDue (fun _ => true) pending with
      | (is, .openParen :: rest) => (is, .ok rest)
      | (is, _) => (is, .error .mismatchedParentheses)
  | .op o =>
      let (is, rest) := takeDue (fun top => o.precedence ≤ top.precedence) pending
      (is, .ok (.op o :: rest))
  | .unknown c => ([], .error (.unknownCharacter c))

theorem emit_word {w : List Char} {v : Float} (h : Literal.value? w = some v)
    (pending : List Pending) : emit pending (.word w) = ([.push v], .ok pending) := by
  simp only [emit, h]

theorem emit_word_of_none {w : List Char} (h : Literal.value? w = none) (pending : List Pending) :
    emit pending (.word w) = ([], .error (.invalidNumberFormat (String.ofList w))) := by
  simp only [emit, h]

/-- Taking off everything that is due ends at an opening parenthesis, or with
nothing pending. -/
theorem takeDue_all (pending : List Pending) :
    (∃ is, takeDue (fun _ => true) pending = (is, [])) ∨
      ∃ is rest, takeDue (fun _ => true) pending = (is, .openParen :: rest) := by
  induction pending with
  | nil => exact .inl ⟨[], rfl⟩
  | cons p pending ih =>
      cases p with
      | openParen => exact .inr ⟨[], pending, rfl⟩
      | op o =>
          rcases ih with ⟨is, h⟩ | ⟨is, rest, h⟩
          · exact .inl ⟨.apply o :: is, by simp [takeDue, h]⟩
          · exact .inr ⟨.apply o :: is, rest, by simp [takeDue, h]⟩

theorem emit_closeParen {pending rest : List Pending} {is : List Instruction}
    (h : takeDue (fun _ => true) pending = (is, .openParen :: rest)) :
    emit pending .closeParen = (is, .ok rest) := by
  simp only [emit, h]

theorem emit_closeParen_of_nil {pending : List Pending} {is : List Instruction}
    (h : takeDue (fun _ => true) pending = (is, [])) :
    emit pending .closeParen = (is, .error .mismatchedParentheses) := by
  simp only [emit, h]

/-- No lexeme is a division by zero. -/
theorem emit_ne_divisionByZero (pending : List Pending) (t : Lexeme) :
    (emit pending t).2 ≠ .error .divisionByZero := by
  cases t with
  | word w =>
      simp only [emit]
      cases Literal.value? w with
      | some v => simp
      | none => simp
  | openParen => simp [emit]
  | closeParen =>
      rcases takeDue_all pending with ⟨is, h⟩ | ⟨is, rest, h⟩
      · simp [emit_closeParen_of_nil h]
      · simp [emit_closeParen h]
  | op o => simp [emit]
  | unknown c => simp [emit]

/-- Compiling does what each lexeme does, up to the first fault. -/
theorem compile_cons (pending : List Pending) (t : Lexeme) (ts : List Lexeme) :
    compile pending (t :: ts) =
      match (emit pending t).2 with
      | .ok rest => after (emit pending t).1 (compile rest ts)
      | .error fault => ⟨(emit pending t).1, some fault⟩ := by
  cases t with
  | word w =>
      simp only [compile, emit]
      cases Literal.value? w with
      | some v => rfl
      | none => rfl
  | openParen => rfl
  | closeParen =>
      rcases takeDue_all pending with ⟨is, h⟩ | ⟨is, rest, h⟩
      · simp only [compile, emit_closeParen_of_nil h, h]
      · simp only [compile, emit_closeParen h, h]
  | op o => rfl
  | unknown c => rfl

/-- At the end everything pending is applied, and a parenthesis among it is a
fault. -/
theorem compile_nil (pending : List Pending) :
    compile pending [] =
      ⟨(takeDue (fun _ => true) pending).1,
        if (takeDue (fun _ => true) pending).2 = [] then none
        else some .mismatchedParentheses⟩ := by
  rcases takeDue_all pending with ⟨is, h⟩ | ⟨is, rest, h⟩
  · simp [compile, h]
  · simp [compile, h]

/-! ## Running a program part by part -/

/-- The result of a program on a stack that need not be empty. -/
def runOn (p : Program) (operands : List Float) : Except EvalError Float :=
  match exec p.instructions operands, p.fault with
  | .error e, _ => .error e
  | .ok _, some fault => .error fault
  | .ok [v], none => .ok v
  | .ok _, none => .error .invalidExpression

theorem run_eq_runOn (p : Program) : p.run = p.runOn [] := rfl

/-- Instructions in front of a program run before it. -/
theorem runOn_after (is : List Instruction) (p : Program) (operands : List Float) :
    (after is p).runOn operands =
      match exec is operands with
      | .ok operands => p.runOn operands
      | .error e => .error e := by
  simp only [runOn, after, exec_append]
  cases exec is operands with
  | ok operands => rfl
  | error e => rfl

/-- A fault after some instructions counts only if they run through. -/
theorem runOn_fault (is : List Instruction) (fault : EvalError) (operands : List Float) :
    runOn ⟨is, some fault⟩ operands =
      match exec is operands with
      | .ok _ => .error fault
      | .error e => .error e := by
  simp only [runOn]
  cases exec is operands with
  | ok operands => rfl
  | error e => rfl

/-! ## One pass and two phases agree -/

/-- Unwinding is the run of the instructions that are taken off the pending
stack. -/
theorem unwind_eq_exec (due : Operator → Bool) (pending : List Pending) (operands : List Float) :
    Machine.unwind due pending operands =
      match exec (takeDue due pending).1 operands with
      | .ok left => .ok ((takeDue due pending).2, left)
      | .error e => .error e := by
  induction pending generalizing operands with
  | nil => rfl
  | cons p pending ih =>
      cases p with
      | openParen => rfl
      | op o =>
          by_cases h : due o = true
          · simp only [Machine.unwind, takeDue, h, if_true, exec]
            cases Machine.applyTop o operands with
            | ok operands => exact ih operands
            | error e => rfl
          · simp only [Machine.unwind, takeDue, h]
            rfl

/-- A step of the machine runs what its lexeme emits, and then stops at the fault if
the lexeme is one. -/
theorem step_eq_emit (m : Machine) (t : Lexeme) :
    m.step t =
      match exec (emit m.pending t).1 m.operands, (emit m.pending t).2 with
      | .error e, _ => .error e
      | .ok left, .ok rest => .ok ⟨left, rest⟩
      | .ok _, .error fault => .error fault := by
  cases t with
  | word w =>
      simp only [Machine.step, Machine.pushWord, emit]
      cases Literal.value? w with
      | some v => rfl
      | none => rfl
  | openParen => rfl
  | closeParen =>
      simp only [Machine.step, Machine.closeParen, unwind_eq_exec]
      rcases takeDue_all m.pending with ⟨is, h⟩ | ⟨is, rest, h⟩
      · rw [emit_closeParen_of_nil h, h]
        cases exec is m.operands with
        | ok left => rfl
        | error e => rfl
      · rw [emit_closeParen h, h]
        cases exec is m.operands with
        | ok left => rfl
        | error e => rfl
  | op o =>
      simp only [Machine.step, Machine.pushOperator, unwind_eq_exec, emit]
      cases exec (takeDue (fun top => o.precedence ≤ top.precedence) m.pending).1 m.operands with
      | ok left => rfl
      | error e => rfl
  | unknown c => rfl

/-- A step goes well if what its lexeme emits runs through and the lexeme is no fault, and
only then. -/
theorem step_eq_ok_iff {m next : Machine} {t : Lexeme} :
    m.step t = .ok next ↔
      exec (emit m.pending t).1 m.operands = .ok next.operands ∧
        (emit m.pending t).2 = .ok next.pending := by
  rw [step_eq_emit]
  cases exec (emit m.pending t).1 m.operands with
  | error e => simp
  | ok left =>
      cases (emit m.pending t).2 with
      | error e => simp
      | ok rest =>
          obtain ⟨operands, pending⟩ := next
          simp

theorem finish_eq_runOn (m : Machine) : m.finish = (compile m.pending []).runOn m.operands := by
  rw [Machine.finish, unwind_eq_exec]
  rcases takeDue_all m.pending with ⟨is, h⟩ | ⟨is, rest, h⟩
  · simp only [compile, h, runOn]
    cases exec is m.operands with
    | error e => rfl
    | ok left =>
        match left with
        | [] => rfl
        | [v] => rfl
        | _ :: _ :: _ => rfl
  · simp only [compile, h, runOn]
    cases exec is m.operands with
    | error e => rfl
    | ok left => rfl

theorem result_cons (m : Machine) (t : Lexeme) (ts : List Lexeme) :
    m.result (t :: ts) =
      match m.step t with
      | .ok m => m.result ts
      | .error e => .error e := by
  simp only [Machine.result, Machine.run]
  cases m.step t with
  | ok m => rfl
  | error e => rfl

/-- From every state the machine gives what the program of the lexemes gives. -/
theorem result_eq_runOn (m : Machine) (ts : List Lexeme) :
    m.result ts = (compile m.pending ts).runOn m.operands := by
  induction ts generalizing m with
  | nil => exact finish_eq_runOn m
  | cons t ts ih =>
      rw [result_cons, step_eq_emit, compile_cons]
      cases (emit m.pending t).2 with
      | ok rest =>
          rw [runOn_after]
          cases exec (emit m.pending t).1 m.operands with
          | ok left => exact ih ⟨left, rest⟩
          | error e => rfl
      | error fault =>
          rw [runOn_fault]
          cases exec (emit m.pending t).1 m.operands with
          | ok left => rfl
          | error e => rfl

theorem evaluateStripped_eq (s : List Char) :
    SchoolDesk.Expression.evaluateStripped s = evaluateStripped s := by
  rw [SchoolDesk.Expression.evaluateStripped, evaluateStripped]
  by_cases blank : s.isEmpty = true
  · rw [if_pos blank, if_pos blank]
  · rw [if_neg blank, if_neg blank]
    cases adjacentOperators? s with
    | some pair => rfl
    | none => exact (result_eq_runOn {} (Lexeme.scan s)).trans (run_eq_runOn _).symm

end Program

end SchoolDesk.Expression
