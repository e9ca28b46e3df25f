import SchoolDesk.Expression.Evaluate

/-!
# Programs of an expression

The operands of an expression play no part in the order in which its operators
are applied.  So an expression can be turned into a program first, a list of
instructions for one stack, and the program can be run afterwards.

Compiling looks at the lexemes once and keeps what is pending.  It may stop at a
fault, and the program up to there is run all the same.  What goes wrong in the
run comes first, and the fault of the compiler comes after it.

`exec_append` says that programs run one after the other.
-/

namespace SchoolDesk.Expression

/-- One instruction for the stack of operands. -/
inductive Instruction where
  | push (v : Float)
  /-- Takes two operands and pushes the value of an operator on them. -/
  | apply (o : Operator)
deriving Repr

/-- What compiling an expression gives. -/
structure Program where
  instructions : List Instruction
  /-- Where compiling stopped, unless it came to the end. -/
  fault : Option EvalError := none

namespace Program

/-- Puts instructions in front of a program. -/
def after (instructions : List Instruction) (p : Program) : Program :=
  { p with instructions := instructions ++ p.instructions }

/-- The operators on top that are due, and what stays pending below them. -/
def takeDue (due : Operator → Bool) : List Pending → List Instruction × List Pending
  | .op o :: pending =>
      if due o then
        let (instructions, rest) := takeDue due pending
        (.apply o :: instructions, rest)
      else ([], .op o :: pending)
  | pending => ([], pending)
termination_by structural pending => pending

/-- The program of some lexemes, with something pending in front of them. -/
def compile (pending : List Pending) : List Lexeme → Program
  | [] =>
      match takeDue (fun _ => true) pending with
      | (instructions, []) => { instructions := instructions }
      | (instructions, _) => ⟨instructions, some .mismatchedParentheses⟩
  | .word w :: ts =>
      match Literal.value? w with
      | some v => after [.push v] (compile pending ts)
      | none => ⟨[], some (.invalidNumberFormat (String.ofList w))⟩
  | .openParen :: ts => compile (.openParen :: pending) ts
  | .closeParen :: ts =>
      match takeDue (fun _ => true) pending with
      | (instructions, .openParen :: rest) => after instructions (compile rest ts)
      | (instructions, _) => ⟨instructions, some .mismatchedParentheses⟩
  | .op o :: ts =>
      let (instructions, rest) := takeDue (fun top => o.precedence ≤ top.precedence) pending
      after instructions (compile (.op o :: rest) ts)
  | .unknown c :: _ => ⟨[], some (.unknownCharacter c)⟩
termination_by structural ts => ts

/-- Runs instructions on a stack of operands. -/
def exec : List Instruction → List Float → Except EvalError (List Float)
  | [], operands => .ok operands
  | .push v :: is, operands => exec is (v :: operands)
  | .apply o :: is, operands =>
      match Machine.applyTop o operands with
      | .ok operands => exec is operands
      | .error e => .error e
termination_by structural is => is

/-- The result of a program. -/
def run (p : Program) : Except EvalError Float :=
  match exec p.instructions [], p.fault with
  | .error e, _ => .error e
  | .ok _, some fault => .error fault
  | .ok [v], none => .ok v
  | .ok _, none => .error .invalidExpression

/-- The value of a text without blanks, by compiling it first. -/
def evaluateStripped (s : List Char) : Except EvalError Float :=
  if s.isEmpty then .ok 0.0
  else match adjacentOperators? s with
    | some (a, b) => .error (.consecutiveOperators a b)
    | none => (compile [] (Lexeme.scan s)).run

theorem exec_append (is js : List Instruction) (operands : List Float) :
    exec (is ++ js) operands =
      match exec is operands with
      | .ok operands => exec js operands
      | .error e => .error e := by
  induction is generalizing operands with
  | nil => rfl
  | cons i is ih =>
    cases i with
    | push v => exact ih (v :: operands)
    | apply o =>
      simp only [List.cons_append, exec]
      cases Machine.applyTop o operands with
      | ok operands => exact ih operands
      | error e => rfl

end Program

end SchoolDesk.Expression
