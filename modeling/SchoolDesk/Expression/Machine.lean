import SchoolDesk.Expression.Error
import SchoolDesk.Expression.Lexeme

/-!
# The two-stack machine

The machine reads the lexemes of an expression once, from the left, and builds no
tree.  It holds a stack of operands and a stack of what is *pending*: operators
whose right operand is not complete, and opening parentheses.

* A literal pushes its value.
* An operator first applies the pending operators on top that bind at least as
  tightly, and is then pending itself.  So operators of one precedence group
  from the left.
* An opening parenthesis is pending until its closing one, which applies
  every operator above it.
* At the end every pending operator is applied, and one operand must be left.

Applying an operator takes its right operand from the top of the stack and its
left operand from below.  A division whose right operand equals zero, of either
sign, stops the machine.

Both stacks are lists with their top first.
-/

namespace SchoolDesk.Expression

/-- What waits on the second stack. -/
inductive Pending where
  | op (o : Operator)
  | openParen
deriving DecidableEq, Repr, Inhabited

/-- The state of the machine between two lexemes. -/
structure Machine where
  /-- The operands, top first. -/
  operands : List Float := []
  /-- The pending operators and opening parentheses, top first. -/
  pending : List Pending := []

namespace Machine

/-- Replaces the two topmost operands by the value of an operator on them. -/
def applyTop (o : Operator) : List Float → Except EvalError (List Float)
  | right :: left :: rest =>
      if o = .div && right == 0.0 then .error .divisionByZero
      else .ok (o.apply left right :: rest)
  | _ => .error .insufficientOperands

/-- Applies the operators on top of the pending stack as long as `due` holds of
them. -/
def unwind (due : Operator → Bool) :
    List Pending → List Float → Except EvalError (List Pending × List Float)
  | .op o :: pending, operands =>
      if due o then
        match applyTop o operands with
        | .ok operands => unwind due pending operands
        | .error e => .error e
      else .ok (.op o :: pending, operands)
  | pending, operands => .ok (pending, operands)
termination_by structural pending => pending

/-- Pushes the value of a literal word. -/
def pushWord (w : List Char) (m : Machine) : Except EvalError Machine :=
  match Literal.value? w with
  | some v => .ok { m with operands := v :: m.operands }
  | none => .error (.invalidNumberFormat (String.ofList w))

/-- Applies the pending operators that bind at least as tightly as `o`, and
leaves `o` pending. -/
def pushOperator (o : Operator) (m : Machine) : Except EvalError Machine :=
  match unwind (fun top => o.precedence ≤ top.precedence) m.pending m.operands with
  | .ok (pending, operands) => .ok ⟨operands, .op o :: pending⟩
  | .error e => .error e

/-- Applies the pending operators down to the opening parenthesis, and drops
it. -/
def closeParen (m : Machine) : Except EvalError Machine :=
  match unwind (fun _ => true) m.pending m.operands with
  | .ok (.openParen :: pending, operands) => .ok ⟨operands, pending⟩
  | .ok _ => .error .mismatchedParentheses
  | .error e => .error e

/-- One lexeme. -/
def step (m : Machine) : Lexeme → Except EvalError Machine
  | .word w => m.pushWord w
  | .openParen => .ok { m with pending := .openParen :: m.pending }
  | .closeParen => m.closeParen
  | .op o => m.pushOperator o
  | .unknown c => .error (.unknownCharacter c)

/-- Every lexeme in turn.  The first error ends the run. -/
def run (m : Machine) : List Lexeme → Except EvalError Machine
  | [] => .ok m
  | t :: ts =>
      match m.step t with
      | .ok m => run m ts
      | .error e => .error e
termination_by structural ts => ts

/-- Applies what is pending and takes the one operand that is left. -/
def finish (m : Machine) : Except EvalError Float :=
  match unwind (fun _ => true) m.pending m.operands with
  | .ok ([], [value]) => .ok value
  | .ok ([], _) => .error .invalidExpression
  | .ok _ => .error .mismatchedParentheses
  | .error e => .error e

end Machine

end SchoolDesk.Expression
