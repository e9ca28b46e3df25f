/-!
# Why an expression has no value

An `EvalError` is the cause for which an expression is refused.  A division by
zero says that the text was an expression and that its value is undefined.
Every other cause says that the text was malformed.

`message` is the wording shown to the person who typed the expression.
-/

namespace SchoolDesk.Expression

/-- The cause for which an expression is refused. -/
inductive EvalError where
  /-- Two operators side by side, with no operand between them. -/
  | consecutiveOperators (first second : Char)
  /-- A run of digits and dots that is no number. -/
  | invalidNumberFormat (literal : String)
  /-- A closing parenthesis without its opening one, or the other way round. -/
  | mismatchedParentheses
  /-- A character that has no meaning in an expression. -/
  | unknownCharacter (character : Char)
  /-- Two operands and no operator to combine them. -/
  | missingOperator
  /-- An operator that finds fewer than two operands. -/
  | insufficientOperands
  /-- A division whose right operand equals zero. -/
  | divisionByZero
  /-- No operand, or more than one, is left at the end. -/
  | invalidExpression
deriving DecidableEq, Repr, Inhabited

namespace EvalError

/-- The wording of a cause. -/
def message : EvalError → String
  | .consecutiveOperators a b =>
      "Invalid expression: consecutive operators " ++ String.ofList [a, b]
  | .invalidNumberFormat literal => "Invalid number format: " ++ literal
  | .mismatchedParentheses => "Mismatched parentheses"
  | .unknownCharacter c => "Unknown character in expression: " ++ String.singleton c
  | .missingOperator => "Invalid expression: missing operator"
  | .insufficientOperands => "Invalid expression: not enough values for operation"
  | .divisionByZero => "Division by zero"
  | .invalidExpression => "Invalid expression"

/-- The text was an expression and its value is undefined. -/
def isUndefined : EvalError → Bool
  | .divisionByZero => true
  | _ => false

/-- The text was no expression. -/
def isMalformed (e : EvalError) : Bool := !e.isUndefined

theorem isUndefined_iff {e : EvalError} : e.isUndefined = true ↔ e = .divisionByZero := by
  cases e <;> simp [isUndefined]

end EvalError

end SchoolDesk.Expression
