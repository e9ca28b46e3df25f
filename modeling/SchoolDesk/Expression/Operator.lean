/-!
# Binary operators

The four binary operators of an arithmetic expression.  Each has a symbol, a
precedence and a meaning on doubles.  Multiplication and division bind tighter
than addition and subtraction, and operators of one precedence are grouped from
the left.

`ofChar?_symbol` and `symbol_of_ofChar?` say that symbols and operators
correspond one to one.
-/

namespace SchoolDesk.Expression

/-- A binary operator. -/
inductive Operator where
  | add
  | sub
  | mul
  | div
deriving DecidableEq, Repr, Inhabited

namespace Operator

/-- The operator a character stands for. -/
def ofChar? : Char → Option Operator
  | '+' => some .add
  | '-' => some .sub
  | '*' => some .mul
  | '/' => some .div
  | _ => none

/-- The character that stands for an operator. -/
def symbol : Operator → Char
  | .add => '+'
  | .sub => '-'
  | .mul => '*'
  | .div => '/'

/-- How tightly an operator binds.  A higher number binds tighter. -/
def precedence : Operator → Nat
  | .add | .sub => 1
  | .mul | .div => 2

/-- The value of an operator on a left and a right operand.  Division by zero is
a value here too, an infinity or no number. -/
def apply : Operator → Float → Float → Float
  | .add, left, right => left + right
  | .sub, left, right => left - right
  | .mul, left, right => left * right
  | .div, left, right => left / right

@[simp] theorem ofChar?_symbol (o : Operator) : ofChar? o.symbol = some o := by
  cases o <;> rfl

theorem symbol_of_ofChar? {c : Char} {o : Operator} (h : ofChar? c = some o) : o.symbol = c := by
  unfold ofChar? at h
  split at h <;> simp_all [symbol] <;> subst h <;> rfl

end Operator

end SchoolDesk.Expression
