import SchoolDesk.Expression.Literal
import SchoolDesk.Expression.Operator

/-!
# The grammar of expressions

An infix expression is a sum of products of factors.  A factor is a literal or a
sum in parentheses.  A product is a factor, or a product, an operator that binds
tightly, and a factor.  A sum is a product, or a sum, an operator that binds
loosely, and a product.  So operators of one precedence group from the left.

An `Expr` is one way to derive a text from the grammar.  Its `text` is what was
derived, without blanks.  Its `value` is computed along the derivation, and there
is none if a division has a right operand that equals zero.
-/

namespace SchoolDesk.Expression

/-- The layers of the grammar, the one that binds loosest first. -/
inductive Layer where
  | sum
  | product
  | factor
deriving DecidableEq, Repr

/-- A derivation of an expression of some layer. -/
inductive Expr : Layer → Type where
  | literal (word : List Char) (isWord : word.all Literal.isWordChar = true)
      (isNumber : Literal.isNumber word = true) : Expr .factor
  | group (e : Expr .sum) : Expr .factor
  | ofFactor (e : Expr .factor) : Expr .product
  | product (left : Expr .product) (o : Operator) (tight : o.precedence = 2)
      (right : Expr .factor) : Expr .product
  | ofProduct (e : Expr .product) : Expr .sum
  | sum (left : Expr .sum) (o : Operator) (loose : o.precedence = 1)
      (right : Expr .product) : Expr .sum

namespace Expr

/-- The text that was derived. -/
def text {l : Layer} : Expr l → List Char
  | .literal word _ _ => word
  | .group e => '(' :: e.text ++ [')']
  | .ofFactor e => e.text
  | .product left o _ right => left.text ++ o.symbol :: right.text
  | .ofProduct e => e.text
  | .sum left o _ right => left.text ++ o.symbol :: right.text

/-- The value of an operator on two operands, unless it divides by zero. -/
def combine (o : Operator) (left right : Float) : Option Float :=
  if o = .div && right == 0.0 then none else some (o.apply left right)

/-- The value of an expression, unless something in it is divided by zero. -/
def value {l : Layer} : Expr l → Option Float
  | .literal word _ _ => Literal.value? word
  | .group e => e.value
  | .ofFactor e => e.value
  | .product left o _ right => do combine o (← left.value) (← right.value)
  | .ofProduct e => e.value
  | .sum left o _ right => do combine o (← left.value) (← right.value)

theorem text_ne_nil {l : Layer} (e : Expr l) : e.text ≠ [] := by
  induction e with
  | literal word isWord isNumber =>
    rintro h
    simp only [text] at h
    simp [h, Literal.isNumber] at isNumber
  | group e ih => simp [text]
  | ofFactor e ih => exact ih
  | product left o tight right ihl ihr => simp [text]
  | ofProduct e ih => exact ih
  | sum left o loose right ihl ihr => simp [text]

end Expr

/-- A text without blanks that the grammar derives. -/
def IsExpression (s : List Char) : Prop := ∃ e : Expr .sum, e.text = s

end SchoolDesk.Expression
