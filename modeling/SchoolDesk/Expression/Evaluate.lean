import SchoolDesk.Expression.Machine
import SchoolDesk.Text.Blank

/-!
# The value of an expression

`evaluate` removes the blanks of a text, wherever they stand, and gives the rest
to the two-stack machine.  A text with nothing left is worth zero.  Before the
machine starts, the text is searched for two operators side by side, and the
first such pair is reported whatever else is wrong.
-/

namespace SchoolDesk.Expression

/-- The first two operator symbols that stand side by side. -/
def adjacentOperators? : List Char → Option (Char × Char)
  | a :: b :: rest =>
      if (Operator.ofChar? a).isSome && (Operator.ofChar? b).isSome then some (a, b)
      else adjacentOperators? (b :: rest)
  | _ => none
termination_by structural s => s

/-- The value of a text without blanks. -/
def evaluateStripped (s : List Char) : Except EvalError Float :=
  if s.isEmpty then .ok 0.0
  else match adjacentOperators? s with
    | some (a, b) => .error (.consecutiveOperators a b)
    | none =>
        match ({} : Machine).run (Lexeme.scan s) with
        | .ok m => m.finish
        | .error e => .error e

/-- The value of an expression, or the cause for which it has none. -/
def evaluate (text : String) : Except EvalError Float :=
  evaluateStripped (Text.strip text.toList)

end SchoolDesk.Expression
