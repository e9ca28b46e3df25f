import SchoolDesk.Expression.Literal
import SchoolDesk.Expression.Operator

/-!
# Lexemes of an expression

A lexeme is a literal word, a parenthesis, an operator, or a character that has
no meaning in an expression.  `scan` reads a text from the right and gives each
character to the lexemes of what follows it.  A digit or dot joins the literal
word it touches, so every word is as long as it can be.

No character is lost or moved: `text_scan` says that the lexemes of a text, written
one after the other, are the text.
-/

namespace SchoolDesk.Expression

/-- One lexeme of an expression. -/
inductive Lexeme where
  /-- A run of digits and dots. -/
  | word (chars : List Char)
  | openParen
  | closeParen
  | op (o : Operator)
  /-- A character with no meaning. -/
  | unknown (c : Char)
deriving DecidableEq, Repr, Inhabited

namespace Lexeme

/-- The characters of a lexeme. -/
def text : Lexeme → List Char
  | .word w => w
  | .openParen => ['(']
  | .closeParen => [')']
  | .op o => [o.symbol]
  | .unknown c => [c]

/-- The lexeme of one character that belongs to no literal word. -/
def ofChar (c : Char) : Lexeme :=
  if c = '(' then .openParen
  else if c = ')' then .closeParen
  else match Operator.ofChar? c with
    | some o => .op o
    | none => .unknown c

/-- Puts a character in front of the lexemes of what follows it. -/
def cons (c : Char) (rest : List Lexeme) : List Lexeme :=
  if Literal.isWordChar c then
    match rest with
    | .word w :: more => .word (c :: w) :: more
    | _ => .word [c] :: rest
  else ofChar c :: rest

/-- The lexemes of a text. -/
def scan (s : List Char) : List Lexeme := s.foldr cons []

@[simp] theorem scan_nil : scan [] = [] := rfl

@[simp] theorem scan_cons (c : Char) (s : List Char) : scan (c :: s) = cons c (scan s) := rfl

@[simp] theorem text_ofChar (c : Char) : (ofChar c).text = [c] := by
  unfold ofChar
  split
  · simp_all [text]
  · split
    · simp_all [text]
    · split
      · rename_i o h
        simp [text, Operator.symbol_of_ofChar? h]
      · simp [text]

theorem text_cons (c : Char) (rest : List Lexeme) :
    (cons c rest).flatMap text = c :: rest.flatMap text := by
  unfold cons
  split
  · split <;> simp [text]
  · simp

theorem text_scan (s : List Char) : (scan s).flatMap text = s := by
  induction s with
  | nil => rfl
  | cons c s ih => rw [scan_cons, text_cons, ih]

end Lexeme

end SchoolDesk.Expression
