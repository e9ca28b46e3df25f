import SchoolDesk.Decimal.Layout

/-!
# JSON documents

A `Document` is a value that the service writes as JSON: a text, a count, a
double, a list or an object.  An object keeps its members in order.

`write` is the compact form, with no blanks between tokens.  In a text only the
quote, the backslash and the characters below U+0020 are escaped.  Five controls
have a letter of their own and the others are written with four hexadecimal
digits.  A double is written with its shortest digits, plainly from `1e-5` up to
`1e15`.  A double that is not finite has no number in JSON and is written as
`null`.
-/

namespace SchoolDesk.Json

/-- A value written as JSON. -/
inductive Document where
  | text (s : String)
  | count (n : Nat)
  | real (x : Float)
  | list (items : List Document)
  | object (members : List (String × Document))

/-- The letter that stands for a character after a backslash. -/
def escapeLetter? (c : Char) : Option Char :=
  match c with
  | '"' => some '"'
  | '\\' => some '\\'
  | '\x08' => some 'b'
  | '\x0c' => some 'f'
  | '\n' => some 'n'
  | '\r' => some 'r'
  | '\t' => some 't'
  | _ => none

/-- One character of a text. -/
def escape (c : Char) : List Char :=
  match escapeLetter? c with
  | some letter => ['\\', letter]
  | none =>
      if c.toNat < 0x20 then
        ['\\', 'u', '0', '0', Nat.digitChar (c.toNat / 16), Nat.digitChar (c.toNat % 16)]
      else [c]

/-- A text between quotes. -/
def quote (s : String) : List Char := '"' :: s.toList.flatMap escape ++ ['"']

/-- Doubles are plain from `1e-5` up to `1e15`, and an exponent has a sign. -/
def realLayout : Decimal.Layout := { plainFrom := -5, plainTo := 15 }

/-- The number of a finite double, and `null` for the others. -/
def writeReal (x : Float) : List Char :=
  if x.isFinite then realLayout.writeFloat x else ['n', 'u', 'l', 'l']

/-- A document in braces. -/
def braced (s : List Char) : List Char := '\x7b' :: s ++ ['\x7d']

mutual

/-- The compact form of a document. -/
def Document.write : Document → List Char
  | .text s => quote s
  | .count n => Nat.toDigits 10 n
  | .real x => writeReal x
  | .list [] => ['[', ']']
  | .list (d :: ds) => '[' :: d.write ++ writeItems ds ++ [']']
  | .object [] => braced []
  | .object ((name, d) :: ms) => braced (quote name ++ ':' :: d.write ++ writeMembers ms)

/-- The items of a list after the first. -/
def writeItems : List Document → List Char
  | [] => []
  | d :: ds => ',' :: d.write ++ writeItems ds

/-- The members of an object after the first. -/
def writeMembers : List (String × Document) → List Char
  | [] => []
  | (name, d) :: ms => ',' :: quote name ++ ':' :: d.write ++ writeMembers ms

end

/-- The compact form as a text. -/
def Document.toString (d : Document) : String := String.ofList d.write

end SchoolDesk.Json
