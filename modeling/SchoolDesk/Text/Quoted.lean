import SchoolDesk.Text.Unprinted

/-!
# Quoted texts

A text inside a message stands between quotes, so that its ends can be seen.
Quote and backslash are written after a backslash.  A control that has a letter
is written as backslash and letter, and every other unprinted character as its
hexadecimal number in braces.  All other characters stand for themselves.
-/

namespace SchoolDesk.Text

/-- The letter that stands for a character after a backslash. -/
def escapeLetter? (c : Char) : Option Char :=
  match c with
  | '\x00' => some '0'
  | '\t' => some 't'
  | '\r' => some 'r'
  | '\n' => some 'n'
  | '"' => some '"'
  | '\\' => some '\\'
  | _ => none

/-- One character inside quotes. -/
def quotedChar (c : Char) : List Char :=
  match escapeLetter? c with
  | some letter => ['\\', letter]
  | none =>
      if isUnprinted c then
        ['\\', 'u', '\x7b'] ++ Nat.toDigits 16 c.toNat ++ ['\x7d']
      else [c]

/-- A text between quotes. -/
def quoted (s : String) : String :=
  String.ofList ('"' :: s.toList.flatMap quotedChar ++ ['"'])

end SchoolDesk.Text
