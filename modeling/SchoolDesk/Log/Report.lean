import SchoolDesk.Log.Level

/-!
# Log reports

What is shown of a log line is its level, its target and its text.  Characters that
a terminal takes for commands are not written as they are: the escape, bell,
backspace, form feed and delete have two hexadecimal digits behind `\x`, and the
controls above ASCII their hexadecimal number in braces behind `\u`.  All other
characters stand for themselves, so a line break in the text begins a new row.
A carriage return in front of a line break belongs to it.
-/

namespace SchoolDesk.Log

/-- The ASCII characters that a terminal takes for commands. -/
def terminalCommands : List Char := ['\x07', '\x08', '\x0c', '\x1b', '\x7f']

/-- One character of a text as it is written in a log. -/
def shownChar (c : Char) : List Char :=
  let digits := Nat.toDigits 16 c.toNat
  if terminalCommands.contains c then
    ['\\', 'x'] ++ List.replicate (2 - digits.length) '0' ++ digits
  else if 0x80 ≤ c.toNat && c.toNat ≤ 0x9F then
    ['\\', 'u', '\x7b'] ++ digits ++ ['\x7d']
  else [c]

/-- A text as it is written in a log. -/
def shownText (s : String) : List Char := s.toList.flatMap shownChar

/-- A row without the carriage return at its end. -/
def withoutReturn (row : List Char) : List Char :=
  if row.getLast? = some '\r' then row.dropLast else row

/-- The rows that a line takes in a log. -/
def rows (level : Level) (target text : String) : List String :=
  let head := (level.name.toUpper ++ " " ++ target ++ ": ").toList
  ((head ++ shownText text).splitOn '\n').map fun row => String.ofList (withoutReturn row)

end SchoolDesk.Log
