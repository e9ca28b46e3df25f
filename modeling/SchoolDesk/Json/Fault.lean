import SchoolDesk.Json.Document
import SchoolDesk.Text.Bytes
import SchoolDesk.Text.Quoted

/-!
# What is wrong with a JSON text

A reader goes through the bytes from left to right and stops at the first thing
that is wrong.  A `Cause` says what that is.  Causes fall in three categories.
The text may *end* too early, it may break the *grammar* of JSON, or it may be
JSON of the wrong *content*, such as a number where a text is wanted.

A `Stop` is a cause, the path to the value in which it was found, and the bytes
that are left there.  Causes between values, such as a missing comma or a missing
field, have no path.  Where bytes are left says how far the reader got, so whoever
has the whole text knows the line and the column.  A `Fault` is a cause with its
path and its place in the text.
-/

namespace SchoolDesk.Json

/-- The kinds of what can be wrong. -/
inductive Category where
  /-- JSON of the wrong content. -/
  | content
  /-- No JSON. -/
  | grammar
  /-- The beginning of a JSON text. -/
  | ending
deriving DecidableEq, Repr

/-- The kind of value a reader came upon. -/
inductive Found where
  | null
  | boolean (b : Bool)
  | integer (n : Int)
  | real (x : Float)
  | text (s : String)
  | list
  | object
deriving DecidableEq, Repr

/-- The kind of value a reader wanted. -/
inductive Wanted where
  | text
  | count
  | list
  | record (name : String)
deriving DecidableEq, Repr

/-- The first thing that is wrong with a text. -/
inductive Cause where
  /-- The end where a value should be. -/
  | endInValue
  /-- The end inside an object. -/
  | endInObject
  /-- The end inside a list. -/
  | endInList
  /-- The end inside a text. -/
  | endInText
  /-- A comma before a closing bracket. -/
  | trailingComma
  /-- Something after the value. -/
  | trailingCharacters
  /-- A character with which no value begins. -/
  | expectedValue
  /-- A misspelt `null`, `true` or `false`. -/
  | expectedIdent
  /-- No colon after a key. -/
  | expectedColon
  /-- Neither comma nor bracket after an item. -/
  | expectedCommaOrBracket
  /-- Neither comma nor brace after a member. -/
  | expectedCommaOrBrace
  /-- A key that does not begin with a quote. -/
  | keyNotText
  /-- A number that breaks off or has a needless zero in front. -/
  | invalidNumber
  /-- A number too large for a double. -/
  | numberOutOfRange
  /-- A backslash before something that cannot be escaped. -/
  | invalidEscape
  /-- Half of a surrogate pair in a place where it cannot stand. -/
  | loneSurrogate
  /-- The first half of a surrogate pair, and no escape after it. -/
  | unfinishedPair
  /-- A text whose bytes are no UTF-8. -/
  | invalidCodePoint
  /-- A control character inside a text. -/
  | controlCharacter
  /-- A value of the wrong kind. -/
  | wrongKind (found : Found) (wanted : Wanted)
  /-- An integer that is no count. -/
  | wrongCount (n : Int)
  /-- A list with too few items for a record. -/
  | wrongLength (given : Nat) (record : String) (fields : Nat)
  /-- No member for a field. -/
  | missingField (name : String)
  /-- A second member for a field. -/
  | duplicateField (name : String)
deriving DecidableEq, Repr

/-! ## Wordings -/

/-- A word between backquotes. -/
def ticked (s : String) : String := "`" ++ s ++ "`"

/-- The wording of a double that was found, finite ones only. -/
def realText (x : Float) : String := String.ofList (realLayout.writeFloat x)

/-- The wording of what was found. -/
def Found.message : Found → String
  | .null => "null"
  | .boolean b => "boolean " ++ ticked (if b then "true" else "false")
  | .integer n => "integer " ++ ticked (toString n)
  | .real x => "floating point " ++ ticked (realText x)
  | .text s => "string " ++ Text.quoted s
  | .list => "sequence"
  | .object => "map"

/-- The wording of a field count. -/
def elementsText (n : Nat) : String :=
  if n = 1 then "1 element" else toString n ++ " elements"

/-- The wording of what was wanted. -/
def Wanted.message : Wanted → String
  | .text => "a string"
  | .count => "u32"
  | .list => "a sequence"
  | .record name => "struct " ++ name

namespace Cause

/-- The category of a cause. -/
def category : Cause → Category
  | .endInValue | .endInObject | .endInList | .endInText => .ending
  | .wrongKind .. | .wrongCount _ | .wrongLength .. | .missingField _ | .duplicateField _ =>
      .content
  | _ => .grammar

/-- The wording of a cause. -/
def message : Cause → String
  | .endInValue => "EOF while parsing a value"
  | .endInObject => "EOF while parsing an object"
  | .endInList => "EOF while parsing a list"
  | .endInText => "EOF while parsing a string"
  | .trailingComma => "trailing comma"
  | .trailingCharacters => "trailing characters"
  | .expectedValue => "expected value"
  | .expectedIdent => "expected ident"
  | .expectedColon => "expected " ++ ticked ":"
  | .expectedCommaOrBracket => "expected " ++ ticked "," ++ " or " ++ ticked "]"
  | .expectedCommaOrBrace => "expected " ++ ticked "," ++ " or " ++ ticked "\x7d"
  | .keyNotText => "key must be a string"
  | .invalidNumber => "invalid number"
  | .numberOutOfRange => "number out of range"
  | .invalidEscape => "invalid escape"
  | .loneSurrogate => "lone leading surrogate in hex escape"
  | .unfinishedPair => "unexpected end of hex escape"
  | .invalidCodePoint => "invalid unicode code point"
  | .controlCharacter => "control character (\\u0000-\\u001F) found while parsing a string"
  | .wrongKind found wanted =>
      "invalid type: " ++ found.message ++ ", expected " ++ wanted.message
  | .wrongCount n =>
      "invalid value: integer " ++ ticked (toString n) ++ ", expected " ++ Wanted.count.message
  | .wrongLength given record fields =>
      "invalid length " ++ toString given ++ ", expected " ++ (Wanted.record record).message ++
        " with " ++ elementsText fields
  | .missingField name => "missing field " ++ ticked name
  | .duplicateField name => "duplicate field " ++ ticked name

end Cause

/-! ## Places -/

/-- One step from a value to a value inside it. -/
inductive Step where
  | key (name : String)
  | index (i : Nat)
deriving DecidableEq, Repr

/-- Why a reader stops, the path to the value in which it does, outermost step
first, and the bytes that it leaves.  A byte that was only looked at counts as
read if it is what is wrong. -/
structure Stop where
  path : List Step := []
  cause : Cause
  rest : Bytes
deriving DecidableEq, Repr

/-- A reader stops between values and leaves these bytes. -/
def Stop.before (rest : Bytes) (cause : Cause) : Stop := { cause := cause, rest := rest }

/-- The same stop seen from one value further out. -/
def Stop.inside (e : Stop) (s : Step) : Stop := { e with path := s :: e.path }

/-- A place between two bytes of a text. -/
structure Place where
  /-- The number of the line, from one on. -/
  line : Nat
  /-- How many bytes of the line come before the place. -/
  column : Nat
deriving DecidableEq, Repr

/-- The place behind some bytes. -/
def Place.behind (read : Bytes) : Place where
  line := read.count (Byte.of '\n') + 1
  column := (read.reverse.takeWhile (· ≠ Byte.of '\n')).length

/-- The wording of a place. -/
def Place.message (p : Place) : String :=
  " at line " ++ toString p.line ++ " column " ++ toString p.column

/-- A cause, the path to the value in which it was found, and its place in the
text. -/
structure Fault where
  path : List Step := []
  cause : Cause
  place : Place
deriving DecidableEq, Repr

/-- The fault in a text of which a reader leaves these bytes. -/
def Stop.fault (e : Stop) (text : Bytes) : Fault where
  path := e.path
  cause := e.cause
  place := .behind (text.take (text.length - e.rest.length))

/-- The wording of a path.  Keys are joined by dots and indices stand in
brackets. -/
def pathText : List Step → String
  | [] => ""
  | .index i :: rest => "[" ++ toString i ++ "]" ++ joined rest
  | .key k :: rest => k ++ joined rest
where
  /-- The rest of a path after its first step. -/
  joined : List Step → String
  | [] => ""
  | .index i :: rest => "[" ++ toString i ++ "]" ++ joined rest
  | .key k :: rest => "." ++ k ++ joined rest

/-- The wording of a fault: its cause and its place, with its path in front if it
has one. -/
def Fault.message (f : Fault) : String :=
  let text := f.cause.message ++ f.place.message
  if f.path.isEmpty then text else pathText f.path ++ ": " ++ text

end SchoolDesk.Json
