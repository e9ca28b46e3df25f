import SchoolDesk.Text.Cut
import SchoolDesk.Text.Utf8

/-!
# Media types

A media type is a type and a subtype with a slash between them, such as
`application/json`.  What follows the last plus sign of the subtype is its
suffix, which names the format that a more special type builds on.  Upper and
lower case are the same.

Parameters may follow, each after a semicolon.  A parameter is a name, an equals
sign and a value, and the value is a word or stands between quotes.  Parameters
do not matter to the type, but they must be well formed.
-/

namespace SchoolDesk.Web

/-- The type of a body, in small letters. -/
structure MediaType where
  kind : Bytes
  /-- The subtype without its suffix. -/
  sub : Bytes
  suffix : Option Bytes := none
deriving DecidableEq, Repr

namespace MediaType

/-- The signs that may stand in a word beside letters and digits. -/
def wordSigns : Bytes := Text.Utf8.encode "!#$%&'*+-.^_`|~"

/-- A byte that may stand in a word. -/
def isWordByte (b : UInt8) : Bool := Byte.isAlphanumeric b || wordSigns.contains b

/-- A byte that may stand between quotes. -/
def isQuotable (b : UInt8) : Bool := 0x20 ≤ b && b ≤ 0x7E

/-! ## Parameters -/

/-- A place in a list of parameters. -/
inductive Place where
  /-- In front of a parameter. -/
  | start
  | inName
  /-- After an equals sign. -/
  | beforeValue
  | inWord
  /-- After an opening quote. -/
  | beforeQuoted
  | inQuotes
  /-- After a closing quote. -/
  | afterQuotes
  /-- After something that cannot stand where it stands. -/
  | broken
deriving DecidableEq, Repr

namespace Place

/-- The place after one more byte.  Between quotes stands at least one byte, and
the first of them may be a quote itself. -/
def step (p : Place) (b : UInt8) : Place :=
  match p with
  | start => if b = Byte.of ' ' then start else if isWordByte b then inName else broken
  | inName => if b = Byte.of '=' then beforeValue else if isWordByte b then inName else broken
  | beforeValue =>
      if b = Byte.of '"' then beforeQuoted else if isWordByte b then inWord else broken
  | inWord => if b = Byte.of ';' then start else if isWordByte b then inWord else broken
  | beforeQuoted => if isQuotable b then inQuotes else broken
  | inQuotes => if b = Byte.of '"' then afterQuotes else if isQuotable b then inQuotes else broken
  | afterQuotes =>
      if b = Byte.of ';' then start else if b = Byte.of ' ' then afterQuotes else broken
  | broken => broken

/-- A place where the list may end.  The last value may be empty. -/
def isEnd : Place → Bool
  | start | beforeValue | inWord | afterQuotes => true
  | inName | beforeQuoted | inQuotes | broken => false

end Place

/-- A list of parameters is well formed. -/
def areParameters (s : Bytes) : Bool := (s.foldl Place.step .start).isEnd

/-! ## Types -/

/-- A subtype and its suffix.  A plus sign in front does not begin a suffix. -/
def cutSuffix (word : Bytes) : Bytes × Option Bytes :=
  match Text.cut (Byte.of '+') word.reverse with
  | (suffix, some (b :: sub)) => ((b :: sub).reverse, some suffix.reverse)
  | _ => (word, none)

/-- The type of two words. -/
def ofWords (kind word : Bytes) : MediaType :=
  let (sub, suffix) := cutSuffix (word.map Byte.toSmall)
  ⟨kind.map Byte.toSmall, sub, suffix⟩

/-- The type that the value of a header spells. -/
def ofValue? (value : Bytes) : Option MediaType :=
  let kind := value.takeWhile isWordByte
  match value.dropWhile isWordByte with
  | [] => none
  | slash :: rest =>
      let word := rest.takeWhile isWordByte
      if kind.isEmpty || word.isEmpty || slash ≠ Byte.of '/' then none
      else
        match rest.dropWhile isWordByte with
        | [] => some (ofWords kind word)
        | b :: parameters =>
            if b = Byte.of ';' && areParameters parameters then some (ofWords kind word) else none

/-- The word `application`. -/
def application : Bytes := Text.Utf8.encode "application"

/-- The word `json`. -/
def json : Bytes := Text.Utf8.encode "json"

/-- A body of this type is JSON. -/
def isJson (t : MediaType) : Bool :=
  t.kind == application && (t.sub == json || t.suffix == some json)

end MediaType

end SchoolDesk.Web
