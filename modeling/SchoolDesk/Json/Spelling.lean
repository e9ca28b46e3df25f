import SchoolDesk.Json.Record
import Mathlib.Data.List.Forall2

/-!
# The spellings of a JSON text

One value has many texts.  A character of a text may stand for itself or be escaped in one
of several ways, blanks may stand wherever two tokens meet, and the members of an object may
come in any order.  Here the rules of the grammar say which bytes spell what.  No reader has a
part in them.

* `SpellsText` says which bytes spell a given text.  Of a text that nobody asks for, `IsText`
  says only that it is one, and its escapes may be halves of surrogate pairs.
* `Items` and `Members` say how the values in a list and the members in an object are put
  together, and leave open what the values are.
* `IsValue` says which bytes are a value.
* `IsObject` and `IsList` are whole texts, with blanks around them.
* `KeyPlace` and `BracePlace` say where in a text a key or the closing brace ends.

A row is spelt by an object if each member is that of a field and spells its value, or is one
that no field wants (`Row.Allows`), or by a list that spells its values one after the other
(`Row.SpeltBy`).
-/

namespace SchoolDesk.Json

/-- Nothing but blanks. -/
def IsBlanks (s : Bytes) : Prop := ∀ b ∈ s, isBlankByte b = true

instance (s : Bytes) : Decidable (IsBlanks s) :=
  List.decidableBAll (fun b => isBlankByte b = true) s

/-! ## Texts -/

/-- A hexadecimal digit and its number. -/
inductive HexDigit : Nat → UInt8 → Prop where
  | digit {n : Nat} (h : n < 10) : HexDigit n (UInt8.ofNat (0x30 + n))
  | small {n : Nat} (h : n < 6) : HexDigit (10 + n) (UInt8.ofNat (0x61 + n))
  | capital {n : Nat} (h : n < 6) : HexDigit (10 + n) (UInt8.ofNat (0x41 + n))

/-- A UTF-16 unit in four hexadecimal digits. -/
inductive SpellsUnit : Nat → Bytes → Prop where
  | digits {a b c d : Nat} {w x y z : UInt8} (hw : HexDigit a w) (hx : HexDigit b x)
      (hy : HexDigit c y) (hz : HexDigit d z) :
      SpellsUnit (((a * 16 + b) * 16 + c) * 16 + d) [w, x, y, z]

/-- The letters that may follow a backslash, each with the character that it stands for. -/
def escapes : List (Char × Char) :=
  [('"', '"'), ('\\', '\\'), ('/', '/'), ('b', '\x08'), ('f', '\x0C'), ('n', '\n'), ('r', '\r'),
    ('t', '\t')]

/-- An escape with a unit. -/
def unitEscape (digits : Bytes) : Bytes := Byte.of '\\' :: Byte.of 'u' :: digits

/-- The ways to spell a character inside a text. -/
inductive SpellsChar : Char → Bytes → Prop where
  /-- A character stands for itself, unless it is a control character. -/
  | plain {c : Char} (quote : c ≠ '"') (backslash : c ≠ '\\') (printed : 0x20 ≤ c.toNat) :
      SpellsChar c (String.utf8EncodeChar c)
  | letter {letter c : Char} (h : (letter, c) ∈ escapes) :
      SpellsChar c [Byte.of '\\', Byte.of letter]
  | unit {c : Char} {digits : Bytes} (h : SpellsUnit c.toNat digits) :
      SpellsChar c (unitEscape digits)
  /-- A character beyond U+FFFF is a surrogate pair. -/
  | pair {c : Char} {high low : Nat} {first second : Bytes}
      (hh : 0xD800 ≤ high ∧ high ≤ 0xDBFF) (hl : 0xDC00 ≤ low ∧ low ≤ 0xDFFF)
      (number : c.toNat = 0x10000 + (high - 0xD800) * 0x400 + (low - 0xDC00))
      (hf : SpellsUnit high first) (hs : SpellsUnit low second) :
      SpellsChar c (unitEscape first ++ unitEscape second)

/-- Characters, each spelt in its own way. -/
inductive SpellsChars : List Char → Bytes → Prop where
  | nil : SpellsChars [] []
  | cons {c : Char} {cs : List Char} {s t : Bytes} (head : SpellsChar c s)
      (tail : SpellsChars cs t) : SpellsChars (c :: cs) (s ++ t)

/-- A text between quotes. -/
def quoted (inside : Bytes) : Bytes := Byte.of '"' :: (inside ++ [Byte.of '"'])

/-- Bytes that spell a text. -/
def SpellsText (t : String) (s : Bytes) : Prop :=
  ∃ inside, SpellsChars t.toList inside ∧ s = quoted inside

/-- What may stand between quotes if nobody asks what it says. -/
inductive IsInside : Bytes → Prop where
  | nil : IsInside []
  | plain {b : UInt8} {s : Bytes} (quote : b ≠ Byte.of '"') (backslash : b ≠ Byte.of '\\')
      (printed : 0x20 ≤ b) (more : IsInside s) : IsInside (b :: s)
  | letter {letter c : Char} {s : Bytes} (h : (letter, c) ∈ escapes) (more : IsInside s) :
      IsInside (Byte.of '\\' :: Byte.of letter :: s)
  | unit {n : Nat} {digits s : Bytes} (h : SpellsUnit n digits) (more : IsInside s) :
      IsInside (unitEscape digits ++ s)

/-- Bytes that are a text. -/
def IsText (s : Bytes) : Prop := ∃ inside, IsInside inside ∧ s = quoted inside

/-! ## Numbers -/

/-- Digits, and at least one of them. -/
structure IsDigits (s : Bytes) : Prop where
  digits : ∀ b ∈ s, Byte.isDigit b = true
  ne_nil : s ≠ []

/-- The digits in front of a point, without a needless zero. -/
structure IsWhole (s : Bytes) : Prop extends IsDigits s where
  zero : s.head? = some (Byte.of '0') → s = [Byte.of '0']

/-- A point with digits, or nothing. -/
inductive IsFraction : Bytes → Prop where
  | none : IsFraction []
  | digits {ds : Bytes} (h : IsDigits ds) : IsFraction (Byte.of '.' :: ds)

/-- A mark with a sign or without and with digits, or nothing. -/
inductive IsExponent : Bytes → Prop where
  | none : IsExponent []
  | digits {mark : UInt8} {sign ds : Bytes} (hm : mark = Byte.of 'e' ∨ mark = Byte.of 'E')
      (hs : sign = [] ∨ sign = [Byte.of '+'] ∨ sign = [Byte.of '-']) (h : IsDigits ds) :
      IsExponent (mark :: (sign ++ ds))

/-- Bytes that are a number. -/
inductive IsNumber : Bytes → Prop where
  | parts {sign whole fraction exponent : Bytes} (hs : sign = [] ∨ sign = [Byte.of '-'])
      (hw : IsWhole whole) (hf : IsFraction fraction) (he : IsExponent exponent) :
      IsNumber (sign ++ (whole ++ (fraction ++ exponent)))

/-! ## Lists and objects -/

/-- What stands in front of an item or a member: blanks in front of the first, and a comma
with blanks around it in front of the others. -/
inductive Lead : Bool → Bytes → Prop where
  | first {s : Bytes} (hs : IsBlanks s) : Lead true s
  | later {s t : Bytes} (hs : IsBlanks s) (ht : IsBlanks t) :
      Lead false (s ++ Byte.of ',' :: t)

/-- The items of a list, with the bytes of their values, and its closing bracket.  The first
item follows the opening bracket, and the others follow an item. -/
inductive Items : Bool → List Bytes → Bytes → Prop where
  | close (first : Bool) {s : Bytes} (hs : IsBlanks s) : Items first [] (s ++ [Byte.of ']'])
  | item {first : Bool} {lead value more : Bytes} {values : List Bytes} (hl : Lead first lead)
      (hm : Items false values more) : Items first (value :: values) (lead ++ (value ++ more))

/-- A colon with blanks around it. -/
inductive Colon : Bytes → Prop where
  | blanks {s t : Bytes} (hs : IsBlanks s) (ht : IsBlanks t) : Colon (s ++ Byte.of ':' :: t)

/-- The members of an object, with their keys and the bytes of their values, and its closing
brace.  `Key` says how a key is spelt. -/
inductive Members {κ : Type} (Key : κ → Bytes → Prop) : Bool → List (κ × Bytes) → Bytes → Prop
    where
  | close (first : Bool) {s : Bytes} (hs : IsBlanks s) :
      Members Key first [] (s ++ [Byte.of '\x7d'])
  | member {first : Bool} {lead spelt colon value more : Bytes} {key : κ}
      {members : List (κ × Bytes)} (hl : Lead first lead) (hk : Key key spelt)
      (hc : Colon colon) (hm : Members Key false members more) :
      Members Key first ((key, value) :: members) (lead ++ (spelt ++ (colon ++ (value ++ more))))

/-- Bytes that are a value. -/
inductive IsValue : Bytes → Prop where
  | word {w : String} (h : w ∈ ["null", "true", "false"]) : IsValue (w.toList.map Byte.of)
  | number {s : Bytes} (h : IsNumber s) : IsValue s
  | text {s : Bytes} (h : IsText s) : IsValue s
  | list {values : List Bytes} {s : Bytes} (items : Items true values s)
      (each : ∀ v ∈ values, IsValue v) : IsValue (Byte.of '[' :: s)
  | object {members : List (Unit × Bytes)} {s : Bytes}
      (ms : Members (fun _ => IsText) true members s) (each : ∀ m ∈ members, IsValue m.2) :
      IsValue (Byte.of '\x7b' :: s)

/-- A whole text that is an object with some members, keys as texts. -/
inductive IsObject (members : List (String × Bytes)) : Bytes → Prop where
  | blanks {before inside after : Bytes} (hb : IsBlanks before)
      (hi : Members SpellsText true members inside) (ha : IsBlanks after) :
      IsObject members (before ++ Byte.of '\x7b' :: (inside ++ after))

/-- A whole text that is a list with some values. -/
inductive IsList (values : List Bytes) : Bytes → Prop where
  | blanks {before inside after : Bytes} (hb : IsBlanks before) (hi : Items true values inside)
      (ha : IsBlanks after) : IsList values (before ++ Byte.of '[' :: (inside ++ after))

/-! ## Places -/

/-- The place in a text before the colon of a member with some key. -/
inductive KeyPlace (key : String) : Bytes → Place → Prop where
  | colon {front spelt blanks rest : Bytes} (hk : SpellsText key spelt) (hb : IsBlanks blanks) :
      KeyPlace key (front ++ (spelt ++ (blanks ++ Byte.of ':' :: rest)))
        (.behind (front ++ (spelt ++ blanks)))

/-- The place in a text behind the brace with which it ends, blanks apart. -/
inductive BracePlace : Bytes → Place → Prop where
  | blanks {front after : Bytes} (ha : IsBlanks after) :
      BracePlace (front ++ ([Byte.of '\x7d'] ++ after)) (.behind (front ++ [Byte.of '\x7d']))

/-! ## Rows -/

/-- Bytes that spell a value of a kind.  A count has one spelling. -/
def Kind.Spells : (kind : Kind) → kind.Holds → Bytes → Prop
  | .text, t, s => SpellsText t s
  | .count, n, s => s = (Nat.toDigits 10 n.toNat).map Byte.of
  | .texts, ts, s => ∃ values inside, List.Forall₂ SpellsText ts values ∧
      Items true values inside ∧ s = Byte.of '[' :: inside

namespace Row

/-- A field has the name, and the bytes spell its value. -/
def Spells : (fs : List Field) → Row fs → String → Bytes → Prop
  | [], _, _, _ => False
  | f :: fs, (v, row), name, s => f.name = name ∧ f.kind.Spells v s ∨ Spells fs row name s

/-- A member that may stand in an object for the row: that of a field, or one that no field
wants, with any value. -/
def Allows (fs : List Field) (row : Row fs) (m : String × Bytes) : Prop :=
  Spells fs row m.1 m.2 ∨ m.1 ∉ fs.map Field.name ∧ IsValue m.2

/-- The bytes spell the values of the row, one after the other. -/
def SpeltBy : (fs : List Field) → Row fs → List Bytes → Prop
  | [], _, values => values = []
  | f :: fs, (v, row), values =>
      ∃ s more, values = s :: more ∧ f.kind.Spells v s ∧ SpeltBy fs row more

end Row

/-- The keys of members that are names of fields, in the order of the members. -/
def wantedKeys (fs : List Field) (members : List (String × Bytes)) : List String :=
  (members.map Prod.fst).filter (· ∈ fs.map Field.name)

end SchoolDesk.Json
