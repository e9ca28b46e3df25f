import SchoolDesk.Log.Level
import SchoolDesk.Log.Pattern
import SchoolDesk.Text.Alphanumeric
import SchoolDesk.Text.Blank
import SchoolDesk.Text.Cut

/-!
# Directives

A directive says how much is shown of some log lines.  It is a level, or it has a
target, a scope in brackets and a level behind an equals sign.  The target is what
the targets of the lines begin with.  The scope names a span, and in braces a field,
which may have a value.  Each part may be missing, and so may the name of the
span.  Without a level everything is shown.

A directive begins with a letter or number of any script, with one of `-`, `:` and
`_`, or with the scope.  The blanks around it do not count, but its parts are
measured without them and taken from the text with them.  So a blank in front moves
every part, and no level behind an equals sign is read any more.
-/

namespace SchoolDesk.Log

/-- A field that a line or span must have, and the pattern of its value if that
matters. -/
structure FieldFilter where
  name : List Char
  value? : Option (List Char)
deriving DecidableEq, Repr

/-- One entry of a filter. -/
structure Directive where
  /-- What the targets begin with. -/
  target? : Option (List Char) := none
  /-- The span in which the lines are. -/
  span? : Option (List Char) := none
  field? : Option FieldFilter := none
  /-- How much is shown. -/
  level : Level := .trace
deriving DecidableEq, Repr

namespace FieldFilter

/-- What stands for one of the float values that are no numbers. -/
def isFloatName (s : List Char) : Bool :=
  ["inf", "infinity", "nan"].contains (String.ofList (s.map Char.toLower))

/-- The digits of a float have been spelled, so that an exponent may follow. -/
def isExponent (s : List Char) : Bool :=
  match s with
  | [] => true
  | e :: rest =>
      let digits := match rest with
        | '+' :: ds => ds
        | '-' :: ds => ds
        | ds => ds
      e.toLower = 'e' && !digits.isEmpty && digits.all Char.isDigit

/-- A float without a sign. -/
def isFloat (s : List Char) : Bool :=
  let whole := s.takeWhile Char.isDigit
  let rest := s.dropWhile Char.isDigit
  match rest with
  | '.' :: rest =>
      let part := rest.takeWhile Char.isDigit
      !(whole ++ part).isEmpty && isExponent (rest.dropWhile Char.isDigit)
  | _ => isFloatName s || (!whole.isEmpty && isExponent rest)

/-- A value that can be looked for.  Only a number has a plus sign that repeats
nothing, and every other number is a pattern of its own. -/
def isValue (s : List Char) : Bool :=
  Pattern.isPattern s ||
    match s with
    | '+' :: number => isFloat number
    | _ => false

/-- The field that a text asks for. -/
def ofText? (s : List Char) : Option FieldFilter :=
  match Text.cut '=' s with
  | (name, none) => some ⟨name, none⟩
  | (name, some rest) =>
      let value := (Text.cut '=' rest).1
      if isValue value then some ⟨name, some value⟩ else none

end FieldFilter

namespace Directive

/-- A character with which a target or level may begin. -/
def isFirst (c : Char) : Bool :=
  c == '-' || c == ':' || c == '_' || Text.isAlphanumeric c

/-- A directive with the level that a text spells, where nothing stands for all. -/
def withLevel? (d : Directive) (s : List Char) : Option Directive :=
  if s.isEmpty then some d else (Level.ofText? s).map fun level => { d with level := level }

/-- A directive that ends behind its scope.  `shape` is what is left without the
blanks around the text, and `s` what is left with them. -/
def ending? (d : Directive) (shape s : List Char) : Option Directive :=
  match shape with
  | [] => some d
  | '=' :: _ => d.withLevel? (s.drop 1)
  | _ => none

/-- The rest of a directive, behind the brace that begins a field. -/
def fieldEnding? (d : Directive) (shape s : List Char) : Option Directive :=
  let n := (shape.takeWhile (· != '\x7d')).length
  match shape.drop n with
  | '\x7d' :: ']' :: rest =>
      if n = 0 then none
      else
        (FieldFilter.ofText? (s.take n)).bind fun field =>
          { d with field? := some field }.ending? rest (s.drop (n + 2))
  | _ => none

/-- The rest of a directive, behind the bracket that begins a scope. -/
def scopeEnding? (d : Directive) (shape s : List Char) : Option Directive :=
  let n := (shape.takeWhile fun c => c != ']' && c != '\x7b').length
  let name := s.take n
  match shape.drop n with
  | [] => none
  | ']' :: rest => { d with span? := some name }.ending? rest (s.drop (n + 1))
  | _ :: rest =>
      { d with span? := if n = 0 then none else some name }.fieldEnding? rest (s.drop (n + 1))

/-- The level that a text spells, or else the target. -/
def ofWord (s : List Char) : Directive :=
  match Level.ofText? s with
  | some level => { level := level }
  | none => { target? := some s }

/-- The directive that a text spells. -/
def ofText? (s : List Char) : Option Directive :=
  let shape := Text.trim s
  match shape with
  | [] => none
  | '[' :: rest => scopeEnding? {} rest (s.drop 1)
  | c :: _ =>
      if isFirst c then
        let n := (shape.takeWhile fun c => c != '=' && c != '[').length
        let d : Directive := { target? := some (s.take n) }
        match shape.drop n with
        | [] => some (ofWord s)
        | '[' :: rest => d.scopeEnding? rest (s.drop (n + 1))
        | _ => d.withLevel? (s.drop (n + 1))
      else none

/-- The directive is about lines.  One with a span or a value is about spans. -/
def isForLines (d : Directive) : Bool :=
  d.span?.isNone && d.field?.all fun f => f.value?.isNone

/-- The directive is about the lines of a target that have some fields. -/
def concerns (d : Directive) (target : List Char) (fields : List (List Char)) : Bool :=
  d.isForLines && d.target?.all (·.isPrefixOf target) &&
    d.field?.all fun f => fields.contains f.name

/-- The directive says less about a line than another: its target is shorter, or as
long and it asks for no field. -/
def isLooserThan (d e : Directive) : Bool :=
  let length (d : Directive) : Nat := (d.target?.map fun t => t.length + 1).getD 0
  length d < length e || (length d = length e && d.field?.isNone && e.field?.isSome)

end Directive

end SchoolDesk.Log
