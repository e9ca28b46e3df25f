import SchoolDesk.Text.Bytes
import SchoolDesk.Text.Utf8

/-!
# Ranges of bytes

Somebody may ask for parts of a text instead of the whole.  The ranges stand behind
`bytes=` with commas between them.  A range is a first and a last place with a dash
between them, a first place alone, or the length of what is wanted of the end.
Places are counted from zero and both ends belong to a range.  A number has no
needless zero in front and fits into sixty-four bits.

A range may have one blank in front, other than the first range, and no others.

A range is satisfied if it begins in the text and not behind its own end.  What it
asks for behind the text is left out.  Of the end no more can be asked for than there
is.
-/

namespace SchoolDesk.Web

/-- A part of a text that somebody asks for. -/
inductive ByteRange where
  /-- From one place to another, or to the end. -/
  | places (first : Nat) (last? : Option Nat)
  /-- So many bytes of the end. -/
  | ending (length : Nat)
deriving DecidableEq, Repr

/-- The bytes of a text from one place to another, both included. -/
structure Extent where
  first : Nat
  last : Nat
deriving DecidableEq, Repr

namespace Extent

/-- The bytes themselves. -/
def of (e : Extent) (text : Bytes) : Bytes := (text.drop e.first).take (e.last + 1 - e.first)

/-- Two extents have no byte in common. -/
def IsApart (a b : Extent) : Prop := a.last < b.first ∨ b.last < a.first

instance (a b : Extent) : Decidable (a.IsApart b) :=
  inferInstanceAs (Decidable (a.last < b.first ∨ b.last < a.first))

end Extent

namespace ByteRange

/-! ## Reading -/

/-- The number that digits spell. -/
def number? (s : Bytes) : Option Nat :=
  let n := s.foldl (fun n b => 10 * n + Byte.digitValue b) 0
  if s.isEmpty || !s.all Byte.isDigit then none
  else if s.head? = some (Byte.of '0') && s.length != 1 then none
  else if n < UInt64.size then some n
  else none

/-- The range that a text without blanks spells. -/
def ofText? (s : Bytes) : Option ByteRange :=
  match s.splitOn (Byte.of '-') with
  | [[], length] => (number? length).bind fun n => if n = 0 then none else some (.ending n)
  | [first, []] => (number? first).map fun n => .places n none
  | [first, last] => (number? first).bind fun m => (number? last).map fun n => .places m (some n)
  | _ => none

/-- The range that a piece of a list spells. -/
def ofPiece? (s : Bytes) : Option ByteRange :=
  match s with
  | b :: rest => ofText? (if Byte.isBlank b then rest else s)
  | [] => none

/-- The ranges in the value of a header. -/
def listOfValue? (value : Bytes) : Option (List ByteRange) :=
  let unit := Text.Utf8.encode "bytes="
  let list := value.drop unit.length
  if unit.isPrefixOf value && !list.head?.any Byte.isBlank then
    (list.splitOn (Byte.of ',')).mapM ofPiece?
  else none

/-! ## Satisfying -/

/-- What a range asks for in a text of so many bytes. -/
def extent? (size : Nat) : ByteRange → Option Extent
  | places first last? =>
      let last := last?.getD (size - 1)
      if first < size && first ≤ last then some ⟨first, min last (size - 1)⟩ else none
  | ending length => if length ≤ size then some ⟨size - length, size - 1⟩ else none

/-- What some ranges ask for, if no two have a byte in common. -/
def extents? (size : Nat) (ranges : List ByteRange) : Option (List Extent) :=
  (ranges.mapM (extent? size)).filter fun extents => extents.Pairwise Extent.IsApart

end ByteRange

end SchoolDesk.Web
