import SchoolDesk.Log.Directive

/-!
# Log filters

A log line has a target, a level and fields.  A filter says which lines are shown.
It is a list of directives with commas between them, wherever the commas stand.

The directive that counts for a line is, of those that concern it, the one with the
longest target, of those with equal targets one that asks for a field, and of equal
ones the last.  A line that no directive concerns is not shown.  A filter without
directives shows errors only.  Text that is no filter is refused as a whole.
-/

namespace SchoolDesk.Log

/-- What a filter asks of a line. -/
structure Line where
  target : String
  level : Level
  /-- The names of what the line holds. -/
  fields : List String := ["message"]
deriving DecidableEq, Repr

/-- Which log lines are shown. -/
structure Filter where
  directives : List Directive
deriving DecidableEq, Repr

namespace Filter

/-- The filter that shows everything up to a level. -/
def upTo (level : Level) : Filter := ⟨[{ level := level }]⟩

/-- The filter that a text spells. -/
def ofString? (s : String) : Option Filter :=
  let pieces := (s.toList.splitOn ',').filter fun piece => !piece.isEmpty
  if pieces.isEmpty then some (upTo .error)
  else (pieces.mapM Directive.ofText?).map Filter.mk

/-- The later of two directives, unless it says less. -/
def better (best? : Option Directive) (d : Directive) : Option Directive :=
  match best? with
  | some best => if d.isLooserThan best then best else some d
  | none => some d

/-- The directive that counts for a line, if one does. -/
def directiveFor? (f : Filter) (line : Line) : Option Directive :=
  let concerning := f.directives.filter fun d =>
    d.concerns line.target.toList (line.fields.map String.toList)
  concerning.foldl better none

/-- A line is shown. -/
def shows (f : Filter) (line : Line) : Bool :=
  (f.directiveFor? line).any fun d => d.level.shows line.level

end Filter

end SchoolDesk.Log
