/-!
# Log levels

A level says how much is shown, from nothing to everything.  It has a name, in
any case, or a number from zero to five.
-/

namespace SchoolDesk.Log

/-- How much is shown.  A line's own level is one of the last five. -/
inductive Level where
  | off
  | error
  | warn
  | info
  | debug
  | trace
deriving DecidableEq, Repr

namespace Level

/-- The levels in order, the one that shows least first. -/
def all : List Level := [.off, .error, .warn, .info, .debug, .trace]

/-- The number of a level. -/
def rank : Level → Nat
  | .off => 0
  | .error => 1
  | .warn => 2
  | .info => 3
  | .debug => 4
  | .trace => 5

/-- The name of a level. -/
def name : Level → String
  | .off => "off"
  | .error => "error"
  | .warn => "warn"
  | .info => "info"
  | .debug => "debug"
  | .trace => "trace"

/-- A line of a level is shown if this much is. -/
def shows (shown line : Level) : Bool := line.rank ≤ shown.rank

/-- The number that a text spells, which may have a plus sign. -/
def number? (s : List Char) : Option Nat :=
  let digits := match s with
    | '+' :: rest => rest
    | _ => s
  if digits.isEmpty || digits.any (fun c => !c.isDigit) then none
  else some (digits.foldl (fun n c => 10 * n + (c.toNat - '0'.toNat)) 0)

/-- The level that a name or number stands for. -/
def ofText? (s : List Char) : Option Level :=
  match number? s with
  | some n => all[n]?
  | none => all.find? fun l => l.name.toList = s.map Char.toLower

end Level

end SchoolDesk.Log
