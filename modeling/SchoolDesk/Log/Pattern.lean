/-!
# Patterns

A log filter may ask for a value that has a pattern.  No line of the service has
such a value, so all that counts is whether a text is a pattern at all.

A pattern is read from left to right.  Its groups stand in parentheses and may be
named or have flags, its sets of characters stand in brackets and may hold other
sets, and a backslash takes the meaning from a sign or gives one to a letter.
What is repeated must be there: a star, a plus or a question mark cannot be the
first thing of a pattern, a group or an alternative.  Counts in braces are no part
of a pattern here, since the closing brace ends the text.
-/

namespace SchoolDesk.Log.Pattern

/-- What the next character belongs to. -/
inductive Place where
  /-- The items of the pattern. -/
  | items
  /-- What stands behind a backslash. -/
  | escape
  /-- The beginning of a group. -/
  | group
  /-- The kind of a group, behind a question mark. -/
  | kind
  /-- The flags of a group. -/
  | flags
  /-- The letter in front of the name of a group. -/
  | label
  /-- The name of a group. -/
  | name
  /-- The beginning of a set, where a closing bracket is a character of the set. -/
  | setStart
  /-- The first character of a set that holds all others. -/
  | setRest
  /-- The characters of a set. -/
  | set
deriving DecidableEq, Repr

/-- A pattern that has been read in part. -/
structure Reading where
  place : Place := .items
  /-- How many groups are open. -/
  groups : Nat := 0
  /-- How many sets are open. -/
  sets : Nat := 0
  /-- There is something to repeat. -/
  repeatable : Bool := false
deriving DecidableEq, Repr

/-- A letter that means something behind a backslash. -/
def isEscapeLetter (c : Char) : Bool := "adfnrstvwzADSWxuUpP".toList.contains c

/-- A character that may stand behind a backslash: a letter with a meaning, or an
ASCII sign other than a pointed bracket. -/
def isEscapable (c : Char) : Bool :=
  if c.isAlphanum then isEscapeLetter c else c.toNat < 0x80 && c != '<' && c != '>'

/-- A letter that sets a flag, or the sign in front of those that are unset. -/
def isFlag (c : Char) : Bool := "imsRUux-".toList.contains c

/-- A character of the name of a group. -/
def isNameChar (c : Char) : Bool := c.isAlphanum || "_.[]".toList.contains c

/-- What can be repeated has been read. -/
def Reading.item (r : Reading) : Reading := { r with place := .items, repeatable := true }

/-- The beginning of something, where there is nothing to repeat. -/
def Reading.fresh (r : Reading) : Reading := { r with place := .items, repeatable := false }

/-- One more character of the items. -/
def readItem (r : Reading) (c : Char) : Option Reading :=
  if c = '\\' then some { r with place := .escape }
  else if c = '(' then some { r with place := .group, groups := r.groups + 1, repeatable := false }
  else if c = ')' then if r.groups = 0 then none else some { r.item with groups := r.groups - 1 }
  else if c = '[' then some { r with place := .setStart, sets := r.sets + 1 }
  else if c = '|' then some r.fresh
  else if c = '*' || c = '+' || c = '?' then if r.repeatable then some r else none
  else if c = '\x7b' then none
  else some r.item

/-- One more character of a set. -/
def readSet (r : Reading) (c : Char) : Option Reading :=
  if c = '\\' then some { r with place := .escape }
  else if c = '[' then some { r with place := .setStart, sets := r.sets + 1 }
  else if c = ']' then
    if r.sets ≤ 1 then some { r.item with sets := 0 }
    else some { r with place := .set, sets := r.sets - 1 }
  else some { r with place := .set }

/-- One more character. -/
def read (r : Reading) (c : Char) : Option Reading :=
  match r.place with
  | .items => readItem r c
  | .escape =>
      if !isEscapable c then none
      else if r.sets = 0 then some r.item
      else some { r with place := .set }
  | .group => if c = '?' then some { r with place := .kind } else readItem r.fresh c
  | .kind =>
      if c = ':' then some r.fresh
      else if c = 'P' then some { r with place := .label }
      else if c = '<' then some { r with place := .name }
      else if isFlag c then some { r with place := .flags }
      else none
  | .flags =>
      if c = ':' then some r.fresh
      else if c = ')' then some { r.fresh with groups := r.groups - 1 }
      else if isFlag c then some r
      else none
  | .label => if c = '<' then some { r with place := .name } else none
  | .name =>
      if c = '>' then some r.fresh
      else if isNameChar c then some r
      else none
  | .setStart =>
      if c = '^' then some { r with place := .setRest }
      else if c = ']' then some { r with place := .set }
      else readSet r c
  | .setRest => if c = ']' then some { r with place := .set } else readSet r c
  | .set => readSet r c

/-- A pattern ends here. -/
def Reading.isDone (r : Reading) : Bool := r.place = .items && r.groups = 0

/-- The text is a pattern. -/
def isPattern (s : List Char) : Bool := (s.foldlM read {}).any Reading.isDone

end SchoolDesk.Log.Pattern
