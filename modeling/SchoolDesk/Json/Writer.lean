import SchoolDesk.Json.Document

/-!
# Objects written member by member

An object can be written while its members are still being looked up.  Its writer is told
first how many members there will be, then gets one member after the other, and is told in
the end that there are no more.

The announced number matters in one way only: an object of no members is closed as soon
as it is opened.  So a member that comes all the same stands behind the closing brace,
and what is written is no JSON.  `writeAll_eq_iff` says that this is the only thing that
can go wrong.
-/

namespace SchoolDesk.Json

/-- How far an object is written. -/
inductive Stage where
  /-- It was announced without members and has its closing brace. -/
  | closed
  /-- It has no member yet. -/
  | opened
  /-- It has a member. -/
  | continued
deriving DecidableEq, Repr

/-- An object that is being written. -/
structure ObjectWriter where
  /-- What is written so far. -/
  written : List Char
  stage : Stage

namespace ObjectWriter

/-- Opens an object of so many members. -/
def start (announced : Nat) : ObjectWriter :=
  if announced = 0 then ⟨braced [], .closed⟩ else ⟨['\x7b'], .opened⟩

/-- Writes one more member, with a comma in front of it if it is not the first. -/
def member (w : ObjectWriter) (m : String × Document) : ObjectWriter where
  written := w.written ++ (if w.stage = .opened then [] else [',']) ++
    (quote m.1 ++ ':' :: m.2.write)
  stage := .continued

/-- Closes the object, unless it is closed already. -/
def finish (w : ObjectWriter) : List Char :=
  if w.stage = .closed then w.written else w.written ++ ['\x7d']

/-- Writes all members of an object of which a number of members was announced. -/
def writeAll (announced : Nat) (members : List (String × Document)) : List Char :=
  (members.foldl member (start announced)).finish

/-- Behind a member the others are written with a comma each, and then the closing
brace. -/
theorem finish_foldl_member (s : List Char) (ms : List (String × Document)) :
    (ms.foldl member ⟨s, .continued⟩).finish = s ++ writeMembers ms ++ ['\x7d'] := by
  induction ms generalizing s with
  | nil => simp [finish, writeMembers]
  | cons m ms ih =>
      rw [List.foldl_cons]
      show (ms.foldl member ⟨s ++ [','] ++ (quote m.1 ++ ':' :: m.2.write), .continued⟩).finish = _
      rw [ih]
      simp [writeMembers]

/-- The object is written as it should be, unless it was announced without members and has
some. -/
theorem writeAll_eq_iff {announced : Nat} {ms : List (String × Document)} :
    writeAll announced ms = (Document.object ms).write ↔ (announced = 0 → ms = []) := by
  cases ms with
  | nil =>
      by_cases zero : announced = 0
      · simp [writeAll, start, zero, finish, Document.write]
      · simp [writeAll, start, zero, finish, Document.write, braced]
  | cons m ms =>
      by_cases zero : announced = 0
      · -- The second character tells the two texts apart: a closing brace, or a quote.
        have early : writeAll announced (m :: ms) =
            braced [] ++ [','] ++ (quote m.1 ++ ':' :: m.2.write) ++ writeMembers ms ++
              ['\x7d'] := by
          rw [writeAll, start, if_pos zero, List.foldl_cons]
          exact finish_foldl_member _ ms
        rw [early]
        simp [zero, Document.write, braced, quote]
      · have right : writeAll announced (m :: ms) =
            ['\x7b'] ++ [] ++ (quote m.1 ++ ':' :: m.2.write) ++ writeMembers ms ++
              ['\x7d'] := by
          rw [writeAll, start, if_neg zero, List.foldl_cons]
          exact finish_foldl_member _ ms
        rw [right]
        simp [zero, Document.write, braced]

end ObjectWriter

end SchoolDesk.Json
