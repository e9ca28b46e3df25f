/-!
# Activities

An activity is something a student can sign up for.  Its capacity is advertised
and not enforced, so the list of participants may grow past it.  Participants
are the email addresses of those who signed up, oldest first.
-/

namespace SchoolDesk

/-- An activity outside lessons. -/
structure Activity where
  /-- What is done there. -/
  description : String
  /-- When it meets, in words. -/
  schedule : String
  /-- The advertised number of places. -/
  capacity : UInt32
  /-- The email addresses signed up, oldest first. -/
  participants : List String := []
deriving DecidableEq, Repr, Inhabited

namespace Activity

/-- An address is among the participants. -/
def isRegistered (a : Activity) (email : String) : Bool := a.participants.contains email

/-- Adds an address after the participants there are. -/
def register (a : Activity) (email : String) : Activity :=
  { a with participants := a.participants ++ [email] }

@[simp] theorem isRegistered_iff {a : Activity} {email : String} :
    a.isRegistered email = true ↔ email ∈ a.participants := by
  simp [isRegistered]

@[simp] theorem participants_register (a : Activity) (email : String) :
    (a.register email).participants = a.participants ++ [email] := rfl

end Activity

end SchoolDesk
