/-!
# Users and tokens

A user is known by a username, and every username has an email address at the
school's domain.  A token is a word that stands for a login.  Its kind is always
`bearer`: whoever bears it is taken for the user who logged in.

`accessToken_injective` says that different usernames have different tokens.
-/

namespace SchoolDesk

/-- The domain of the school's email addresses. -/
def emailDomain : String := "mergington.edu"

/-- Somebody who can log in. -/
structure User where
  email : String
  username : String
deriving DecidableEq, Repr, Inhabited

/-- The user of a username. -/
def User.ofUsername (username : String) : User where
  email := username ++ "@" ++ emailDomain
  username := username

/-- What a login hands back. -/
structure Token where
  /-- The word itself. -/
  accessToken : String
  /-- The kind of the word. -/
  tokenType : String
deriving DecidableEq, Repr, Inhabited

/-- The token of kind `bearer` with a given word. -/
def Token.bearer (accessToken : String) : Token := ⟨accessToken, "bearer"⟩

/-- The word that stands for a login of a username. -/
def accessToken (username : String) : String := "user-" ++ username ++ "-token"

theorem accessToken_injective {u v : String} (h : accessToken u = accessToken v) : u = v := by
  have h := congrArg String.toList h
  simp only [accessToken, String.toList_append] at h
  exact String.toList_inj.1 (List.append_cancel_left (List.append_cancel_right h))

end SchoolDesk
