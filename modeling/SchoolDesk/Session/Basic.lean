import Std.Data.HashMap
import SchoolDesk.Session.Identity

/-!
# Sessions

Every username may log in with the one password of the service.  A login issues
the token of the username, so logging in again yields the same token.  The store
maps every token that has been issued to the user who logged in.  A token is
honoured if it is in the store.

What is in the store belongs together: a token is that of the username of its
user, and the user is the one of this username.
-/

namespace SchoolDesk

/-- Why a login or a token is refused. -/
inductive AuthError where
  /-- The password is not the one of the service. -/
  | incorrectCredentials
  /-- No login has issued this token. -/
  | invalidToken
deriving DecidableEq, Repr, Inhabited

/-- The wording of a refusal. -/
def AuthError.message : AuthError → String
  | .incorrectCredentials => "Incorrect username or password"
  | .invalidToken => "Invalid authentication credentials"

/-- In an empty store no token has a user, so all of them belong together. -/
theorem users_spec_empty (token : String) (user : User)
    (h : (∅ : Std.HashMap String User)[token]? = some user) :
    token = accessToken user.username ∧ user = User.ofUsername user.username := by
  simp at h

/-- The logins the service has seen. -/
structure Sessions where
  /-- The password every username logs in with. -/
  password : String
  /-- The user of each token that has been issued. -/
  users : Std.HashMap String User := ∅
  /-- A token and its user are those of one username. -/
  users_spec : ∀ token user, users[token]? = some user →
    token = accessToken user.username ∧ user = User.ofUsername user.username := by
      exact users_spec_empty

namespace Sessions

/-- Keeps the token of a username and its user. -/
def remember (s : Sessions) (username : String) : Sessions where
  password := s.password
  users := s.users.insert (accessToken username) (User.ofUsername username)
  users_spec := by
    intro token user h
    rw [Std.HashMap.getElem?_insert] at h
    split at h
    · next same =>
        cases h
        exact ⟨(beq_iff_eq.1 same).symm, rfl⟩
    · exact s.users_spec token user h

/-- Checks the password and issues the token of the username. -/
def login (s : Sessions) (username password : String) : Except AuthError (Token × Sessions) :=
  if password = s.password then .ok (Token.bearer (accessToken username), s.remember username)
  else .error .incorrectCredentials

/-- The user a token stands for. -/
def authenticate (s : Sessions) (token : String) : Except AuthError User :=
  match s.users[token]? with
  | some user => .ok user
  | none => .error .invalidToken

/-- The number of tokens issued. -/
def size (s : Sessions) : Nat := s.users.size

/-- No token has been issued. -/
def isEmpty (s : Sessions) : Bool := s.users.isEmpty

/-- The usernames that have logged in, in the order of the store, which has no meaning. -/
def usernames (s : Sessions) : List String := s.users.toList.map fun p => p.2.username

@[simp] theorem password_remember (s : Sessions) (u : String) :
    (s.remember u).password = s.password := rfl

/-- A username has logged in if its token is in the store, which then leads to its user. -/
theorem mem_usernames_iff {s : Sessions} {u : String} :
    u ∈ s.usernames ↔ s.users[accessToken u]? = some (User.ofUsername u) := by
  rw [usernames, List.mem_map]
  constructor
  · rintro ⟨⟨token, user⟩, there, rfl⟩
    have found := Std.HashMap.mem_toList_iff_getElem?_eq_some.1 there
    obtain ⟨same, known⟩ := s.users_spec token user found
    rw [← same, ← known, found]
  · intro found
    exact ⟨(_, _), Std.HashMap.mem_toList_iff_getElem?_eq_some.2 found, rfl⟩

@[simp] theorem usernames_new {password : String} {spec} :
    (Sessions.mk password ∅ spec).usernames = [] := by
  simp [usernames]

@[simp] theorem mem_usernames_remember {s : Sessions} {u v : String} :
    v ∈ (s.remember u).usernames ↔ v = u ∨ v ∈ s.usernames := by
  rw [mem_usernames_iff, mem_usernames_iff, remember, Std.HashMap.getElem?_insert]
  by_cases same : u = v
  · simp [same]
  · have other : accessToken u ≠ accessToken v := fun h => same (accessToken_injective h)
    simp [other, Ne.symm same]

end Sessions

end SchoolDesk
