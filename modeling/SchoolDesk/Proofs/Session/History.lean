import Mathlib.Data.Finset.Card
import SchoolDesk.Json.Wire
import SchoolDesk.Proofs.Feed
import SchoolDesk.Session.Basic

/-!
# What a store of sessions owes to its logins

A store answers one login after the other.  Those with the password of the service are
*accepted*, and each of them leaves the token of its username with the user of that name.
Those with another password are refused and leave nothing.

The store is a map from tokens, and a token is a text made around a username.  Two facts
make the usernames that were accepted all there is to a store.  Different usernames have
different tokens, so none is overwritten by another and there are as many entries as
usernames (`size_eq_card`).  And every entry is that of one username
(`getElem?_users_eq_some_iff`), so stores with the same usernames have the same entries
(`Alike.of_usernames`).

`run_history` says what is true of a store after any list of logins.
-/

namespace SchoolDesk.Sessions

/-! ## Logins one after the other -/

/-- The answer to a login, and the store that it leaves behind. -/
def attempt (s : Sessions) (l : Login) : Except AuthError Token × Sessions :=
  match s.login l.username l.password with
  | .ok (token, next) => (.ok token, next)
  | .error e => (.error e, s)

/-- Answers logins one after the other. -/
def run (s : Sessions) (logins : List Login) : List (Except AuthError Token) × Sessions :=
  feed attempt s logins

/-- The usernames of the logins with a password, in order. -/
def accepted (password : String) (logins : List Login) : List String :=
  (logins.filter fun l => l.password = password).map Login.username

theorem attempt_of_right {s : Sessions} {l : Login} (right : l.password = s.password) :
    s.attempt l = (.ok (Token.bearer (accessToken l.username)), s.remember l.username) := by
  rw [attempt, login, if_pos right]

theorem attempt_of_wrong {s : Sessions} {l : Login} (wrong : l.password ≠ s.password) :
    s.attempt l = (.error .incorrectCredentials, s) := by
  rw [attempt, login, if_neg wrong]

theorem run_cons (s : Sessions) (l : Login) (logins : List Login) :
    s.run (l :: logins) =
      ((s.attempt l).1 :: ((s.attempt l).2.run logins).1, ((s.attempt l).2.run logins).2) := rfl

theorem accepted_cons_of_right {password : String} {l : Login} (right : l.password = password)
    (logins : List Login) :
    accepted password (l :: logins) = l.username :: accepted password logins := by
  simp [accepted, right]

theorem accepted_cons_of_wrong {password : String} {l : Login} (wrong : l.password ≠ password)
    (logins : List Login) : accepted password (l :: logins) = accepted password logins := by
  simp [accepted, wrong]

@[simp] theorem password_attempt (s : Sessions) (l : Login) :
    (s.attempt l).2.password = s.password := by
  by_cases right : l.password = s.password
  · rw [attempt_of_right right, password_remember]
  · rw [attempt_of_wrong right]

theorem password_run (s : Sessions) (logins : List Login) :
    (s.run logins).2.password = s.password := by
  induction logins generalizing s with
  | nil => rfl
  | cons l logins ih => rw [run_cons, ih, password_attempt]

/-! ## What the answers are, and which usernames are kept -/

/-- A login is answered with the token of its username if its password is right, whatever
logins came before it. -/
theorem answers_run (s : Sessions) (logins : List Login) :
    (s.run logins).1 = logins.map fun l =>
      if l.password = s.password then .ok (Token.bearer (accessToken l.username))
      else .error .incorrectCredentials := by
  induction logins generalizing s with
  | nil => rfl
  | cons l logins ih =>
      rw [run_cons, ih, password_attempt, List.map_cons]
      by_cases right : l.password = s.password
      · rw [attempt_of_right right, if_pos right]
      · rw [attempt_of_wrong right, if_neg right]

/-- The logins that are refused might as well not have been tried. -/
theorem run_filter (s : Sessions) (logins : List Login) :
    (s.run (logins.filter fun l => l.password = s.password)).2 = (s.run logins).2 := by
  induction logins generalizing s with
  | nil => rfl
  | cons l logins ih =>
      have ih := ih (s.attempt l).2
      rw [password_attempt] at ih
      rw [run_cons, ← ih]
      by_cases right : l.password = s.password
      · rw [List.filter_cons_of_pos (by simpa using right), run_cons]
      · rw [List.filter_cons_of_neg (by simpa using right), attempt_of_wrong right]

/-- The usernames of a store are those from before some logins, and those accepted. -/
theorem mem_usernames_run {s : Sessions} {logins : List Login} {u : String} :
    u ∈ (s.run logins).2.usernames ↔ u ∈ s.usernames ∨ u ∈ accepted s.password logins := by
  induction logins generalizing s with
  | nil => simp [run, feed, accepted]
  | cons l logins ih =>
      rw [run_cons, ih, password_attempt]
      by_cases right : l.password = s.password
      · rw [attempt_of_right right, accepted_cons_of_right right, mem_usernames_remember,
          List.mem_cons, or_left_comm, or_assoc]
      · rw [attempt_of_wrong right, accepted_cons_of_wrong right]

/-! ## The usernames are all there is to a store -/

/-- A token is in a store, with a user, if it is that of a username that has logged in. -/
theorem getElem?_users_eq_some_iff {s : Sessions} {token : String} {user : User} :
    s.users[token]? = some user ↔
      ∃ u ∈ s.usernames, token = accessToken u ∧ user = User.ofUsername u := by
  constructor
  · intro found
    obtain ⟨same, known⟩ := s.users_spec token user found
    refine ⟨user.username, ?_, same, known⟩
    rw [mem_usernames_iff, ← same, ← known, found]
  · rintro ⟨u, hu, rfl, rfl⟩
    exact mem_usernames_iff.mp hu

theorem authenticate_eq_ok_iff {s : Sessions} {token : String} {user : User} :
    s.authenticate token = .ok user ↔
      ∃ u ∈ s.usernames, token = accessToken u ∧ user = User.ofUsername u := by
  rw [← getElem?_users_eq_some_iff, authenticate]
  cases s.users[token]? <;> simp

/-- No username stands twice in a store. -/
theorem nodup_usernames (s : Sessions) : s.usernames.Nodup := by
  have tokens : (s.users.toList.map Prod.fst).Nodup := by
    rw [Std.HashMap.map_fst_toList_eq_keys]
    exact Std.HashMap.nodup_keys
  refine List.Nodup.map_on ?_ tokens.of_map
  rintro ⟨token, user⟩ there ⟨token', user'⟩ there' same
  obtain ⟨rfl, known⟩ :=
    s.users_spec _ _ (Std.HashMap.mem_toList_iff_getElem?_eq_some.mp there)
  obtain ⟨rfl, known'⟩ :=
    s.users_spec _ _ (Std.HashMap.mem_toList_iff_getElem?_eq_some.mp there')
  have same : user.username = user'.username := same
  rw [same] at known
  rw [same, known, ← known']

/-- There are as many tokens as usernames. -/
theorem size_eq_card (s : Sessions) : s.size = s.usernames.toFinset.card := by
  rw [List.toFinset_card_of_nodup s.nodup_usernames, usernames, List.length_map,
    Std.HashMap.length_toList, size]

theorem isEmpty_iff_size_eq_zero {s : Sessions} : s.isEmpty = true ↔ s.size = 0 := by
  rw [isEmpty, size, Std.HashMap.isEmpty_eq_size_eq_zero, beq_iff_eq]

/-- Two stores have the same content, and nothing that is asked of them tells them apart. -/
structure Alike (s t : Sessions) : Prop where
  password : s.password = t.password
  users : s.users.Equiv t.users
  authenticate : ∀ token, s.authenticate token = t.authenticate token
  size : s.size = t.size
  isEmpty : s.isEmpty = t.isEmpty

/-- Stores with one password and the same usernames have the same content. -/
theorem Alike.of_usernames {s t : Sessions} (password : s.password = t.password)
    (same : ∀ u, u ∈ s.usernames ↔ u ∈ t.usernames) : s.Alike t := by
  have users : s.users.Equiv t.users := by
    refine Std.HashMap.Equiv.of_forall_getElem?_eq fun token => ?_
    ext user
    rw [getElem?_users_eq_some_iff, getElem?_users_eq_some_iff]
    simp only [same]
  exact
    { password := password
      users := users
      authenticate := fun token => by
        rw [Sessions.authenticate, Sessions.authenticate, users.getElem?_eq]
      size := users.size_eq
      isEmpty := users.isEmpty_eq }

/-! ## The whole history -/

/-- After any logins to a store in which nobody has logged in yet, with `names` the
usernames of those with its password: a token is honoured exactly if it is made of one of
`names`, which is then the only one it is made of, and stands for the user of this name.
Any other token is invalid.  There are as many tokens as different `names`.  A login was
answered by its password alone, those refused have left no trace, and any other logins
with the same usernames leave a store with the same content, in whatever order and however
often they come. -/
theorem run_history (password : String) (logins : List Login) :
    let start : Sessions := { password := password }
    let names := accepted password logins
    let store := (start.run logins).2
    (∀ token, (∃ user, store.authenticate token = .ok user) ↔
        ∃! u, u ∈ names ∧ token = "user-" ++ u ++ "-token") ∧
      (∀ u ∈ names, store.authenticate ("user-" ++ u ++ "-token") = .ok (User.ofUsername u)) ∧
      (∀ token, (∀ u ∈ names, token ≠ "user-" ++ u ++ "-token") →
        store.authenticate token = .error .invalidToken) ∧
      store.size = names.toFinset.card ∧
      (store.isEmpty = true ↔ names = []) ∧
      (start.run logins).1 = (logins.map fun l =>
        if l.password = password then .ok (Token.bearer ("user-" ++ l.username ++ "-token"))
        else .error .incorrectCredentials) ∧
      (start.run (logins.filter fun l => l.password = password)).2 = store ∧
      ∀ others : List Login, (∀ u, u ∈ accepted password others ↔ u ∈ names) →
        (start.run others).2.Alike store := by
  intro start names store
  have kept (others : List Login) (u : String) :
      u ∈ (start.run others).2.usernames ↔ u ∈ accepted password others := by
    rw [mem_usernames_run]
    simp [start]
  have honoured (token : String) (user : User) : store.authenticate token = .ok user ↔
      ∃ u ∈ names, token = accessToken u ∧ user = User.ofUsername u := by
    rw [authenticate_eq_ok_iff]
    simp only [store, kept, names]
  have count : store.size = names.toFinset.card := by
    rw [size_eq_card]
    congr 1
    ext u
    rw [List.mem_toFinset, List.mem_toFinset, kept]
  refine ⟨fun token => ⟨?_, ?_⟩, fun u hu => ?_, fun token other => ?_, count, ?_,
    answers_run start logins, run_filter start logins, fun others same => ?_⟩
  · rintro ⟨user, answer⟩
    obtain ⟨u, hu, rfl, -⟩ := (honoured token user).mp answer
    exact ⟨u, ⟨hu, rfl⟩, fun v hv => (accessToken_injective hv.2).symm⟩
  · rintro ⟨u, ⟨hu, made⟩, -⟩
    exact ⟨_, (honoured token _).mpr ⟨u, hu, made, rfl⟩⟩
  · exact (honoured _ _).mpr ⟨u, hu, rfl, rfl⟩
  · cases answer : store.authenticate token with
    | ok user =>
        obtain ⟨u, hu, made, -⟩ := (honoured token user).mp answer
        exact absurd made (other u hu)
    | error e =>
        rw [authenticate] at answer
        split at answer <;> cases answer
        rfl
  · rw [isEmpty_iff_size_eq_zero, count, Finset.card_eq_zero, List.toFinset_eq_empty_iff]
  · refine Alike.of_usernames ?_ fun u => ?_
    · rw [password_run, password_run]
    · rw [kept, kept, same]

end SchoolDesk.Sessions
