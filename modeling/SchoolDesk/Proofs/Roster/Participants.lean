import Mathlib.Data.List.DropRight
import SchoolDesk.Proofs.Roster.Changes

/-!
# Who takes part in an activity

The participants of an activity are told by the history of its name.  An insertion starts
them anew with a list of its own, and this list stays as it is and in front, whatever it
holds.  The addresses signed up after it follow, those that are new to the list, each
where it was first signed up.

`given` is the activity of the last insertion, and `asked` are the addresses signed up
since then, with all repeats.  A change for another name touches neither, and `get?_run`
says that a roster holds what they tell.  The answers follow from it, as a signup looks at
nothing but the roster (`change_signup`).  `participants_run` says it all of every run.
-/

namespace SchoolDesk

/-! ## The history of a name -/

namespace Change

/-- The name that a change is for. -/
def name : Change → String
  | .insert name _ => name
  | .signup name _ => name

/-- The activity that a change puts under a name. -/
def activityFor? (name : String) : Change → Option Activity
  | .insert n a => if n = name then some a else none
  | .signup _ _ => none

/-- The address that a change signs up for a name. -/
def addressFor? (name : String) : Change → Option String
  | .insert _ _ => none
  | .signup n email => if n = name then some email else none

/-- A change puts an activity under a name, signs an address up for it or is for another. -/
theorem cases_for (c : Change) (name : String) :
    (∃ a, c = .insert name a) ∨ (∃ email, c = .signup name email) ∨ c.name ≠ name := by
  by_cases same : c.name = name
  · cases c with
    | insert n a => exact .inl ⟨a, by rw [← same]; rfl⟩
    | signup n email => exact .inr (.inl ⟨email, by rw [← same]; rfl⟩)
  · exact .inr (.inr same)

@[simp] theorem activityFor?_insert_self (n : String) (a : Activity) :
    (Change.insert n a).activityFor? n = some a := if_pos rfl

@[simp] theorem addressFor?_signup_self (n email : String) :
    (Change.signup n email).addressFor? n = some email := if_pos rfl

theorem activityFor?_of_ne {c : Change} {n : String} (other : c.name ≠ n) :
    c.activityFor? n = none := by
  cases c with
  | insert m a => exact if_neg other
  | signup m email => rfl

theorem addressFor?_of_ne {c : Change} {n : String} (other : c.name ≠ n) :
    c.addressFor? n = none := by
  cases c with
  | insert m a => rfl
  | signup m email => exact if_neg other

end Change

/-- The activity last put under a name, or else the one that was there at the start. -/
def given (start : Roster) (name : String) (changes : List Change) : Option Activity :=
  (changes.filterMap (Change.activityFor? name)).getLast?.or (start.get? name)

/-- What comes after the last insertion under a name. -/
def since {α : Type} (change : α → Change) (name : String) (history : List α) : List α :=
  history.rtakeWhile fun x => ((change x).activityFor? name).isNone

/-- The addresses signed up for a name since the last insertion under it, in order. -/
def asked (name : String) (changes : List Change) : List String :=
  (since id name changes).filterMap (Change.addressFor? name)

section

variable {start : Roster} {n : String} {changes : List Change}

theorem given_concat_insert (a : Activity) :
    given start n (changes ++ [.insert n a]) = some a := by
  simp [given]

theorem given_concat_of_none {c : Change} (h : c.activityFor? n = none) :
    given start n (changes ++ [c]) = given start n changes := by
  simp [given, h]

section

variable {α : Type} (change : α → Change) {history : List α}

theorem since_concat_of_some {x : α} {a : Activity} (h : (change x).activityFor? n = some a) :
    since change n (history ++ [x]) = [] := by
  rw [since, List.rtakeWhile_concat_neg]
  simp [h]

theorem since_concat_of_none {x : α} (h : (change x).activityFor? n = none) :
    since change n (history ++ [x]) = since change n history ++ [x] := by
  rw [since, List.rtakeWhile_concat_pos, ← since]
  simp [h]

end

theorem asked_concat_insert (a : Activity) : asked n (changes ++ [.insert n a]) = [] := by
  rw [asked, since_concat_of_some id (Change.activityFor?_insert_self n a), List.filterMap_nil]

theorem asked_concat_signup (email : String) :
    asked n (changes ++ [.signup n email]) = asked n changes ++ [email] := by
  rw [asked, since_concat_of_none id rfl, List.filterMap_append, ← asked]
  simp

theorem asked_concat_of_ne {c : Change} (other : c.name ≠ n) :
    asked n (changes ++ [c]) = asked n changes := by
  rw [asked, since_concat_of_none id (Change.activityFor?_of_ne other), List.filterMap_append,
    ← asked]
  simp [Change.addressFor?_of_ne other]

/-- Nothing is given for a name that neither was there at the start nor was inserted. -/
theorem given_eq_none_iff :
    given start n changes = none ↔ n ∉ start.names ∧ ∀ a, Change.insert n a ∉ changes := by
  rw [given, Option.or_eq_none_iff, List.getLast?_eq_none_iff, List.filterMap_eq_nil_iff,
    Roster.get?_eq_none_iff, and_comm]
  refine and_congr_right fun _ => ⟨fun none a there => ?_, fun none c there => ?_⟩
  · have := none _ there
    rw [Change.activityFor?_insert_self] at this
    cases this
  · rcases c.cases_for n with ⟨a, rfl⟩ | ⟨email, rfl⟩ | other
    · exact absurd there (none a)
    · rfl
    · exact Change.activityFor?_of_ne other

end

/-! ## Newcomers -/

/-- The addresses that are not among the participants of an activity, each where it first
stands. -/
def newcomers (a : Activity) (emails : List String) : List String :=
  (emails.filter (· ∉ a.participants)).eraseDups

namespace Activity

/-- An activity with its newcomers behind its participants. -/
def joinedBy (a : Activity) (emails : List String) : Activity :=
  { a with participants := a.participants ++ newcomers a emails }

@[simp] theorem joinedBy_nil (a : Activity) : a.joinedBy [] = a := by
  simp [joinedBy, newcomers]

theorem mem_participants_joinedBy {a : Activity} {emails : List String} {email : String} :
    email ∈ (a.joinedBy emails).participants ↔ email ∈ a.participants ∨ email ∈ emails := by
  by_cases h : email ∈ a.participants <;> simp [joinedBy, newcomers, h]

end Activity

theorem newcomers_concat (a : Activity) (emails : List String) (email : String) :
    newcomers a (emails ++ [email]) =
      if email ∈ (a.joinedBy emails).participants then newcomers a emails
      else newcomers a emails ++ [email] := by
  simp only [Activity.mem_participants_joinedBy, newcomers, List.filter_append]
  by_cases old : email ∈ a.participants
  · simp [old]
  · simp only [old, not_false_eq_true, decide_true, List.filter_cons_of_pos, List.filter_nil,
      eraseDups_concat, List.mem_filter, and_true, false_or]

namespace Activity

/-- One more address joins just as a signup registers it. -/
theorem joinedBy_concat (a : Activity) (emails : List String) (email : String) :
    a.joinedBy (emails ++ [email]) =
      if email ∈ (a.joinedBy emails).participants then a.joinedBy emails
      else (a.joinedBy emails).register email := by
  rw [joinedBy, newcomers_concat]
  split
  · rfl
  · simp [register, joinedBy]

/-- Newcomers make no duplicates. -/
theorem nodup_participants_joinedBy {a : Activity} (h : a.participants.Nodup)
    (emails : List String) : (a.joinedBy emails).participants.Nodup := by
  refine List.nodup_append.mpr ⟨h, nodup_eraseDups _, ?_⟩
  rintro email old _ new rfl
  simp [newcomers, old] at new

end Activity

namespace Roster

/-! ## What a roster holds -/

/-- All that a signup does. -/
theorem change_signup (r : Roster) (n email : String) :
    r.change (.signup n email) =
      match r.get? n with
      | none => (some (.error ⟨n⟩), r)
      | some a =>
          if email ∈ a.participants then (some (.ok .alreadyRegistered), r)
          else (some (.ok .registered), r.insert n (a.register email)) := by
  rw [change, signup]
  cases r.get? n with
  | none => rfl
  | some a => by_cases h : email ∈ a.participants <;> simp [h, Activity.isRegistered]

/-- A change leaves the activities of all other names. -/
theorem get?_change_of_ne {c : Change} {n : String} (other : c.name ≠ n) (r : Roster) :
    (r.change c).2.get? n = r.get? n := by
  cases c with
  | insert m a =>
      have other : m ≠ n := other
      rw [change, get?_insert, if_neg other]
  | signup m email =>
      have other : m ≠ n := other
      rw [change_signup]
      split
      · rfl
      · split
        · rfl
        · rw [get?_insert, if_neg other]

theorem run_concat (start : Roster) (changes : List Change) (c : Change) :
    start.run (changes ++ [c]) =
      ((start.run changes).1 ++ [((start.run changes).2.change c).1],
        ((start.run changes).2.change c).2) := feed_concat change start changes c

/-- After any changes a name has the activity last given to it, joined by those who asked
for it since. -/
theorem get?_run (start : Roster) (changes : List Change) (n : String) :
    (start.run changes).2.get? n =
      (given start n changes).map fun a => a.joinedBy (asked n changes) := by
  induction changes using List.reverseRecOn with
  | nil => cases h : start.get? n <;> simp [run, feed, given, asked, since, h]
  | append_singleton changes c ih =>
      rw [run_concat]
      rcases c.cases_for n with ⟨a, rfl⟩ | ⟨email, rfl⟩ | other
      · -- The name starts anew, and nobody has asked for it since.
        rw [given_concat_insert, asked_concat_insert, change, get?_insert_self]
        simp
      · rw [given_concat_of_none rfl, asked_concat_signup, change_signup]
        cases before : given start n changes with
        | none =>
            rw [before, Option.map_none] at ih
            rw [ih, Option.map_none]
            exact ih
        | some a =>
            rw [before, Option.map_some] at ih
            rw [ih, Option.map_some, Activity.joinedBy_concat]
            dsimp only
            split
            · exact ih
            · rw [get?_insert_self]
      · rw [given_concat_of_none (Change.activityFor?_of_ne other), asked_concat_of_ne other,
          get?_change_of_ne other, ih]

/-! ## The answers -/

/-- A signup is answered by the history of its name. -/
theorem answer_signup (start : Roster) (changes : List Change) (n email : String) :
    ((start.run changes).2.change (.signup n email)).1 =
      match given start n changes with
      | none => some (.error ⟨n⟩)
      | some a =>
          if email ∈ a.participants ∨ email ∈ asked n changes then
            some (.ok .alreadyRegistered)
          else some (.ok .registered) := by
  rw [change_signup, get?_run]
  cases given start n changes with
  | none => rfl
  | some a =>
      simp only [Option.map_some, Activity.mem_participants_joinedBy]
      split <;> rfl

/-- The changes of a run, each with the answer to it. -/
def exchanges (start : Roster) (changes : List Change) : List (Change × Change.Answer) :=
  changes.zip (start.run changes).1

/-- The addresses that were registered for a name since the last insertion under it, as the
answers tell, in order. -/
def registered (n : String) (history : List (Change × Change.Answer)) : List String :=
  (since Prod.fst n history).filterMap fun
    | (c, some (.ok .registered)) => c.addressFor? n
    | _ => none

theorem exchanges_concat (start : Roster) (changes : List Change) (c : Change) :
    start.exchanges (changes ++ [c]) =
      start.exchanges changes ++ [(c, ((start.run changes).2.change c).1)] := by
  have length : changes.length = (start.run changes).1.length :=
    (length_feed change start changes).symm
  rw [exchanges, run_concat, List.zip_append length]
  rfl

/-- Those whom the answers tell to be registered are the newcomers. -/
theorem registered_exchanges {start : Roster} {changes : List Change} {n : String} {a : Activity}
    (h : given start n changes = some a) :
    registered n (start.exchanges changes) = newcomers a (asked n changes) := by
  induction changes using List.reverseRecOn with
  | nil => simp [registered, exchanges, since, newcomers, asked]
  | append_singleton changes c ih =>
      rw [exchanges_concat, registered]
      rcases c.cases_for n with ⟨b, rfl⟩ | ⟨email, rfl⟩ | other
      · rw [since_concat_of_some Prod.fst (Change.activityFor?_insert_self n b),
          asked_concat_insert]
        simp [newcomers]
      · rw [given_concat_of_none rfl] at h
        rw [since_concat_of_none Prod.fst rfl, List.filterMap_append, ← registered, ih h,
          asked_concat_signup, answer_signup, h, newcomers_concat]
        simp only [Activity.mem_participants_joinedBy]
        split <;> simp
      · have none := Change.activityFor?_of_ne other
        rw [given_concat_of_none none] at h
        rw [since_concat_of_none Prod.fst none, List.filterMap_append, ← registered, ih h,
          asked_concat_of_ne other]
        generalize ((start.run changes).2.change c).1 = answer
        rw [List.filterMap_cons_none, List.filterMap_nil, List.append_nil]
        split
        · next heq =>
            cases heq
            exact Change.addressFor?_of_ne other
        · rfl

/-- In every run, from any roster, the activity of a name is the one last given to it, with
the addresses asked for since then behind its own participants: those that are new, each
once and where it first came, which are the ones whose signup was answered to be
registered.  If those given were no duplicates, there are none.  A signup is registered
exactly if its address is neither among the participants given nor asked for before, is
registered already if it is one of these, and is an error, with the name, exactly if the
name neither was there at the start nor was inserted before. -/
theorem participants_run (start : Roster) (changes : List Change) :
    let r := (start.run changes).2
    (∀ n b, r.get? n = some b →
      ∃ a, given start n changes = some a ∧
        b = { a with participants := a.participants ++
          ((asked n changes).filter (· ∉ a.participants)).eraseDups } ∧
        b.participants = a.participants ++ registered n (start.exchanges changes) ∧
        (a.participants.Nodup → b.participants.Nodup)) ∧
      (∀ n, r.get? n = none ↔ given start n changes = none) ∧
      ∀ (i : Nat) (n email : String), changes[i]? = some (.signup n email) →
        let before := changes.take i
        let answer := (start.run changes).1[i]?
        (answer = some (some (.ok .registered)) ↔
          ∃ a, given start n before = some a ∧
            email ∉ a.participants ∧ email ∉ asked n before) ∧
        (answer = some (some (.ok .alreadyRegistered)) ↔
          ∃ a, given start n before = some a ∧
            (email ∈ a.participants ∨ email ∈ asked n before)) ∧
        ∀ e, answer = some (some (.error e)) ↔
          e = ⟨n⟩ ∧ n ∉ start.names ∧ ∀ a, Change.insert n a ∉ before := by
  intro r
  have holds (n : String) : r.get? n = _ := get?_run start changes n
  refine ⟨fun n b there => ?_, fun n => ?_, fun i n email place => ?_⟩
  · rw [holds] at there
    obtain ⟨a, last, rfl⟩ := Option.map_eq_some_iff.mp there
    refine ⟨a, last, rfl, ?_, fun nodup => a.nodup_participants_joinedBy nodup _⟩
    rw [registered_exchanges last]
    rfl
  · rw [holds, Option.map_eq_none_iff]
  · intro before answer
    have told : answer = some ((start.run before).2.change (.signup n email)).1 :=
      (getElem?_feed change start changes i).trans (by rw [place]; rfl)
    rw [told, answer_signup, ← given_eq_none_iff]
    cases last : given start n before with
    | none => simp [eq_comm]
    | some a =>
        by_cases old : email ∈ a.participants ∨ email ∈ asked n before
        · simpa [old] using old.resolve_left
        · simpa [old] using not_or.mp old

end Roster

end SchoolDesk
