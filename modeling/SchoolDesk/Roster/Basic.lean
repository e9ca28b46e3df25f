import Std.Data.HashMap
import SchoolDesk.Roster.Activity

/-!
# The roster

The roster holds the activities of the school under unique names.  It keeps the
names in the order in which they were first inserted, and a hash map from each
name to its activity.  The two agree: the names have no duplicates and are the
keys of the map.

`insert` replaces the activity of a name that is there and leaves its place in
the order alone.  A new name goes to the end.  `signup` adds an email address to
the participants of an activity, unless the address is among them already.

`toList` is the view: the pairs of name and activity in order.  The lemmas below
say what each operation does to the order and to the look-up.
-/

namespace SchoolDesk

/-- Activities under unique names, in the order of first insertion. -/
structure Roster where
  /-- The names, oldest first. -/
  names : List String
  /-- The activity of each name. -/
  activities : Std.HashMap String Activity
  /-- No name stands twice. -/
  names_nodup : names.Nodup
  /-- The names are the keys. -/
  mem_names : ∀ name, name ∈ names ↔ name ∈ activities

/-- A name that the roster does not have. -/
structure ActivityNotFound where
  name : String
deriving DecidableEq, Repr

/-- The wording of a missing activity. -/
def ActivityNotFound.message (e : ActivityNotFound) : String := "Activity not found: " ++ e.name

/-- What a signup did to an activity that is there. -/
inductive SignupOutcome where
  /-- The address is a participant now. -/
  | registered
  /-- The address was a participant before, and nothing changed. -/
  | alreadyRegistered
deriving DecidableEq, Repr

namespace Roster

/-- The roster without activities. -/
def empty : Roster where
  names := []
  activities := ∅
  names_nodup := List.nodup_nil
  mem_names := by simp

instance : Inhabited Roster := ⟨empty⟩

/-- The activity of a name. -/
def get? (r : Roster) (name : String) : Option Activity := r.activities[name]?

/-- The number of activities. -/
def size (r : Roster) : Nat := r.names.length

/-- There is no activity. -/
def isEmpty (r : Roster) : Bool := r.names.isEmpty

/-- The names and their activities, in order. -/
def toList (r : Roster) : List (String × Activity) :=
  r.names.filterMap fun name => (r.get? name).map fun a => (name, a)

/-- Puts an activity under a name, in the place the name has or at the end. -/
def insert (r : Roster) (name : String) (a : Activity) : Roster where
  names := if name ∈ r.activities then r.names else r.names ++ [name]
  activities := r.activities.insert name a
  names_nodup := by
    have h := r.names_nodup
    split
    · exact h
    · rename_i hn
      refine List.nodup_append.2 ⟨h, by simp, ?_⟩
      intro x hx y hy hxy
      simp only [List.mem_singleton] at hy
      exact hn ((r.mem_names name).1 (hy ▸ hxy ▸ hx))
  mem_names := by
    intro x
    have hx := r.mem_names x
    rw [Std.HashMap.mem_insert]
    split
    · rename_i hn
      constructor
      · intro h
        exact Or.inr (hx.1 h)
      · rintro (h | h)
        · exact (beq_iff_eq.1 h) ▸ (r.mem_names name).2 hn
        · exact hx.2 h
    · rw [List.mem_append, List.mem_singleton, hx, beq_iff_eq, eq_comm (a := x), or_comm]

/-- Registers an email address for an activity.  Registering twice is no error
and leaves the roster as it is. -/
def signup (r : Roster) (name email : String) :
    Except ActivityNotFound (SignupOutcome × Roster) :=
  match r.get? name with
  | none => .error ⟨name⟩
  | some a =>
      if a.isRegistered email then .ok (.alreadyRegistered, r)
      else .ok (.registered, r.insert name (a.register email))

/-- The roster that holds the given pairs, inserted in order. -/
def ofList (pairs : List (String × Activity)) : Roster :=
  pairs.foldl (fun r p => r.insert p.1 p.2) empty

/-! ## The order and the look-up -/

@[simp] theorem names_empty : empty.names = [] := rfl

@[simp] theorem get?_empty (name : String) : empty.get? name = none := by
  simp [get?, empty]

@[simp] theorem names_insert (r : Roster) (name : String) (a : Activity) :
    (r.insert name a).names = if name ∈ r.names then r.names else r.names ++ [name] := by
  simp [insert, r.mem_names]

theorem get?_insert (r : Roster) (name other : String) (a : Activity) :
    (r.insert name a).get? other = if name = other then some a else r.get? other := by
  simp [get?, insert, Std.HashMap.getElem?_insert]

@[simp] theorem get?_insert_self (r : Roster) (name : String) (a : Activity) :
    (r.insert name a).get? name = some a := by
  simp [get?_insert]

theorem isSome_get?_iff {r : Roster} {name : String} :
    (r.get? name).isSome = true ↔ name ∈ r.names := by
  rw [r.mem_names, get?, Std.HashMap.isSome_getElem?_iff_mem]

theorem get?_eq_none_iff {r : Roster} {name : String} :
    r.get? name = none ↔ name ∉ r.names := by
  rw [← isSome_get?_iff]
  cases r.get? name <;> simp

/-- A signup that is no error finds the address among the participants of an activity and
changes nothing, or it registers the address. -/
theorem signup_cases {r next : Roster} {name email : String} {outcome : SignupOutcome}
    (h : r.signup name email = .ok (outcome, next)) :
    ∃ a, r.get? name = some a ∧
      (email ∈ a.participants ∧ outcome = .alreadyRegistered ∧ next = r ∨
        email ∉ a.participants ∧ outcome = .registered ∧
          next = r.insert name (a.register email)) := by
  rw [signup] at h
  cases there : r.get? name with
  | none => simp [there] at h
  | some a =>
      simp only [there, Activity.isRegistered_iff] at h
      refine ⟨a, rfl, ?_⟩
      split at h
      · next old =>
          cases h
          exact .inl ⟨old, rfl, rfl⟩
      · next new =>
          cases h
          exact .inr ⟨new, rfl, rfl⟩

end Roster

end SchoolDesk
