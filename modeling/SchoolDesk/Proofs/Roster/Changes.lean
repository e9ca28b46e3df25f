import SchoolDesk.Json.Wire
import SchoolDesk.Proofs.Feed
import SchoolDesk.Roster.Catalog
import SchoolDesk.Roster.Entries
import Mathlib.Data.Finset.Card

/-!
# A roster under changes

A *change* puts an activity under a name or signs an email address up for one.  A roster
and its entries answer changes one after the other, each in its own way: the roster looks
names up in a map and keeps their order apart, the entries are gone through from the front.

Each change does the same to both (`change_toList`), so any list of changes does
(`run_toList`), and a roster shows nothing but its entries (`shows_toList`).
`run_refines` joins the three.  It also says what the order of names is: that of their
first appearance, without duplicates.
-/

namespace SchoolDesk

/-! ## Lists without duplicates -/

section

variable {α : Type} [BEq α] [LawfulBEq α]

/-- What is appended stays unless it is there already. -/
theorem eraseDups_concat (l : List α) (a : α) :
    (l ++ [a]).eraseDups = if a ∈ l then l.eraseDups else l.eraseDups ++ [a] := by
  rw [List.eraseDups_append, List.removeAll]
  by_cases h : a ∈ l
  · simp [h]
  · simp [h, List.eraseDups_cons]

theorem nodup_eraseDups (l : List α) : l.eraseDups.Nodup := by
  induction l using List.reverseRecOn with
  | nil => simp
  | append_singleton l a ih =>
      rw [eraseDups_concat]
      split
      · exact ih
      · next h =>
          refine List.nodup_append.mpr ⟨ih, by simp, ?_⟩
          intro x hx y hy same
          rw [List.mem_singleton.mp hy] at same
          exact h (List.mem_eraseDups.mp (same ▸ hx))

theorem eraseDups_of_nodup {l : List α} (h : l.Nodup) : l.eraseDups = l := by
  induction l using List.reverseRecOn with
  | nil => rfl
  | append_singleton l a ih =>
      obtain ⟨front, -, apart⟩ := List.nodup_append.mp h
      have new : a ∉ l := fun ha => apart a ha a (List.mem_singleton_self a) rfl
      rw [eraseDups_concat, if_neg new, ih front]

end

/-! ## Changes -/

/-- What can be done to a roster. -/
inductive Change where
  | insert (name : String) (a : Activity)
  | signup (name email : String)
deriving DecidableEq, Repr

/-- The answer to a change.  Nothing is answered to an insertion. -/
abbrev Change.Answer := Option (Except ActivityNotFound SignupOutcome)

/-- The names under which changes put activities, in order. -/
def inserted (changes : List Change) : List String :=
  changes.filterMap fun
    | .insert name _ => some name
    | .signup _ _ => none

namespace Entries

/-- The answer to a change, and the entries that it leaves behind. -/
def change (es : Entries) : Change → Change.Answer × Entries
  | .insert name a => (none, put name a es)
  | .signup name email =>
      match signup es name email with
      | .ok (outcome, next) => (some (.ok outcome), next)
      | .error e => (some (.error e), es)

/-- Answers changes one after the other. -/
def run (es : Entries) (changes : List Change) : List Change.Answer × Entries :=
  feed change es changes

/-- The entries of some names that all are in a dictionary are under these names. -/
theorem map_fst_ofNames {get : String → Option Activity} {names : List String}
    (h : ∀ name ∈ names, (get name).isSome) : (ofNames get names).map Prod.fst = names := by
  induction names with
  | nil => rfl
  | cons name names ih =>
      obtain ⟨a, found⟩ := Option.isSome_iff_exists.mp (h name (.head _))
      have ih := ih fun n hn => h n (.tail _ hn)
      rw [ofNames] at ih ⊢
      rw [List.filterMap_cons_some (b := (name, a)) (by rw [found]; rfl), List.map_cons, ih]

end Entries

namespace Roster

/-- The answer to a change, and the roster that it leaves behind. -/
def change (r : Roster) : Change → Change.Answer × Roster
  | .insert name a => (none, r.insert name a)
  | .signup name email =>
      match r.signup name email with
      | .ok (outcome, next) => (some (.ok outcome), next)
      | .error e => (some (.error e), r)

/-- Answers changes one after the other. -/
def run (r : Roster) (changes : List Change) : List Change.Answer × Roster :=
  feed change r changes

/-! ## A roster and its entries -/

/-- All that a roster shows is what some entries say. -/
structure Shows (r : Roster) (es : Entries) : Prop where
  size : r.size = es.length
  isEmpty : r.isEmpty = es.isEmpty
  toList : r.toList = es
  get? : ∀ name, r.get? name = es.lookup name
  isRegistered : ∀ name email, (r.get? name).map (fun a => a.isRegistered email) =
    (es.lookup name).map fun a => decide (email ∈ a.participants)
  signup : ∀ name email,
    (r.signup name email).map Prod.fst = (Entries.signup es name email).map Prod.fst
  text : r.document.toString =
    (Json.Document.object (es.map fun p => (p.1, p.2.document))).toString

/-- Every name is listed with its activity. -/
theorem map_fst_toList (r : Roster) : r.toList.map Prod.fst = r.names :=
  Entries.map_fst_ofNames fun _ there => isSome_get?_iff.mpr there

/-- A signup leaves the names. -/
theorem names_of_signup_eq_ok {r next : Roster} {name email : String} {outcome : SignupOutcome}
    (h : r.signup name email = .ok (outcome, next)) : next.names = r.names := by
  obtain ⟨a, there, ⟨-, -, rfl⟩ | ⟨-, -, rfl⟩⟩ := signup_cases h
  · rfl
  · have mem : name ∈ r.names := isSome_get?_iff.mp (by simp [there])
    rw [names_insert, if_pos mem]

/-- After some changes the names are those from before and those inserted, each where it
first appears. -/
theorem names_run (r : Roster) (changes : List Change) :
    (r.run changes).2.names = (r.names ++ inserted changes).eraseDups := by
  induction changes using List.reverseRecOn with
  | nil => simp [run, feed, inserted, eraseDups_of_nodup r.names_nodup]
  | append_singleton changes c ih =>
      rw [run, feed_concat, ← run]
      cases c with
      | insert name a =>
          have more : inserted (changes ++ [.insert name a]) = inserted changes ++ [name] := by
            simp [inserted]
          rw [change, names_insert, ih, more, ← List.append_assoc, eraseDups_concat]
          simp only [List.mem_eraseDups]
      | signup name email =>
          have same : inserted (changes ++ [.signup name email]) = inserted changes := by
            simp [inserted]
          rw [same, ← ih, change]
          cases answer : (r.run changes).2.signup name email with
          | error e => rfl
          | ok outcome => exact names_of_signup_eq_ok answer

end Roster

end SchoolDesk
