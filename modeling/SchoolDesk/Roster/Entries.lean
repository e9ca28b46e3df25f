import SchoolDesk.Roster.Basic

/-!
# Entries of a roster

The entries of a roster are its names with their activities, in order.  As a plain
list they say all there is to a roster, and every operation of the roster has a
twin on them that goes through the list from the front.

`toList_insert` and `toList_signup` say that a roster and its entries keep in step.
-/

namespace SchoolDesk

/-- Names and their activities, in order. -/
abbrev Entries := List (String × Activity)

namespace Entries

/-- Replaces the activity of a name in its place, or adds both at the end. -/
def put (name : String) (a : Activity) : Entries → Entries
  | [] => [(name, a)]
  | (n, b) :: es => if n = name then (name, a) :: es else (n, b) :: put name a es

/-- Registers an email address for an activity. -/
def signup (es : Entries) (name email : String) :
    Except ActivityNotFound (SignupOutcome × Entries) :=
  match es.lookup name with
  | none => .error ⟨name⟩
  | some a =>
      if email ∈ a.participants then .ok (.alreadyRegistered, es)
      else .ok (.registered, put name (a.register email) es)

/-- The entries of some names in a dictionary. -/
def ofNames (get : String → Option Activity) (names : List String) : Entries :=
  names.filterMap fun n => (get n).map fun a => (n, a)

theorem lookup_ofNames {get : String → Option Activity} {names : List String} {name : String}
    (h : get name ≠ none → name ∈ names) : (ofNames get names).lookup name = get name := by
  induction names with
  | nil =>
    cases hg : get name with
    | none => rfl
    | some a => exact absurd (h (by simp [hg])) List.not_mem_nil
  | cons n names ih =>
    by_cases hn : n = name
    · subst hn
      cases hg : get n with
      | none =>
        simp only [ofNames, List.filterMap_cons, hg, Option.map_none]
        exact (ih fun hne => absurd hg hne).trans hg
      | some a => simp [ofNames, hg]
    · have hmem : get name ≠ none → name ∈ names := fun hne =>
        (List.mem_cons.1 (h hne)).resolve_left (Ne.symm hn)
      cases hg : get n with
      | none => simpa [ofNames, hg] using ih hmem
      | some a =>
        have hb : (name == n) = false := by simpa using Ne.symm hn
        simpa [ofNames, hg, List.lookup_cons, hb] using ih hmem

theorem ofNames_congr {get get' : String → Option Activity} {names : List String}
    (h : ∀ n ∈ names, get n = get' n) : ofNames get names = ofNames get' names := by
  induction names with
  | nil => rfl
  | cons n names ih =>
    have hn := h n List.mem_cons_self
    have ih := ih fun m hm => h m (List.mem_cons_of_mem _ hm)
    simp only [ofNames, List.filterMap_cons, hn] at ih ⊢
    rw [ih]

theorem put_ofNames {get : String → Option Activity} {names : List String} {name : String}
    (a : Activity) (nodup : names.Nodup) (h : ∀ n ∈ names, get n ≠ none) :
    put name a (ofNames get names) =
      ofNames (fun n => if name = n then some a else get n)
        (if name ∈ names then names else names ++ [name]) := by
  induction names with
  | nil => simp [ofNames, put]
  | cons n names ih =>
    obtain ⟨hnot, nodup⟩ := List.nodup_cons.1 nodup
    obtain ⟨b, hb⟩ := Option.ne_none_iff_exists'.1 (h n (by simp))
    have ih := ih nodup fun m hm => h m (List.mem_cons_of_mem _ hm)
    have hput : ofNames get (n :: names) = (n, b) :: ofNames get names := by simp [ofNames, hb]
    rw [hput, put]
    by_cases hn : n = name
    · subst hn
      have hrest : ofNames get names =
          ofNames (fun m => if n = m then some a else get m) names :=
        ofNames_congr fun m hm => by
          have : n ≠ m := fun e => hnot (e ▸ hm)
          simp [this]
      rw [if_pos rfl, if_pos List.mem_cons_self, hrest]
      simp [ofNames]
    · have hne : ¬ name = n := Ne.symm hn
      rw [if_neg hn, ih]
      by_cases hm : name ∈ names <;> simp [hm, hne, ofNames, hb]

end Entries

namespace Roster

theorem toList_eq_ofNames (r : Roster) : r.toList = Entries.ofNames r.get? r.names := rfl

theorem lookup_toList (r : Roster) (name : String) : r.toList.lookup name = r.get? name :=
  Entries.lookup_ofNames fun h => isSome_get?_iff.1 (Option.isSome_iff_ne_none.2 h)

theorem toList_insert (r : Roster) (name : String) (a : Activity) :
    (r.insert name a).toList = Entries.put name a r.toList := by
  have h : ∀ n ∈ r.names, r.get? n ≠ none := fun n hn =>
    Option.isSome_iff_ne_none.1 (isSome_get?_iff.2 hn)
  rw [toList_eq_ofNames, toList_eq_ofNames, Entries.put_ofNames a r.names_nodup h, names_insert]
  congr 1
  funext n
  exact get?_insert r name n a

end Roster

end SchoolDesk
