import SchoolDesk.Proofs.Roster.Participants

/-!
# Signups in any order

Signups may come in any order, and it makes little difference.  Two signups for one activity
do not commute, since the addresses join in the order in which they came.  But who joins does
not depend on the order (`newcomers_perm`), and neither do the answers to one request that
comes again and again: of those, only the first can be registered, whatever comes between
them (`answersTo_eq`).

`signups_perm` says both of any two orders of the same requests.
-/

namespace SchoolDesk

/-! ## Requests -/

/-- Requests of a name and an address each, as changes. -/
def signups (requests : List (String × String)) : List Change :=
  requests.map fun q => .signup q.1 q.2

section

variable (start : Roster) (n : String) (requests : List (String × String))

theorem inserted_signups : inserted (signups requests) = [] := by
  rw [inserted, signups, List.filterMap_map]
  exact List.filterMap_eq_nil_iff.mpr fun _ _ => rfl

theorem activityFor?_of_mem_signups {c : Change} (h : c ∈ signups requests) :
    c.activityFor? n = none := by
  obtain ⟨q, -, rfl⟩ := List.mem_map.mp h
  rfl

/-- Signups give no name another activity. -/
theorem given_signups : given start n (signups requests) = start.get? n := by
  have none : (signups requests).filterMap (Change.activityFor? n) = [] :=
    List.filterMap_eq_nil_iff.mpr fun _ there => activityFor?_of_mem_signups n requests there
  rw [given, none, List.getLast?_nil, Option.none_or]

/-- All addresses that come with a name are asked for. -/
theorem asked_signups :
    asked n (signups requests) = (signups requests).filterMap (Change.addressFor? n) := by
  have all : since id n (signups requests) = signups requests := by
    rw [since, List.rtakeWhile_eq_self_iff]
    intro c there
    rw [id, activityFor?_of_mem_signups n requests there]
    rfl
  rw [asked, all]

theorem mem_asked_signups {email : String} :
    email ∈ asked n (signups requests) ↔ (n, email) ∈ requests := by
  rw [asked_signups, signups, List.filterMap_map]
  simp [Change.addressFor?]

/-- A name has its old activity after some signups, joined by those who asked for it. -/
theorem get?_run_signups :
    (start.run (signups requests)).2.get? n =
      (start.get? n).map fun a => a.joinedBy (asked n (signups requests)) := by
  rw [Roster.get?_run, given_signups]

end

/-! ## Those who join -/

/-- In whatever order addresses come, the same ones are new. -/
theorem newcomers_perm (a : Activity) {emails others : List String} (h : emails.Perm others) :
    (newcomers a emails).Perm (newcomers a others) := by
  rw [newcomers, newcomers, List.perm_ext_iff_of_nodup (nodup_eraseDups _) (nodup_eraseDups _)]
  intro email
  rw [List.mem_eraseDups, List.mem_eraseDups]
  exact (h.filter _).mem_iff

theorem asked_signups_perm (n : String) {requests others : List (String × String)}
    (h : requests.Perm others) :
    (asked n (signups requests)).Perm (asked n (signups others)) := by
  rw [asked_signups, asked_signups]
  exact (h.map _).filterMap _

namespace Roster

/-! ## The answers to one request -/

/-- The answers that one request gets among others, each time that it comes. -/
def answersTo (start : Roster) (requests : List (String × String)) (q : String × String) :
    List Change.Answer :=
  ((start.exchanges (signups requests)).filter fun e => e.1 = .signup q.1 q.2).map Prod.snd

/-- The answer to a request that came `k` times before. -/
def answerAfter (start : Roster) (q : String × String) (k : Nat) : Change.Answer :=
  match start.get? q.1 with
  | none => some (.error ⟨q.1⟩)
  | some a =>
      if q.2 ∈ a.participants ∨ 0 < k then some (.ok .alreadyRegistered)
      else some (.ok .registered)

section

variable (start : Roster) (requests : List (String × String)) (q : String × String)

/-- A request is answered by how often it came before, whatever else came before. -/
theorem answer_signups :
    ((start.run (signups requests)).2.change (.signup q.1 q.2)).1 =
      start.answerAfter q (requests.count q) := by
  have before : q.2 ∈ asked q.1 (signups requests) ↔ 0 < requests.count q := by
    rw [mem_asked_signups, Prod.mk.eta, List.count_pos_iff]
  rw [answer_signup, given_signups, answerAfter]
  cases start.get? q.1 with
  | none => rfl
  | some a => exact if_congr (or_congr_right before) rfl rfl

/-- The answers to one request are told by how often it comes, whatever else comes. -/
theorem answersTo_eq :
    start.answersTo requests q = (List.range (requests.count q)).map (start.answerAfter q) := by
  induction requests using List.reverseRecOn with
  | nil => rfl
  | append_singleton requests next ih =>
      have more : signups (requests ++ [next]) =
          signups requests ++ [.signup next.1 next.2] := List.map_append
      rw [answersTo, more, exchanges_concat, List.filter_append, List.map_append, ← answersTo, ih,
        List.count_append]
      by_cases same : next = q
      · subst same
        simp [answer_signups, List.range_succ]
      · have other : Change.signup next.1 next.2 ≠ .signup q.1 q.2 := by
          intro changes
          injection changes with name email
          exact same (Prod.ext name email)
        simp [other, same]

/-- A request for an address that is new is registered the first time, and only then. -/
theorem answersTo_of_new {a : Activity} (there : start.get? q.1 = some a)
    (new : q.2 ∉ a.participants) (comes : q ∈ requests) :
    start.answersTo requests q =
      some (.ok .registered) ::
        List.replicate (requests.count q - 1) (some (.ok .alreadyRegistered)) := by
  have first : start.answerAfter q 0 = some (.ok .registered) := by
    simp [answerAfter, there, new]
  have later (k : Nat) : start.answerAfter q (k + 1) = some (.ok .alreadyRegistered) := by
    simp [answerAfter, there]
  obtain ⟨k, often⟩ := Nat.exists_eq_succ_of_ne_zero (List.count_pos_iff.mpr comes).ne'
  rw [answersTo_eq, often, List.range_succ_eq_map, List.map_cons, List.map_map, first]
  congr 1
  rw [List.eq_replicate_iff]
  refine ⟨by simp, fun answer mem => ?_⟩
  obtain ⟨i, -, rfl⟩ := List.mem_map.mp mem
  exact later i

end

/-! ## Any order -/

/-- From any roster, the same signups in two orders lead to rosters with the old names in the
old order.  In both each activity is the old one with some addresses behind its old
participants, and these are the same addresses, perhaps in another order.  Each request gets
the same answers in both.  If its name is there and its address is new, just the first is
that it is registered, and the others are that it was registered before. -/
theorem signups_perm (start : Roster) {requests others : List (String × String)}
    (h : requests.Perm others) :
    let r := (start.run (signups requests)).2
    let s := (start.run (signups others)).2
    r.names = start.names ∧ s.names = start.names ∧
      (∀ n a, start.get? n = some a →
        ∃ joined joined', joined.Perm joined' ∧
          r.get? n = some { a with participants := a.participants ++ joined } ∧
          s.get? n = some { a with participants := a.participants ++ joined' }) ∧
      ∀ q, start.answersTo requests q = start.answersTo others q ∧
        ∀ a, start.get? q.1 = some a → q.2 ∉ a.participants → q ∈ requests →
          start.answersTo requests q =
            some (.ok .registered) ::
              List.replicate (requests.count q - 1) (some (.ok .alreadyRegistered)) := by
  intro r s
  have names (requests : List (String × String)) :
      (start.run (signups requests)).2.names = start.names := by
    rw [names_run, inserted_signups, List.append_nil, eraseDups_of_nodup start.names_nodup]
  refine ⟨names requests, names others, fun n a there => ?_, fun q => ⟨?_, ?_⟩⟩
  · refine ⟨newcomers a (asked n (signups requests)), newcomers a (asked n (signups others)),
      newcomers_perm a (asked_signups_perm n h), ?_, ?_⟩
    · rw [get?_run_signups, there]
      rfl
    · rw [get?_run_signups, there]
      rfl
  · rw [answersTo_eq, answersTo_eq, h.count_eq]
  · exact fun a => start.answersTo_of_new requests q

/-- One address asks three times and another once, with a name that is not there between
them. -/
theorem signups_perm_chess :
    let start := ofList [("Chess", ⟨"Games", "Mondays", 2, ["ann", "ann"]⟩)]
    let requests := [("Chess", "bob"), ("Choir", "bob"), ("Chess", "cid"), ("Chess", "bob"),
      ("Chess", "bob")]
    let others := [("Chess", "cid"), ("Chess", "bob"), ("Chess", "bob"), ("Chess", "bob"),
      ("Choir", "bob")]
    requests.Perm others ∧
      start.answersTo others ("Chess", "bob") =
        [some (.ok .registered), some (.ok .alreadyRegistered), some (.ok .alreadyRegistered)] ∧
      ∃ joined joined', joined.Perm joined' ∧
        (start.run (signups requests)).2.get? "Chess" =
          some ⟨"Games", "Mondays", 2, ["ann", "ann"] ++ joined⟩ ∧
        (start.run (signups others)).2.get? "Chess" =
          some ⟨"Games", "Mondays", 2, ["ann", "ann"] ++ joined'⟩ := by
  intro start requests others
  have h : requests.Perm others := by decide
  have there : start.get? "Chess" = some ⟨"Games", "Mondays", 2, ["ann", "ann"]⟩ :=
    get?_insert_self _ _ _
  obtain ⟨-, -, activities, answers⟩ := signups_perm start h
  obtain ⟨same, told⟩ := answers ("Chess", "bob")
  refine ⟨h, ?_, activities "Chess" _ there⟩
  rw [← same]
  exact told _ there (by decide) (by decide)

end Roster

end SchoolDesk
