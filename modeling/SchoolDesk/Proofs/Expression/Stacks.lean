import Mathlib.Data.List.Count
import SchoolDesk.Expression.Recorded
import SchoolDesk.Proofs.Expression.Verdict

/-!
# The stacks between two lexemes

Three things are true of the stacks of the machine wherever it stands between two lexemes
(`Machine.HoldsAfter`).  Every pending operator binds tighter than the one right below it,
so there are at most two of them between parentheses and the stack is never higher than
three times the open parentheses and two more.  The pending parentheses are as many as have
been opened and not closed.  And the operands, with the operators that were read, are as
many as the numbers that were read, with the operators that are pending.

A lexeme keeps all three together (`HoldsAfter.step`), and so a run does.  The first rests
on where unwinding stops: at a parenthesis or at an operator that binds less tightly, so an
operator that is pushed then binds tighter than what it is pushed on
(`Pending.topPrecedence_takeDue_lt`).

What is pending on top bounds every loop of the machine.  Unwinding calls for one
application for each operator that it takes off, and for none when a parenthesis is on top
or nothing is (`Recorded.exists_operators_of_unwind`).
-/

namespace SchoolDesk.Expression

open Program (depth takeDue emit)

/-! ## Pending operators that bind tighter and tighter -/

namespace Operator

theorem precedence_pos (o : Operator) : 0 < o.precedence := by
  cases o <;> decide

theorem precedence_le_two (o : Operator) : o.precedence ≤ 2 := by
  cases o <;> decide

/-- There are two precedences, so no more than two operators bind tighter and tighter. -/
theorem length_le_two {os : List Operator}
    (h : os.Pairwise fun upper lower => lower.precedence < upper.precedence) : os.length ≤ 2 := by
  match os, h with
  | [], _ => exact Nat.zero_le _
  | [_], _ => exact Nat.le_succ _
  | [_, _], _ => exact Nat.le_refl _
  | a :: b :: c :: _, h =>
      have first : b.precedence < a.precedence := List.rel_of_pairwise_cons h (.head _)
      have second : c.precedence < b.precedence := List.rel_of_pairwise_cons h.of_cons (.head _)
      have least := c.precedence_pos
      have greatest := a.precedence_le_two
      omega

end Operator

namespace Pending

/-- The precedence of the operator on top, and zero if none is there. -/
def topPrecedence : List Pending → Nat
  | .op o :: _ => o.precedence
  | _ => 0

/-- Every pending operator binds tighter than the operator right below it. -/
inductive Rising : List Pending → Prop where
  | nil : Rising []
  | openParen {pending : List Pending} (h : Rising pending) : Rising (.openParen :: pending)
  | op {o : Operator} {pending : List Pending} (tighter : topPrecedence pending < o.precedence)
      (h : Rising pending) : Rising (.op o :: pending)

theorem topPrecedence_le_two (pending : List Pending) : topPrecedence pending ≤ 2 := by
  cases pending with
  | nil => exact Nat.zero_le _
  | cons p pending =>
      cases p with
      | openParen => exact Nat.zero_le _
      | op o => exact o.precedence_le_two

/-- What stays pending when an operator is read binds less tightly. -/
theorem topPrecedence_takeDue_lt (o : Operator) (pending : List Pending) :
    topPrecedence (takeDue (fun top => o.precedence ≤ top.precedence) pending).2 <
      o.precedence := by
  induction pending with
  | nil => exact o.precedence_pos
  | cons p pending ih =>
      cases p with
      | openParen => exact o.precedence_pos
      | op top =>
          by_cases due : o.precedence ≤ top.precedence
          · simpa [takeDue, due] using ih
          · simpa [takeDue, due, topPrecedence] using Nat.lt_of_not_le due

/-- The operators on top bind no tighter than the topmost one. -/
theorem precedence_le_topPrecedence {pending : List Pending} {os : List Operator}
    (top : os.map .op <+: pending)
    (h : os.Pairwise fun upper lower => lower.precedence < upper.precedence) {o : Operator}
    (member : o ∈ os) : o.precedence ≤ topPrecedence pending := by
  cases h with
  | nil => cases member
  | @cons first os looser _ =>
      obtain ⟨below, rfl⟩ := top
      rcases List.mem_cons.mp member with rfl | member
      · exact Nat.le_refl _
      · exact Nat.le_of_lt (looser o member)

namespace Rising

/-- Taking operators off leaves the order. -/
theorem takeDue {pending : List Pending} (h : Rising pending) (due : Operator → Bool) :
    Rising (takeDue due pending).2 := by
  induction h with
  | nil => exact .nil
  | openParen h => exact .openParen h
  | @op o pending tighter h ih =>
      by_cases isDue : due o = true
      · simpa [Program.takeDue, isDue] using ih
      · simpa [Program.takeDue, isDue] using Rising.op tighter h

/-- A lexeme leaves the order. -/
theorem emit {pending rest : List Pending} {t : Lexeme} (h : Rising pending)
    (effect : (emit pending t).2 = .ok rest) : Rising rest := by
  cases t with
  | word w =>
      cases hv : Literal.value? w with
      | some v =>
          rw [Program.emit_word hv] at effect
          cases effect
          exact h
      | none => simp [Program.emit_word_of_none hv] at effect
  | openParen =>
      cases effect
      exact .openParen h
  | closeParen =>
      have below := h.takeDue fun _ => true
      rcases Program.takeDue_all pending with ⟨is, due⟩ | ⟨is, rest', due⟩
      · simp [Program.emit_closeParen_of_nil due] at effect
      · rw [Program.emit_closeParen due] at effect
        cases effect
        rw [due] at below
        cases below with
        | openParen below => exact below
  | op o =>
      cases effect
      exact .op (topPrecedence_takeDue_lt o pending) (h.takeDue _)
  | unknown c => cases effect

/-- Each open parenthesis makes room for itself and two operators, and what is on top says
how much of the room above the last one is taken. -/
theorem length_le {pending : List Pending} (h : Rising pending) :
    pending.length ≤ 3 * depth pending + topPrecedence pending := by
  induction h with
  | nil => exact Nat.zero_le _
  | @openParen pending h ih =>
      have most := topPrecedence_le_two pending
      simp only [List.length_cons, depth, topPrecedence]
      omega
  | op tighter h ih =>
      simp only [List.length_cons, depth, topPrecedence]
      omega

/-- Operators that are pending one right above the other bind tighter and tighter. -/
theorem pairwise {pending : List Pending} (h : Rising pending) {os : List Operator}
    (together : os.map .op <:+: pending) :
    os.Pairwise fun upper lower => lower.precedence < upper.precedence := by
  induction h generalizing os with
  | nil =>
      rw [List.infix_nil, List.map_eq_nil_iff] at together
      subst together
      exact .nil
  | openParen h ih =>
      rcases List.infix_cons_iff.mp together with top | below
      · cases os with
        | nil => exact .nil
        | cons o os => simp at top
      · exact ih below
  | @op o pending tighter h ih =>
      rcases List.infix_cons_iff.mp together with top | below
      · cases os with
        | nil => exact .nil
        | cons o' os =>
            rw [List.map_cons, List.cons_prefix_cons] at top
            obtain ⟨same, top⟩ := top
            cases same
            have rest := ih top.isInfix
            exact .cons (fun lower member =>
              Nat.lt_of_le_of_lt (precedence_le_topPrecedence top rest member) tighter) rest
      · exact ih below

end Rising

theorem count_openParen (pending : List Pending) : pending.count .openParen = depth pending := by
  induction pending with
  | nil => rfl
  | cons p pending ih =>
      cases p with
      | openParen => simp [depth, ih]
      | op o => simp [depth, ih]

end Pending

/-! ## What a lexeme keeps -/

/-- A lexeme that is read opens a parenthesis, closes one, or leaves those that are open. -/
theorem Program.depth_emit {pending rest : List Pending} {t : Lexeme}
    (effect : (emit pending t).2 = .ok rest) :
    depth rest + [t].count .closeParen = depth pending + [t].count .openParen := by
  cases t with
  | word w =>
      cases hv : Literal.value? w with
      | some v =>
          rw [emit_word hv] at effect
          cases effect
          simp
      | none => simp [emit_word_of_none hv] at effect
  | openParen =>
      cases effect
      simp [depth]
  | closeParen =>
      have kept := depth_takeDue (fun _ => true) pending
      rcases takeDue_all pending with ⟨is, due⟩ | ⟨is, rest', due⟩
      · simp [emit_closeParen_of_nil due] at effect
      · rw [emit_closeParen due] at effect
        cases effect
        rw [due] at kept
        simpa [depth] using kept
  | op o =>
      cases effect
      have kept := depth_takeDue (fun top => o.precedence ≤ top.precedence) pending
      simpa [depth] using kept
  | unknown c => cases effect

namespace Machine

/-- What is true of the machine when it has read some lexemes from the start. -/
structure HoldsAfter (m : Machine) (ts : List Lexeme) : Prop where
  rising : Pending.Rising m.pending
  /-- The pending parentheses are those that were opened and not closed. -/
  opened : depth m.pending + ts.count .closeParen = ts.count .openParen
  /-- The numbers and operators that were read are in the operands or pending. -/
  kept : m.Keeps ts

theorem holdsAfter_nil : HoldsAfter {} [] := ⟨.nil, rfl, keeps_nil⟩

theorem HoldsAfter.step {m next : Machine} {ts : List Lexeme} {t : Lexeme}
    (h : m.HoldsAfter ts) (run : m.step t = .ok next) : next.HoldsAfter (ts ++ [t]) := by
  obtain ⟨-, effect⟩ := Program.step_eq_ok_iff.mp run
  refine ⟨h.rising.emit effect, ?_, h.kept.step run⟩
  have one := Program.depth_emit effect
  have before := h.opened
  rw [List.count_append, List.count_append]
  omega

theorem HoldsAfter.run {us : List Lexeme} {m next : Machine} {ts : List Lexeme}
    (h : m.HoldsAfter ts) (run : m.run us = .ok next) : next.HoldsAfter (ts ++ us) :=
  run_induction HoldsAfter.step h run

end Machine

/-! ## What has been read of a text -/

namespace Lexeme

/-- The part of a text that is read with the first lexemes of its scan has these lexemes for
its own scan. -/
theorem scan_flatMap_text {s : List Char} {read rest : List Lexeme} (h : scan s = read ++ rest) :
    scan (read.flatMap text) = read := by
  induction s using lexeme_induction generalizing read rest with
  | nil =>
      obtain ⟨rfl, -⟩ := List.append_eq_nil_iff.mp h.symm
      rfl
  | lead t s leads ih =>
      cases read with
      | nil => rfl
      | cons u read =>
          rw [leads.scan, List.cons_append] at h
          obtain ⟨rfl, behind⟩ := List.cons.inj h
          have split : s = read.flatMap text ++ rest.flatMap text := by
            rw [← List.flatMap_append, ← behind, text_scan]
          rw [split] at leads
          rw [List.flatMap_cons, leads.of_append.scan, ih behind]

theorem ofChar_injective : Function.Injective ofChar := by
  intro c d same
  have texts : (ofChar c).text = (ofChar d).text := congrArg text same
  rw [text_ofChar, text_ofChar] at texts
  exact List.singleton_inj.mp texts

/-- A character that belongs to no word is in a text as often as its lexeme is in the
scan. -/
theorem count_scan {c : Char} (h : Literal.isWordChar c = false) (s : List Char) :
    (scan s).count (ofChar c) = s.count c := by
  induction s using lexeme_induction with
  | nil => rfl
  | lead t s leads ih =>
      have one : [t].count (ofChar c) = t.text.count c := by
        cases leads with
        | @word w _ nonempty chars ends =>
            have outside : c ∉ w := by
              intro member
              rw [List.all_eq_true.mp chars c member] at h
              cases h
            have other : ofChar c ∉ [.word w] := by
              rw [List.mem_singleton]
              exact ofChar_ne_word c w
            rw [text, List.count_eq_zero.mpr outside, List.count_eq_zero.mpr other]
        | @single d noWordChar =>
            rw [text_ofChar]
            exact List.count_map_of_injective [d] ofChar ofChar_injective c
      rw [leads.scan, ← List.singleton_append, List.count_append, List.count_append, one, ih]

end Lexeme

/-! ## The calls of a loop -/

namespace Recorded

variable {α β : Type}

/-- Unwinding calls for one application for each operator that it takes off, with this
operator on top. -/
theorem exists_operators_of_unwind (due : Operator → Bool) (m : Machine) :
    ∃ (os : List Operator) (rest : List Pending), m.pending = os.map .op ++ rest ∧
      (unwind due m).calls.map (fun call => call.pending.head?) =
        os.map fun o => some (.op o) := by
  fun_induction unwind due m with
  | case1 m o below top isDue next applied ih =>
      obtain ⟨o', same⟩ := Guarded.pending_applyTop applied
      obtain ⟨os, rest, split, calls⟩ := ih
      have first : m.pending.head? = some (.op o') := by rw [same, List.head?_cons]
      refine ⟨o' :: os, rest, ?_, congrArg₂ List.cons first calls⟩
      rw [same, split]
      rfl
  | case2 m o below top isDue e failed =>
      have first : m.pending.head? = some (.op o) := by rw [top, List.head?_cons]
      exact ⟨[o], below, top, congrArg₂ List.cons first rfl⟩
  | case3 m o below top notDue => exact ⟨[], m.pending, rfl, rfl⟩
  | case4 m other => exact ⟨[], m.pending, rfl, rfl⟩

/-- From stacks in order a loop calls for two applications at most, and never for more than
there are pending operators. -/
theorem length_calls_unwind_le {m : Machine} (h : Pending.Rising m.pending)
    (due : Operator → Bool) :
    (unwind due m).calls.length ≤ min (m.pending.filterMap Pending.operator?).length 2 := by
  obtain ⟨os, rest, split, calls⟩ := exists_operators_of_unwind due m
  have together : os.map .op <:+: m.pending := by
    rw [split]
    exact (List.prefix_append _ _).isInfix
  have few := Operator.length_le_two (h.pairwise together)
  have all : (m.pending.filterMap Pending.operator?).length =
      os.length + (rest.filterMap Pending.operator?).length := by
    have operators : (os.map Pending.op).filterMap Pending.operator? = os := by
      simp [List.filterMap_map, Function.comp_def, Pending.operator?]
    rw [split, List.filterMap_append, List.length_append, operators]
  have one := congrArg List.length calls
  rw [List.length_map, List.length_map] at one
  omega

/-- An operation that makes no calls adds none to those before it. -/
theorem calls_bind_of_silent {x : Recorded α} {next : α → Recorded β}
    (silent : ∀ a, (next a).calls = []) : (x.bind next).calls = x.calls := by
  unfold bind
  cases x.result with
  | error e => rfl
  | ok a =>
      show x.calls ++ (next a).calls = x.calls
      rw [silent, List.append_nil]

theorem calls_pushOperator (o : Operator) (m : Machine) :
    (pushOperator o m).calls = (unwind (fun top => o.precedence ≤ top.precedence) m).calls :=
  calls_bind_of_silent fun _ => rfl

theorem calls_closeParen (m : Machine) :
    (closeParen m).calls = (unwind (fun _ => true) m).calls :=
  calls_bind_of_silent fun m => by split <;> rfl

theorem calls_finish (m : Machine) : (finish m).calls = (unwind (fun _ => true) m).calls :=
  calls_bind_of_silent fun m => by split <;> rfl

/-- Every call is made with an operator on top. -/
def CallsOperators (x : Recorded α) : Prop :=
  ∀ call ∈ x.calls, ∃ o below, call.pending = .op o :: below

theorem callsOperators_unwind (due : Operator → Bool) (m : Machine) :
    (unwind due m).CallsOperators := by
  obtain ⟨os, rest, -, calls⟩ := exists_operators_of_unwind due m
  intro call member
  have top : call.pending.head? ∈ os.map fun o => some (Pending.op o) := by
    rw [← calls]
    exact List.mem_map_of_mem member
  obtain ⟨o, -, same⟩ := List.mem_map.mp top
  exact ⟨o, List.head?_eq_some_iff.mp same.symm⟩

theorem CallsOperators.bind {x : Recorded α} {next : α → Recorded β} (h : x.CallsOperators)
    (more : ∀ a, (next a).CallsOperators) : (x.bind next).CallsOperators := by
  unfold Recorded.bind
  cases x.result with
  | error e => exact h
  | ok a =>
      intro call member
      rcases List.mem_append.mp member with before | behind
      · exact h call before
      · exact more a call behind

theorem callsOperators_step (m : Machine) (t : Lexeme) : (step m t).CallsOperators := by
  cases t with
  | closeParen =>
      rw [step, CallsOperators, calls_closeParen]
      exact callsOperators_unwind _ m
  | op o =>
      rw [step, CallsOperators, calls_pushOperator]
      exact callsOperators_unwind _ m
  | word w => exact List.forall_mem_nil _
  | openParen => exact List.forall_mem_nil _
  | unknown c => exact List.forall_mem_nil _

theorem callsOperators_run (m : Machine) (ts : List Lexeme) : (run m ts).CallsOperators := by
  induction ts generalizing m with
  | nil =>
      rw [run, CallsOperators, calls_finish]
      exact callsOperators_unwind _ m
  | cons t ts ih => exact (callsOperators_step m t).bind ih

theorem callsOperators_evaluate (text : String) : (evaluate text).CallsOperators := by
  rw [evaluate]
  by_cases blank : (Text.strip text.toList).isEmpty = true
  · rw [if_pos blank]
    exact List.forall_mem_nil _
  · rw [if_neg blank]
    cases adjacentOperators? (Text.strip text.toList) with
    | some pair => exact List.forall_mem_nil _
    | none => exact callsOperators_run {} _

end Recorded

/-! ## Every point between two lexemes -/

/-- Wherever the scan of a text stands between two lexemes and no error has come up, the
stacks are in order.  Operators that are pending with no parenthesis between them bind
strictly tighter from the bottom to the top, so there are two of them at most, and the stack
of what is pending is not higher than three times its parentheses and two.  These are as
many as the part of the text that was read opens and does not close.  The operands, with the
operators of that part, are as many as its numbers with the operators that are pending.

So whatever comes next is done with at most as many applications as operators are pending,
and with two at most.  And in the whole evaluation of a text an application is never called
for with nothing pending or with a parenthesis on top. -/
theorem evaluate_stacks {text : String} {read rest : List Lexeme} {m : Machine}
    (scanned : Lexeme.scan (Text.strip text.toList) = read ++ rest)
    (reached : Machine.run {} read = .ok m) :
    let front := read.flatMap Lexeme.text
    let opened := m.pending.count .openParen
    let operators := (m.pending.filterMap Pending.operator?).length
    (∀ os : List Operator, os.map .op <:+: m.pending →
        os.Pairwise (fun upper lower => lower.precedence < upper.precedence) ∧ os.length ≤ 2) ∧
      m.pending.length ≤ 3 * opened + 2 ∧
      opened + front.count ')' = front.count '(' ∧
      m.operands.length + (Operator.among front).length =
        (Literal.runs front).length + operators ∧
      (∀ o, (Recorded.pushOperator o m).calls.length ≤ min operators 2) ∧
      (Recorded.closeParen m).calls.length ≤ min operators 2 ∧
      (Recorded.finish m).calls.length ≤ min operators 2 ∧
      (Recorded.evaluate text).result = evaluate text ∧
      ∀ call ∈ (Recorded.evaluate text).calls, ∃ o below, call.pending = .op o :: below := by
  intro front opened operators
  have holds : m.HoldsAfter read := Machine.holdsAfter_nil.run reached
  have scan : Lexeme.scan front = read := Lexeme.scan_flatMap_text scanned
  have rising := holds.rising
  refine ⟨?_, ?_, ?_, ?_, ?_, ?_, ?_, Recorded.result_evaluate text,
    Recorded.callsOperators_evaluate text⟩
  · intro os together
    have tighter := rising.pairwise together
    exact ⟨tighter, Operator.length_le_two tighter⟩
  · have height := rising.length_le
    have top := Pending.topPrecedence_le_two m.pending
    have same : opened = depth m.pending := Pending.count_openParen m.pending
    omega
  · have closing : (Lexeme.scan front).count .closeParen = front.count ')' :=
      @Lexeme.count_scan ')' (by decide) front
    have opening : (Lexeme.scan front).count .openParen = front.count '(' :=
      @Lexeme.count_scan '(' (by decide) front
    have same : opened = depth m.pending := Pending.count_openParen m.pending
    rw [← closing, ← opening, scan, same]
    exact holds.opened
  · have count := holds.kept.count
    rw [← scan, Lexeme.words_scan, Lexeme.operators_scan] at count
    exact count
  · intro o
    rw [Recorded.calls_pushOperator]
    exact Recorded.length_calls_unwind_le rising _
  · rw [Recorded.calls_closeParen]
    exact Recorded.length_calls_unwind_le rising _
  · rw [Recorded.calls_finish]
    exact Recorded.length_calls_unwind_le rising _

/-- In front of the closing parenthesis, with one parenthesis open, what is pending is as
high as it can be. -/
theorem evaluate_stacks_full :
    let m : Machine :=
      ⟨[5, 4, 3, 2, 1].map fun n => Float.ofScientific n true 0,
        [.op .mul, .op .sub, .openParen, .op .mul, .op .add]⟩
    Lexeme.scan (Text.strip "1 + 2*(3 - 4*5) / 6".toList) =
        Lexeme.scan "1+2*(3-4*5".toList ++ [.closeParen, .op .div, .word ['6']] ∧
      Machine.run {} (Lexeme.scan "1+2*(3-4*5".toList) = .ok m ∧
      m.pending.length ≤ 3 * 1 + 2 ∧ m.pending.length = 5 ∧
      (Recorded.closeParen m).calls.length ≤ min 4 2 ∧
      ∀ call ∈ (Recorded.evaluate "1 + 2*(3 - 4*5) / 6").calls,
        ∃ o below, call.pending = .op o :: below := by
  intro m
  have scanned : Lexeme.scan (Text.strip "1 + 2*(3 - 4*5) / 6".toList) =
      Lexeme.scan "1+2*(3-4*5".toList ++ [.closeParen, .op .div, .word ['6']] := by decide
  have reached : Machine.run {} (Lexeme.scan "1+2*(3-4*5".toList) = .ok m := by rfl
  obtain ⟨-, height, -, -, -, closing, -, -, calls⟩ := evaluate_stacks scanned reached
  exact ⟨scanned, reached, height, rfl, closing, calls⟩

end SchoolDesk.Expression
