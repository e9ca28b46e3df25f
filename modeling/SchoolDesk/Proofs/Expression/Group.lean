import SchoolDesk.Proofs.Expression.Compilation
import SchoolDesk.Proofs.Expression.Postfix
import SchoolDesk.Proofs.Expression.Scan

/-!
# A group stands for its value

A text that has a value can be put in parentheses anywhere in another text, and the
machine then does what it would do with an operand of that value.  Both stacks are
shared with the text around the group, and nothing marks where the operands of the
group begin.  Still a run that goes well on its own never reaches below them.

The opening parenthesis keeps the pending operators apart: unwinding stops at it
(`takeDue_append_openParen`), so a lexeme emits the same instructions inside a group
as on its own (`emit_append_openParen`).  Instructions that run through do not look
below the operands they were given (`exec_frame`).  So a machine that is inside
another one takes the same steps as alone (`run_inside`), and the closing
parenthesis does what the end of the text would do (`closeParen_inside`).

`run_group` puts this together.  The search for two operators side by side does not
look across a parenthesis (`adjacentOperators?_append_cons`), so what a text with a
group is worth depends on the value of the group and on nothing else about it
(`evaluateStripped_group`).
-/

namespace SchoolDesk.Expression

/-! ## Texts with a parenthesis in them -/

namespace Lexeme

/-- A character joins the first lexeme behind it and leaves the others alone. -/
theorem cons_append {u : Lexeme} (h : ∀ w, u ≠ .word w) (c : Char) (ts us : List Lexeme) :
    cons c (ts ++ u :: us) = cons c ts ++ u :: us := by
  by_cases hc : Literal.isWordChar c = true
  · by_cases hs : ∃ w more, ts = .word w :: more
    · obtain ⟨w, more, rfl⟩ := hs
      rw [List.cons_append, cons_word hc, cons_word hc, List.cons_append]
    · have other (w : List Char) (more : List Lexeme) : ts ≠ .word w :: more :=
        fun he => hs ⟨w, more, he⟩
      rw [cons_of_ne_word hc other, cons_of_ne_word hc, List.cons_append]
      intro w more he
      cases ts with
      | nil => exact h w (List.cons.inj he).1
      | cons t ts => exact other w ts (by rw [(List.cons.inj he).1])
  · simp [cons, hc]

/-- A text is scanned part by part around a character that belongs to no word. -/
theorem scan_append_cons {c : Char} (h : Literal.isWordChar c = false) (s t : List Char) :
    scan (s ++ c :: t) = scan s ++ ofChar c :: scan t := by
  induction s with
  | nil => exact scan_cons_of_not_wordChar h t
  | cons a s ih =>
      rw [List.cons_append, scan_cons, ih, cons_append (ofChar_ne_word c), scan_cons]

/-- A group is scanned between its parentheses. -/
theorem scan_group (s after : List Char) :
    scan ('(' :: (s ++ ')' :: after)) =
      (.openParen :: scan s ++ [.closeParen]) ++ scan after := by
  rw [scan_openParen, scan_append_cons (by decide)]
  simp [ofChar]

end Lexeme

/-- The first pair of operators is on one side of a character that is none. -/
theorem adjacentOperators?_append_cons {c : Char} (h : Operator.ofChar? c = none)
    (s t : List Char) :
    adjacentOperators? (s ++ c :: t) = (adjacentOperators? s).or (adjacentOperators? t) := by
  have skip (t : List Char) : adjacentOperators? (c :: t) = adjacentOperators? t := by
    cases t with
    | nil => rfl
    | cons b t => simp [adjacentOperators?, h]
  induction s with
  | nil => simpa [adjacentOperators?] using skip t
  | cons a s ih =>
      cases s with
      | nil =>
          rw [List.singleton_append]
          simp only [adjacentOperators?, h, Option.isSome_none, Bool.and_false]
          simpa using skip t
      | cons b s =>
          rw [List.cons_append, List.cons_append]
          simp only [adjacentOperators?]
          split
          · rfl
          · exact ih

/-- Two operators side by side stand in front of a group, in it or behind it. -/
theorem adjacentOperators?_group (before s after : List Char) :
    adjacentOperators? (before ++ '(' :: (s ++ ')' :: after)) =
      (adjacentOperators? before).or ((adjacentOperators? s).or (adjacentOperators? after)) := by
  rw [adjacentOperators?_append_cons rfl, adjacentOperators?_append_cons rfl]

/-! ## Inside another machine -/

/-- An operator that finds its operands does not look below them. -/
theorem Machine.applyTop_frame {o : Operator} {operands after : List Float}
    (h : applyTop o operands = .ok after) (below : List Float) :
    applyTop o (operands ++ below) = .ok (after ++ below) := by
  obtain ⟨x, y, v, rest, rfl, hv, rfl⟩ := applyTop_eq_ok h
  rw [List.cons_append, List.cons_append, applyTop_cons, hv, List.cons_append]

namespace Program

/-- Instructions that run through do not look below the operands they were given. -/
theorem exec_frame {is : List Instruction} {operands after : List Float}
    (h : exec is operands = .ok after) (below : List Float) :
    exec is (operands ++ below) = .ok (after ++ below) := by
  induction is generalizing operands with
  | nil =>
      cases h
      rfl
  | cons i is ih =>
      cases i with
      | push v => exact ih h
      | apply o =>
          simp only [exec] at h ⊢
          cases happly : Machine.applyTop o operands with
          | error e => simp [happly] at h
          | ok next =>
              simp only [happly] at h
              rw [Machine.applyTop_frame happly below]
              exact ih h

/-- What is due ends at an opening parenthesis, whatever is pending below it. -/
theorem takeDue_append_openParen (due : Operator → Bool) (pending base : List Pending) :
    takeDue due (pending ++ .openParen :: base) =
      ((takeDue due pending).1, (takeDue due pending).2 ++ .openParen :: base) := by
  induction pending with
  | nil => rfl
  | cons p pending ih =>
      cases p with
      | openParen => rfl
      | op o =>
          by_cases h : due o = true
          · simp [takeDue, h, ih]
          · simp [takeDue, h]

/-- A lexeme does inside a group what it does on its own, unless it would close the
group. -/
theorem emit_append_openParen {pending : List Pending} {t : Lexeme}
    (h : (emit pending t).2 ≠ .error .mismatchedParentheses) (base : List Pending) :
    emit (pending ++ .openParen :: base) t =
      ((emit pending t).1, (emit pending t).2.map (· ++ .openParen :: base)) := by
  cases t with
  | word w =>
      cases hv : Literal.value? w with
      | some v => simp [emit_word hv, Except.map]
      | none => simp [emit_word_of_none hv, Except.map]
  | openParen => rfl
  | closeParen =>
      rcases takeDue_all pending with ⟨is, hd⟩ | ⟨is, rest, hd⟩
      · exact absurd (congrArg Prod.snd (emit_closeParen_of_nil hd)) h
      · have inside : takeDue (fun _ => true) (pending ++ .openParen :: base) =
            (is, .openParen :: (rest ++ .openParen :: base)) := by
          rw [takeDue_append_openParen, hd, List.cons_append]
        rw [emit_closeParen inside, emit_closeParen hd]
        rfl
  | op o => simp [emit, takeDue_append_openParen, Except.map]
  | unknown c => rfl

end Program

namespace Machine

/-- A machine in a group that has been opened in another machine. -/
def inside (m around : Machine) : Machine :=
  ⟨m.operands ++ around.operands, m.pending ++ .openParen :: around.pending⟩

/-- A step that goes well on its own is the same step inside a group. -/
theorem step_inside {m next : Machine} {t : Lexeme} (h : m.step t = .ok next)
    (around : Machine) : (m.inside around).step t = .ok (next.inside around) := by
  rw [Program.step_eq_ok_iff] at h ⊢
  obtain ⟨run, effect⟩ := h
  have unbroken : (Program.emit m.pending t).2 ≠ .error .mismatchedParentheses := by
    rw [effect]
    simp
  have emitted := Program.emit_append_openParen unbroken around.pending
  simp only [inside, emitted]
  exact ⟨Program.exec_frame run around.operands, by rw [effect]; rfl⟩

/-- A run that goes well on its own is the same run inside a group. -/
theorem run_inside {ts : List Lexeme} {m next : Machine} (h : m.run ts = .ok next)
    (around : Machine) : (m.inside around).run ts = .ok (next.inside around) := by
  induction ts generalizing m with
  | nil =>
      cases h
      rfl
  | cons t ts ih =>
      simp only [run] at h ⊢
      cases hstep : m.step t with
      | error e => simp [hstep] at h
      | ok m' =>
          simp only [hstep] at h
          rw [step_inside hstep around]
          exact ih h

/-- What is due at the end when a value is left: everything that is pending, and nothing
stays. -/
theorem finish_eq_ok {m : Machine} {v : Float} (h : m.finish = .ok v) :
    Program.exec (Program.takeDue (fun _ => true) m.pending).1 m.operands = .ok [v] ∧
      (Program.takeDue (fun _ => true) m.pending).2 = [] := by
  rw [finish, Program.unwind_eq_exec] at h
  cases run : Program.exec (Program.takeDue (fun _ => true) m.pending).1 m.operands with
  | error e => simp [run] at h
  | ok left =>
      simp only [run] at h
      split at h
      · simp_all
      · cases h
      · cases h
      · cases h

/-- At a closing parenthesis a group leaves what it would be worth as a whole text, on
top of what was there before it was opened. -/
theorem closeParen_inside {m : Machine} {v : Float} (h : m.finish = .ok v)
    (around : Machine) :
    (m.inside around).closeParen = .ok { around with operands := v :: around.operands } := by
  obtain ⟨run, rest⟩ := finish_eq_ok h
  rw [closeParen, Program.unwind_eq_exec]
  simp only [inside, Program.takeDue_append_openParen, Program.exec_frame run, rest,
    List.nil_append, List.singleton_append]

theorem run_append (m : Machine) (ts us : List Lexeme) :
    m.run (ts ++ us) =
      match m.run ts with
      | .ok m => m.run us
      | .error e => .error e := by
  induction ts generalizing m with
  | nil => rfl
  | cons t ts ih =>
      simp only [List.cons_append, run]
      cases m.step t with
      | ok m => exact ih m
      | error e => rfl

/-- What every lexeme that is read keeps, a run keeps. -/
theorem run_induction {motive : Machine → List Lexeme → Prop}
    (step : ∀ {m next : Machine} {ts : List Lexeme} {t : Lexeme}, motive m ts →
      m.step t = .ok next → motive next (ts ++ [t]))
    {us : List Lexeme} {m next : Machine} {ts : List Lexeme} (h : motive m ts)
    (run : m.run us = .ok next) : motive next (ts ++ us) := by
  induction us generalizing m ts with
  | nil =>
      cases run
      rwa [List.append_nil]
  | cons t us ih =>
      simp only [Machine.run] at run
      cases hstep : m.step t with
      | error e => simp [hstep] at run
      | ok m' =>
          simp only [hstep] at run
          have rest := ih (step h hstep) run
          rwa [List.append_assoc, List.singleton_append] at rest

theorem result_append (m : Machine) (ts us : List Lexeme) :
    m.result (ts ++ us) =
      match m.run ts with
      | .ok m => m.result us
      | .error e => .error e := by
  simp only [result, run_append]
  cases m.run ts with
  | ok m => rfl
  | error e => rfl

/-- A group of lexemes that are worth something pushes what they are worth, and
leaves everything else as it was. -/
theorem run_group {ts : List Lexeme} {v : Float} (h : result {} ts = .ok v) (m : Machine) :
    m.run (.openParen :: ts ++ [.closeParen]) = .ok { m with operands := v :: m.operands } := by
  simp only [result] at h
  cases alone : run {} ts with
  | error e => simp [alone] at h
  | ok last =>
      simp only [alone] at h
      have opened : run (inside {} m) ts = .ok (last.inside m) := run_inside alone m
      calc m.run (.openParen :: ts ++ [.closeParen])
          = run (inside {} m) (ts ++ [.closeParen]) := rfl
        _ = run (last.inside m) [.closeParen] := by rw [run_append, opened]
        _ = .ok { m with operands := v :: m.operands } := by
            simp only [run, step, closeParen_inside h m]

end Machine

/-! ## Texts with a group in them -/

/-- The parentheses of a group are not blank. -/
theorem strip_group (s after : List Char) :
    Text.strip ('(' :: (s ++ ')' :: after)) =
      '(' :: (Text.strip s ++ ')' :: Text.strip after) := by
  have openParen : Text.isBlank '(' = false := by decide
  have closeParen : Text.isBlank ')' = false := by decide
  simp [Text.strip, openParen, closeParen]

/-- A text that is not blank is searched for two operators side by side, and then the
machine reads it. -/
theorem evaluateStripped_of_ne_nil {s : List Char} (h : s ≠ []) :
    evaluateStripped s =
      match adjacentOperators? s with
      | some (a, b) => .error (.consecutiveOperators a b)
      | none => Machine.result {} (Lexeme.scan s) := by
  rw [evaluateStripped, if_neg (by simpa using h)]
  rfl

/-- A text that is not blank and has a value has no operators side by side, and the
machine gives the value. -/
theorem evaluateStripped_eq_ok {s : List Char} (nonempty : s ≠ []) {v : Float}
    (h : evaluateStripped s = .ok v) :
    adjacentOperators? s = none ∧ Machine.result {} (Lexeme.scan s) = .ok v := by
  rw [evaluateStripped_of_ne_nil nonempty] at h
  cases pair : adjacentOperators? s with
  | some pair' => simp [pair] at h
  | none => exact ⟨rfl, by simpa [pair] using h⟩

/-- What a text is worth with a group in it: what comes before the group is read,
the value of the group is pushed, and what comes after it is read. -/
theorem evaluateStripped_group {s : List Char} (nonempty : s ≠ []) {v : Float}
    (h : evaluateStripped s = .ok v) (before after : List Char) :
    evaluateStripped (before ++ '(' :: (s ++ ')' :: after)) =
      match (adjacentOperators? before).or (adjacentOperators? after) with
      | some (a, b) => .error (.consecutiveOperators a b)
      | none =>
          match Machine.run {} (Lexeme.scan before) with
          | .ok m => Machine.result { m with operands := v :: m.operands } (Lexeme.scan after)
          | .error e => .error e := by
  obtain ⟨noPair, worth⟩ := evaluateStripped_eq_ok nonempty h
  have pair : adjacentOperators? (before ++ '(' :: (s ++ ')' :: after)) =
      (adjacentOperators? before).or (adjacentOperators? after) := by
    rw [adjacentOperators?_group, noPair, Option.none_or]
  have scanned : Lexeme.scan (before ++ '(' :: (s ++ ')' :: after)) =
      Lexeme.scan before ++
        ((.openParen :: Lexeme.scan s ++ [.closeParen]) ++ Lexeme.scan after) := by
    rw [Lexeme.scan_append_cons (by decide), ← Lexeme.scan_group, Lexeme.scan_openParen]
    rfl
  rw [evaluateStripped_of_ne_nil (by simp), pair, scanned, Machine.result_append]
  cases Machine.run {} (Lexeme.scan before) with
  | error e => rfl
  | ok m => simp only [Machine.result_append, Machine.run_group worth m]

/-- Two texts with the same value can stand for each other in parentheses, in any
text around them: the result is the same, be it a value or an error.  From any state
a group pushes its value and disturbs neither the operands nor what is pending. -/
theorem evaluate_group_congr {s t : String} {v : Float} (hs : Text.strip s.toList ≠ [])
    (ht : Text.strip t.toList ≠ []) (vs : evaluate s = .ok v) (vt : evaluate t = .ok v)
    (before after : String) :
    evaluate (before ++ "(" ++ s ++ ")" ++ after) =
        evaluate (before ++ "(" ++ t ++ ")" ++ after) ∧
      ∀ m : Machine, m.run (Lexeme.scan (Text.strip ("(" ++ s ++ ")").toList)) =
        .ok { m with operands := v :: m.operands } := by
  have text (s : String) : Text.strip (before ++ "(" ++ s ++ ")" ++ after).toList =
      Text.strip before.toList ++
        '(' :: (Text.strip s.toList ++ ')' :: Text.strip after.toList) := by
    simp [strip_group]
  constructor
  · rw [evaluate, evaluate, text s, text t, evaluateStripped_group hs vs,
      evaluateStripped_group ht vt]
  · intro m
    have group : Lexeme.scan (Text.strip ("(" ++ s ++ ")").toList) =
        .openParen :: Lexeme.scan (Text.strip s.toList) ++ [.closeParen] := by
      have scanned := Lexeme.scan_group (Text.strip s.toList) []
      simpa [strip_group] using scanned
    rw [group]
    exact Machine.run_group (evaluateStripped_eq_ok hs vs).2 m

/-- Two texts that are worth three, neither of them an expression, as the same divisor. -/
theorem evaluate_group_congr_misplaced_operands :
    evaluate "2(1+)" = .ok 3.0 ∧ evaluate "+ (1)(2)" = .ok 3.0 ∧
      evaluate ("9/" ++ "(" ++ "2(1+)" ++ ")" ++ "- 1)") =
        evaluate ("9/" ++ "(" ++ "+ (1)(2)" ++ ")" ++ "- 1)") := by
  have two : evaluate "2(1+)" = .ok 3.0 := by rfl
  have one : evaluate "+ (1)(2)" = .ok 3.0 := by rfl
  exact ⟨two, one, (evaluate_group_congr (by decide) (by decide) two one _ _).1⟩

end SchoolDesk.Expression
