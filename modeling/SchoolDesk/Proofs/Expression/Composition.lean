import SchoolDesk.Proofs.Expression.Group
import SchoolDesk.Proofs.Expression.Verdict

/-!
# Expressions are put together from expressions

A text in parentheses is worth what the text is worth, and two texts in parentheses with an
operator between them are worth what the operator makes of their values.

The second needs the two values only, as a group stands for its value.  The first is said of
texts that are refused too, and then it is about programs: a balanced text that is put in
parentheses is compiled to the same instructions and the same fault
(`compile_group`).  What is pending in the text lies above the opening parenthesis in
front of it, and the text never closes that one.  So its closing parenthesis applies what
the end of the text would apply, in the same order, and leaves nothing to be applied.
-/

namespace SchoolDesk.Expression

/-! ## A balanced text in parentheses -/

namespace Program

/-- A lexeme of a balanced text closes no parenthesis in front of the text. -/
theorem emit_ne_mismatched {pending : List Pending} {t : Lexeme} {ts : List Lexeme}
    (h : Lexeme.balanced (depth pending) (t :: ts) = true) :
    (emit pending t).2 ≠ .error .mismatchedParentheses := by
  intro mismatched
  have invalid : t.isValid = false := by
    have checks := checks_emit pending t ts
    rwa [h, mismatched, Bool.and_true] at checks
  cases t with
  | word w =>
      rw [Lexeme.isValid, ← Literal.value?_isSome] at invalid
      have noNumber : Literal.value? w = none := by
        rwa [Option.isSome_eq_false_iff, Option.isNone_iff_eq_none] at invalid
      rw [emit_word_of_none noNumber] at mismatched
      cases mismatched
  | openParen => cases invalid
  | closeParen => cases invalid
  | op o => cases invalid
  | unknown c => cases mismatched

/-- Between parentheses a balanced text is compiled to what it is compiled to on its own. -/
theorem compile_group {pending : List Pending} {ts : List Lexeme}
    (h : Lexeme.balanced (depth pending) ts = true) :
    compile (pending ++ [.openParen]) (ts ++ [.closeParen]) = compile pending ts := by
  induction ts generalizing pending with
  | nil =>
      have closed : depth (takeDue (fun _ => true) pending).2 = 0 := by
        rw [depth_takeDue]
        simpa [Lexeme.balanced] using h
      rcases takeDue_all pending with ⟨is, due⟩ | ⟨is, rest, due⟩
      · have inside : takeDue (fun _ => true) (pending ++ [.openParen]) = (is, [.openParen]) := by
          rw [takeDue_append_openParen, due, List.nil_append]
        rw [List.nil_append, compile_cons, emit_closeParen inside, compile_nil, due]
        simp [compile_nil, takeDue, after]
      · rw [due] at closed
        cases closed
  | cons t ts ih =>
      have unbroken := emit_ne_mismatched h
      have checks := checks_emit pending t ts
      rw [List.cons_append, compile_cons, compile_cons, emit_append_openParen unbroken]
      cases effect : (emit pending t).2 with
      | error fault => rfl
      | ok rest =>
          have left : Lexeme.balanced (depth rest) ts = true := by
            rwa [effect, h, isValid_of_emit_eq_ok effect, eq_comm] at checks
          exact congrArg (after (emit pending t).1) (ih left)

end Program

/-- Blanks do not change the balance. -/
theorem Lexeme.balanced_scan_strip (k : Nat) (s : List Char) :
    balanced k (scan (Text.strip s)) = balanced k (scan s) := by
  induction s generalizing k with
  | nil => rfl
  | cons c s ih =>
      by_cases blank : Text.isBlank c = true
      · have noOpening : c ≠ '(' := by
          rintro rfl
          revert blank
          decide
        have noClosing : c ≠ ')' := by
          rintro rfl
          revert blank
          decide
        rw [balanced_scan_cons noOpening noClosing, ← ih]
        simp [Text.strip, blank]
      · have kept : Text.strip (c :: s) = c :: Text.strip s := by simp [Text.strip, blank]
        rw [kept]
        by_cases opening : c = '('
        · subst opening
          rw [scan_openParen, scan_openParen, balanced, balanced, ih]
        · by_cases closing : c = ')'
          · subst closing
            rw [scan_closeParen, scan_closeParen]
            cases k with
            | zero => rfl
            | succ k => exact ih k
          · rw [balanced_scan_cons opening closing, balanced_scan_cons opening closing, ih]

theorem balanced_strip_iff {s : List Char} : Balanced (Text.strip s) ↔ Balanced s := by
  rw [balanced_iff, balanced_iff, Lexeme.balanced_scan_strip]

/-- Parentheses around a balanced text change nothing. -/
theorem evaluateStripped_parenthesized {s : List Char} (nonempty : s ≠ [])
    (balanced : Balanced s) : evaluateStripped ('(' :: (s ++ [')'])) = evaluateStripped s := by
  have pair : adjacentOperators? ('(' :: (s ++ [')'])) = adjacentOperators? s := by
    calc adjacentOperators? ('(' :: (s ++ [')']))
        = (adjacentOperators? s).or none := adjacentOperators?_group [] s []
      _ = adjacentOperators? s := Option.or_none
  have scanned : Lexeme.scan ('(' :: (s ++ [')'])) =
      .openParen :: (Lexeme.scan s ++ [.closeParen]) := by
    simpa using Lexeme.scan_group s []
  have compiled : Program.compile [] (.openParen :: (Lexeme.scan s ++ [.closeParen])) =
      Program.compile [] (Lexeme.scan s) :=
    @Program.compile_group [] _ (balanced_iff.mp balanced)
  rw [evaluateStripped_of_ne_nil (by simp), evaluateStripped_of_ne_nil nonempty, pair, scanned,
    Program.result_eq_runOn, Program.result_eq_runOn, compiled]

/-! ## Two groups and an operator -/

/-- An operator is applied to the one operand in front of it and to the value of the group
behind it. -/
theorem Machine.result_op_group {ts : List Lexeme} {w : Float} (h : result {} ts = .ok w)
    (v : Float) (o : Operator) :
    result ⟨[v], []⟩ (.op o :: (.openParen :: ts ++ [.closeParen])) =
      if o = .div ∧ w == 0.0 then .error .divisionByZero else .ok (o.apply v w) := by
  have pushed : step ⟨[v], []⟩ (.op o) = .ok ⟨[v], [.op o]⟩ := rfl
  rw [Program.result_cons, pushed]
  simp only [result, run_group h, finish, unwind, applyTop, if_true]
  by_cases zero : o = .div ∧ w == 0.0
  · simp [zero]
  · rw [if_neg zero, if_neg (by simpa using zero)]

/-- Two texts with a value each, in parentheses and with an operator between them. -/
theorem evaluateStripped_groups {s t : List Char} {v w : Float} (hs : s ≠ []) (ht : t ≠ [])
    (vs : evaluateStripped s = .ok v) (wt : evaluateStripped t = .ok w) (o : Operator) :
    evaluateStripped ('(' :: (s ++ ')' :: o.symbol :: '(' :: (t ++ [')']))) =
      if o = .div ∧ w == 0.0 then .error .divisionByZero else .ok (o.apply v w) := by
  obtain ⟨noPair, worth⟩ := evaluateStripped_eq_ok ht wt
  have pair : adjacentOperators? (o.symbol :: '(' :: (t ++ [')'])) = none := by
    have behind := adjacentOperators?_group [o.symbol] t []
    rwa [noPair] at behind
  have scanned : Lexeme.scan (o.symbol :: '(' :: (t ++ [')'])) =
      .op o :: (.openParen :: Lexeme.scan t ++ [.closeParen]) := by
    rw [Lexeme.scan_symbol]
    simpa using Lexeme.scan_group t []
  have read := evaluateStripped_group hs vs [] (o.symbol :: '(' :: (t ++ [')']))
  rw [pair, scanned] at read
  exact read.trans (Machine.result_op_group worth v o)

/-! ## Texts with blanks -/

/-- Values are put together as texts are.  A balanced text in parentheses has the value of
the text, or is refused for the same cause.  Two texts with a value each, in parentheses and
with an operator between them, have the value that the operator makes of theirs, unless this
is a division by zero. -/
theorem evaluate_composes :
    (∀ s : String, Text.strip s.toList ≠ [] → Balanced s.toList →
      evaluate ("(" ++ s ++ ")") = evaluate s) ∧
    ∀ (s t : String) (v w : Float) (o : Operator),
      Text.strip s.toList ≠ [] → Text.strip t.toList ≠ [] →
      evaluate s = .ok v → evaluate t = .ok w →
      evaluate ("(" ++ s ++ ")" ++ String.singleton o.symbol ++ "(" ++ t ++ ")") =
        if o = .div ∧ w == 0.0 then .error .divisionByZero else .ok (o.apply v w) := by
  constructor
  · intro s nonempty balanced
    have text : Text.strip ("(" ++ s ++ ")").toList = '(' :: (Text.strip s.toList ++ [')']) := by
      simpa using strip_group s.toList []
    rw [evaluate, evaluate, text]
    exact evaluateStripped_parenthesized nonempty (balanced_strip_iff.mpr balanced)
  · intro s t v w o hs ht vs wt
    have symbol : Text.strip [o.symbol] = [o.symbol] := by cases o <;> decide
    have text : Text.strip
        ("(" ++ s ++ ")" ++ String.singleton o.symbol ++ "(" ++ t ++ ")").toList =
          '(' :: (Text.strip s.toList ++ ')' :: o.symbol :: '(' ::
            (Text.strip t.toList ++ [')'])) := by
      have first := strip_group s.toList []
      have second := strip_group t.toList []
      have split : ("(" ++ s ++ ")" ++ String.singleton o.symbol ++ "(" ++ t ++ ")").toList =
          '(' :: (s.toList ++ [')']) ++ ([o.symbol] ++ '(' :: (t.toList ++ [')'])) := by simp
      rw [split, Text.strip_append, Text.strip_append, first, symbol, second]
      simp
    rw [evaluate, text]
    exact evaluateStripped_groups hs ht vs wt o

/-- A text that stops in the middle, put in parentheses, and a quotient of two texts that are
no expressions, the second of them worth zero with a sign. -/
theorem evaluate_composes_negative_zero :
    evaluate ("(" ++ "(1) / (2-2) + 3.4.5" ++ ")") = .error .divisionByZero ∧
      evaluate "2(1+)" = .ok 3.0 ∧ evaluate "(0)(0-1)*" = .ok (-0.0) ∧
      evaluate ("(" ++ "2(1+)" ++ ")" ++ String.singleton Operator.div.symbol ++ "(" ++
        "(0)(0-1)*" ++ ")") = .error .divisionByZero ∧
      evaluate ("(" ++ "2(1+)" ++ ")" ++ String.singleton Operator.sub.symbol ++ "(" ++
        "2(1+)" ++ ")") = .ok 0.0 := by
  have three : evaluate "2(1+)" = .ok 3.0 := by rfl
  have zero : evaluate "(0)(0-1)*" = .ok (-0.0) := by rfl
  have stops : evaluate "(1) / (2-2) + 3.4.5" = .error .divisionByZero := by rfl
  refine ⟨?_, three, zero, ?_, ?_⟩
  · exact (evaluate_composes.1 _ (by decide) (by decide)).trans stops
  · exact evaluate_composes.2 _ _ _ _ .div (by decide) (by decide) three zero
  · exact evaluate_composes.2 _ _ _ _ .sub (by decide) (by decide) three three

end SchoolDesk.Expression
