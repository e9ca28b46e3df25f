import SchoolDesk.Proofs.Expression.Compilation
import SchoolDesk.Proofs.Expression.Postfix
import SchoolDesk.Proofs.Expression.Recognition

/-!
# Which texts get a value, and which divide by zero

The machine looks at operands by their number only, so it accepts more texts than
the grammar derives.  A text *stands for* a tree if it has no two operators side by
side and its program is the postfix form of the tree.  The texts that get a value
are the blank one and those that stand for a tree with a value
(`evaluateStripped_eq_ok_iff`).  Every expression that gets a value is among them,
and so are `2(3+)`, `()2` and `(1)2+`, whose operands and operators make up a tree in
the wrong places.  Among the texts that stand for a tree the expressions are those
that place every operand where one is awaited (`StandsFor.isExpression_iff`).

A division by zero is reported as soon as the division is applied.  That happens if
the instructions emitted before the first fault reach one, whatever comes after
(`evaluateStripped_eq_divisionByZero_iff`).  So `1/0)` is refused for the division
and not for the parenthesis.
-/

namespace SchoolDesk.Expression

namespace Program

/-! ## Compiling without a fault -/

/-- The number of pending opening parentheses. -/
def depth : List Pending → Nat
  | [] => 0
  | .op _ :: pending => depth pending
  | .openParen :: pending => depth pending + 1

/-- Taking operators off leaves the parentheses. -/
theorem depth_takeDue (due : Operator → Bool) (pending : List Pending) :
    depth (takeDue due pending).2 = depth pending := by
  induction pending with
  | nil => rfl
  | cons p pending ih =>
      cases p with
      | openParen => rfl
      | op o =>
          by_cases h : due o = true
          · simpa [takeDue, h, depth] using ih
          · simp [takeDue, h]

/-- A lexeme keeps the checks on what follows it, unless it is a fault. -/
theorem checks_emit (pending : List Pending) (t : Lexeme) (ts : List Lexeme) :
    (t.isValid && Lexeme.balanced (depth pending) (t :: ts)) =
      match (emit pending t).2 with
      | .ok rest => Lexeme.balanced (depth rest) ts
      | .error _ => false := by
  cases t with
  | word w =>
      have number := Literal.value?_isSome w
      cases hv : Literal.value? w with
      | some v =>
          rw [hv, Option.isSome_some] at number
          simp [emit_word hv, Lexeme.isValid, ← number, Lexeme.balanced]
      | none =>
          rw [hv, Option.isSome_none] at number
          simp [emit_word_of_none hv, Lexeme.isValid, ← number]
  | openParen => rfl
  | closeParen =>
      rw [← depth_takeDue (fun _ => true) pending]
      rcases takeDue_all pending with ⟨is, h⟩ | ⟨is, rest, h⟩
      · rw [emit_closeParen_of_nil h, h]
        rfl
      · rw [emit_closeParen h, h]
        rfl
  | op o =>
      have same := depth_takeDue (fun top => o.precedence ≤ top.precedence) pending
      simp [emit, depth, same, Lexeme.isValid, Lexeme.balanced]
  | unknown c => rfl

/-- Compiling comes to the end if the lexemes are valid and balanced, and only
then. -/
theorem fault_compile_eq_none_iff (pending : List Pending) (ts : List Lexeme) :
    (compile pending ts).fault = none ↔
      (ts.all Lexeme.isValid && Lexeme.balanced (depth pending) ts) = true := by
  induction ts generalizing pending with
  | nil =>
      rw [compile_nil, ← depth_takeDue (fun _ => true) pending]
      rcases takeDue_all pending with ⟨is, h⟩ | ⟨is, rest, h⟩
      · simp [h, depth, Lexeme.balanced]
      · simp [h, depth, Lexeme.balanced]
  | cons t ts ih =>
      rw [compile_cons, List.all_cons, Bool.and_comm t.isValid, Bool.and_assoc, checks_emit]
      cases (emit pending t).2 with
      | ok rest => exact ih rest
      | error fault => simp

/-- Compiling never stops at a division by zero. -/
theorem fault_compile_ne_divisionByZero (pending : List Pending) (ts : List Lexeme) :
    (compile pending ts).fault ≠ some .divisionByZero := by
  induction ts generalizing pending with
  | nil =>
      rw [compile_nil]
      split <;> simp
  | cons t ts ih =>
      rw [compile_cons]
      cases h : (emit pending t).2 with
      | ok rest => exact ih rest
      | error fault =>
          intro zero
          cases zero
          exact emit_ne_divisionByZero pending t h

end Program

/-! ## Texts with a value -/

/-- A text without two operators side by side, whose program is the postfix form of
a tree. -/
def StandsFor (s : List Char) (t : Tree) : Prop :=
  adjacentOperators? s = none ∧
    Program.compile [] (Lexeme.scan s) = { instructions := t.code }

/-- Two operators side by side are reported whatever else is wrong, and otherwise
the program decides. -/
theorem evaluateStripped_of_adjacentOperators?_eq_none {s : List Char} (nonempty : s ≠ [])
    (h : adjacentOperators? s = none) :
    evaluateStripped s = (Program.compile [] (Lexeme.scan s)).run := by
  rw [Program.evaluateStripped_eq, Program.evaluateStripped, if_neg (by simpa using nonempty), h]

theorem Program.run_eq_ok_iff {p : Program} {v : Float} :
    p.run = .ok v ↔ ∃ t : Tree, p = { instructions := t.code } ∧ t.value = some v := by
  obtain ⟨is, fault⟩ := p
  have singleton : exec is [] = .ok [v] ↔ ∃ t : Tree, t.code = is ∧ t.value = some v :=
    Tree.exec_eq_singleton_iff
  constructor
  · intro run
    have h : exec is [] = .ok [v] ∧ fault = none := by
      simp only [Program.run] at run
      split at run
      · cases run
      · cases run
      · cases run
        exact ⟨by assumption, rfl⟩
      · cases run
    obtain ⟨t, rfl, ht⟩ := singleton.mp h.1
    exact ⟨t, by rw [h.2], ht⟩
  · rintro ⟨t, he, ht⟩
    cases he
    simp only [Program.run, singleton.mpr ⟨t, rfl, ht⟩]

theorem Tree.code_ne_nil (t : Tree) : t.code ≠ [] := by
  cases t with
  | leaf v => simp [code]
  | node o left right => simp [code]

/-- A text that stands for a tree is not blank. -/
theorem StandsFor.ne_nil {s : List Char} {t : Tree} (h : StandsFor s t) : s ≠ [] := by
  rintro rfl
  exact t.code_ne_nil (congrArg Program.instructions h.2).symm

/-- A text that is not blank has a value if it stands for a tree that has it, and only
then. -/
theorem evaluateStripped_eq_ok_iff {s : List Char} (nonempty : s ≠ []) {v : Float} :
    evaluateStripped s = .ok v ↔ ∃ t : Tree, StandsFor s t ∧ t.value = some v := by
  cases pair : adjacentOperators? s with
  | some pair' =>
      constructor
      · intro ok
        rw [evaluateStripped, if_neg (by simpa using nonempty), pair] at ok
        cases ok
      · rintro ⟨t, h, _⟩
        have := h.1
        rw [pair] at this
        cases this
  | none =>
      rw [evaluateStripped_of_adjacentOperators?_eq_none nonempty pair, Program.run_eq_ok_iff]
      simp [StandsFor, pair]

/-- A text that stands for a tree is an expression if it places its operands well, and
only then. -/
theorem StandsFor.isExpression_iff {s : List Char} {t : Tree} (h : StandsFor s t) :
    IsExpression s ↔ Lexeme.placed true (Lexeme.scan s) = true := by
  -- Coming to the end of the text is worth two of the three checks.
  have noFault : (Program.compile [] (Lexeme.scan s)).fault = none := by rw [h.2]
  have checks := (Program.fault_compile_eq_none_iff [] _).mp noFault
  rw [Bool.and_eq_true] at checks
  rw [SchoolDesk.Expression.isExpression_iff]
  exact ⟨fun all => all.2.2, fun placed => ⟨checks.1, checks.2, placed⟩⟩

/-- Which texts get a value although the grammar does not derive them: those that
stand for a tree with a value and misplace an operand. -/
theorem isExpression_of_evaluate_eq_ok_iff (text : String) :
    (∀ v, evaluate text = .ok v →
        Text.strip text.toList = [] ∨ IsExpression (Text.strip text.toList)) ↔
      Lexeme.placed true (Lexeme.scan (Text.strip text.toList)) = true ∨
        ∀ t, StandsFor (Text.strip text.toList) t → t.value = none := by
  rw [evaluate]
  generalize Text.strip text.toList = s
  constructor
  · intro claim
    by_cases placed : Lexeme.placed true (Lexeme.scan s) = true
    · exact .inl placed
    · refine .inr fun t ht => ?_
      cases hv : t.value with
      | none => rfl
      | some v =>
          have ok := (evaluateStripped_eq_ok_iff ht.ne_nil).mpr ⟨t, ht, hv⟩
          rcases claim v ok with blank | expression
          · exact absurd blank ht.ne_nil
          · exact absurd (ht.isExpression_iff.mp expression) placed
  · intro condition v ok
    by_cases blank : s = []
    · exact .inl blank
    · obtain ⟨t, ht, hv⟩ := (evaluateStripped_eq_ok_iff blank).mp ok
      rcases condition with placed | noValue
      · exact .inr (ht.isExpression_iff.mpr placed)
      · rw [noValue t ht] at hv
        cases hv

/-- A sum with its operator behind, after a number: two operands in the wrong
places. -/
theorem evaluate_misplaced_operand :
    (∃ v, evaluate "2(3+)" = .ok v) ∧ Text.strip "2(3+)".toList ≠ [] ∧
      ¬ IsExpression (Text.strip "2(3+)".toList) :=
  ⟨⟨_, rfl⟩, by decide, by decide⟩

/-! ## Texts that divide by zero -/

/-- A program stops at a division by zero if its instructions reach one, and only
then. -/
theorem Program.run_eq_divisionByZero_iff {p : Program} (h : p.fault ≠ some .divisionByZero) :
    p.run = .error .divisionByZero ↔ Tree.DividesByZero p.instructions := by
  rw [← Tree.exec_eq_divisionByZero_iff]
  obtain ⟨is, fault⟩ := p
  simp only [Program.run]
  cases exec is [] with
  | error e => simp
  | ok operands =>
      simp only [reduceCtorEq, iff_false]
      split <;> simp_all

/-- A text without two operators side by side is refused for a division by zero if
its program reaches one, and only then. -/
theorem evaluateStripped_eq_divisionByZero_iff {s : List Char} :
    evaluateStripped s = .error .divisionByZero ↔
      adjacentOperators? s = none ∧
        Tree.DividesByZero (Program.compile [] (Lexeme.scan s)).instructions := by
  have run := Program.run_eq_divisionByZero_iff
    (Program.fault_compile_ne_divisionByZero [] (Lexeme.scan s))
  by_cases blank : s = []
  · subst blank
    rw [← run]
    simp [evaluateStripped, Lexeme.scan_nil, Program.compile_nil, Program.takeDue, Program.run,
      Program.exec]
  · cases pair : adjacentOperators? s with
    | some pair' => simp [evaluateStripped, blank, pair]
    | none => simp [evaluateStripped_of_adjacentOperators?_eq_none blank pair, run]

/-- For which texts the causes tell an undefined value from a malformed text: for
all but those that the grammar does not derive and that divide by zero before
anything else goes wrong. -/
theorem isExpression_of_isUndefined_iff (text : String) :
    (∀ cause, evaluate text = .error cause →
        (cause.isUndefined = true → IsExpression (Text.strip text.toList)) ∧
          (¬ IsExpression (Text.strip text.toList) → cause.isMalformed = true)) ↔
      IsExpression (Text.strip text.toList) ∨
        adjacentOperators? (Text.strip text.toList) ≠ none ∨
        ¬ Tree.DividesByZero
          (Program.compile [] (Lexeme.scan (Text.strip text.toList))).instructions := by
  rw [evaluate]
  generalize Text.strip text.toList = s
  have zero := evaluateStripped_eq_divisionByZero_iff (s := s)
  constructor
  · intro claim
    by_cases expression : IsExpression s
    · exact .inl expression
    · refine .inr (not_and_or.mp fun reached => ?_)
      exact expression ((claim .divisionByZero (zero.mpr reached)).1 rfl)
  · intro condition cause failed
    have expression (undefined : cause.isUndefined = true) : IsExpression s := by
      rw [EvalError.isUndefined_iff] at undefined
      subst undefined
      obtain ⟨noPair, reached⟩ := zero.mp failed
      rcases condition with expression | pair | notReached
      · exact expression
      · exact absurd noPair pair
      · exact absurd reached notReached
    refine ⟨expression, fun malformed => ?_⟩
    rw [EvalError.isMalformed, Bool.not_eq_true', Bool.eq_false_iff]
    exact fun undefined => malformed (expression undefined)

/-- A division by zero in front of a parenthesis that closes nothing. -/
theorem evaluate_division_before_fault :
    evaluate "1/0)" = .error .divisionByZero ∧ EvalError.divisionByZero.isUndefined = true ∧
      ¬ IsExpression (Text.strip "1/0)".toList) :=
  ⟨rfl, rfl, by decide⟩

end SchoolDesk.Expression
