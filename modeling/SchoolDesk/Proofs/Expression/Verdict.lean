import SchoolDesk.Expression.Guarded
import SchoolDesk.Proofs.Expression.Conservation
import SchoolDesk.Proofs.Expression.Fault

/-!
# What a verdict says about a text

The machine counts neither parentheses nor operands, and yet what it says of a text is true
of the counts.  A text with a value is balanced and has one number more than it has
operators.  A text that is refused for its parentheses is not balanced.  A text that is
refused in the end, as no expression, is balanced, and it has no number and no operator at
all or at least two numbers more than operators (`evaluate_verdict`).

Two facts about a state of the machine are behind this.  The opening parentheses that are
pending are those that are open, so a lexeme leaves the balance of the text as it is
(`Machine.balanced_step`).  And every number that was read is an operand, or was used up by
an operator that is not pending any more, where an operator uses up one
(`Machine.Keeps.count`).
-/

namespace SchoolDesk.Expression

/-! ## Balanced texts -/

/-- No part in front of a text closes more than it opens, and the text closes all. -/
structure Balanced (s : List Char) : Prop where
  opened : ∀ p, p <+: s → p.count ')' ≤ p.count '('
  closed : s.count ')' = s.count '('

namespace Lexeme

theorem forall_prefix_cons_iff {P : List Char → Prop} {c : Char} {s : List Char} :
    (∀ p, p <+: c :: s → P p) ↔ P [] ∧ ∀ p, p <+: s → P (c :: p) := by
  constructor
  · intro h
    exact ⟨h [] List.nil_prefix, fun p hp => h (c :: p) ((List.prefix_cons_inj c).mpr hp)⟩
  · rintro ⟨empty, more⟩ p hp
    rcases List.prefix_cons_iff.mp hp with rfl | ⟨q, rfl, hq⟩
    · exact empty
    · exact more q hq

/-- A character that is no parenthesis does not change the balance. -/
theorem balanced_scan_cons {c : Char} (noOpening : c ≠ '(') (noClosing : c ≠ ')') (k : Nat)
    (s : List Char) : balanced k (scan (c :: s)) = balanced k (scan s) := by
  cases hc : Literal.isWordChar c with
  | true =>
      rw [scan_cons]
      by_cases hs : ∃ w more, scan s = .word w :: more
      · obtain ⟨w, more, hs⟩ := hs
        rw [hs, cons_word hc]
        rfl
      · rw [cons_of_ne_word hc fun w more he => hs ⟨w, more, he⟩]
        rfl
  | false =>
      rw [scan_cons_of_not_wordChar hc, ofChar, if_neg noOpening, if_neg noClosing]
      cases Operator.ofChar? c with
      | some o => rfl
      | none => rfl

/-- The check on the scan of a text counts the parentheses in the text, with `k` open in
front of it. -/
theorem balanced_scan_iff {k : Nat} {s : List Char} :
    balanced k (scan s) = true ↔
      (∀ p, p <+: s → p.count ')' ≤ p.count '(' + k) ∧ s.count ')' = s.count '(' + k := by
  induction s generalizing k with
  | nil =>
      cases k with
      | zero => simp [balanced, List.prefix_nil]
      | succ k => simp [balanced]
  | cons c s ih =>
      rw [forall_prefix_cons_iff]
      by_cases opening : c = '('
      · subst opening
        rw [scan_openParen, balanced, ih]
        simp [Nat.add_assoc, Nat.add_comm 1 k]
      · by_cases closing : c = ')'
        · subst closing
          rw [scan_closeParen]
          cases k with
          | zero =>
              -- The closing parenthesis alone is a part that closes too much.
              simp only [balanced, Bool.false_eq_true, false_iff]
              rintro ⟨⟨-, opened⟩, -⟩
              simpa using opened [] List.nil_prefix
          | succ k =>
              rw [balanced, ih]
              simp [← Nat.add_assoc]
        · rw [balanced_scan_cons opening closing, ih]
          simp [opening, closing]

end Lexeme

theorem balanced_iff {s : List Char} :
    Balanced s ↔ Lexeme.balanced 0 (Lexeme.scan s) = true := by
  rw [Lexeme.balanced_scan_iff]
  constructor
  · rintro ⟨opened, closed⟩
    exact ⟨opened, closed⟩
  · rintro ⟨opened, closed⟩
    exact ⟨opened, closed⟩

instance decidableBalanced (s : List Char) : Decidable (Balanced s) :=
  decidable_of_iff _ balanced_iff.symm

example : ¬ Balanced "1)+(2".toList := by decide

/-! ## The parentheses in a run -/

theorem Program.isValid_of_emit_eq_ok {pending rest : List Pending} {t : Lexeme}
    (h : (emit pending t).2 = .ok rest) : t.isValid = true := by
  cases t with
  | word w =>
      rw [Lexeme.isValid, ← Literal.value?_isSome]
      cases hv : Literal.value? w with
      | some v => rfl
      | none => simp [emit_word_of_none hv] at h
  | openParen => rfl
  | closeParen => rfl
  | op o => rfl
  | unknown c => cases h

namespace Machine

open Program (depth)

/-- The pending parentheses are those that are open: a lexeme that is read keeps the check
on what follows it. -/
theorem balanced_step {m next : Machine} {t : Lexeme} (h : m.step t = .ok next)
    (ts : List Lexeme) :
    Lexeme.balanced (depth m.pending) (t :: ts) = Lexeme.balanced (depth next.pending) ts := by
  obtain ⟨-, effect⟩ := Program.step_eq_ok_iff.mp h
  have checks := Program.checks_emit m.pending t ts
  rwa [effect, Program.isValid_of_emit_eq_ok effect, Bool.true_and] at checks

/-- So do lexemes one after the other. -/
theorem balanced_run {ts : List Lexeme} {m next : Machine} (h : m.run ts = .ok next)
    (us : List Lexeme) :
    Lexeme.balanced (depth m.pending) (ts ++ us) = Lexeme.balanced (depth next.pending) us := by
  have start : ∀ us,
      Lexeme.balanced (depth m.pending) ([] ++ us) = Lexeme.balanced (depth m.pending) us :=
    fun _ => rfl
  refine run_induction (motive := fun last read => ∀ us,
    Lexeme.balanced (depth m.pending) (read ++ us) = Lexeme.balanced (depth last.pending) us)
    ?_ start h us
  intro m' next read t kept hstep us
  rw [List.append_assoc, List.singleton_append, kept, balanced_step hstep]

/-- Lexemes that are refused for their parentheses are not balanced. -/
theorem run_eq_mismatched {ts : List Lexeme} {m : Machine}
    (h : m.run ts = .error .mismatchedParentheses) :
    Lexeme.balanced (depth m.pending) ts = false := by
  induction ts generalizing m with
  | nil => cases h
  | cons t ts ih =>
      rw [run] at h
      cases hstep : m.step t with
      | ok next =>
          simp only [hstep] at h
          rw [balanced_step hstep]
          exact ih h
      | error e =>
          simp only [hstep, Except.error.injEq] at h
          subst h
          rcases step_eq_error hstep with applied | ⟨rfl, none, -⟩ | ⟨-, f, cause⟩
          · rcases applied with operands | zero
            · cases operands
            · cases zero
          · rw [none]
            rfl
          · cases f <;> cases cause

end Machine

/-! ## The operands in a run -/

/-- A tree has one leaf more than it has nodes. -/
theorem Tree.length_leaves (t : Tree) : t.leaves.length = t.operators.length + 1 := by
  induction t with
  | leaf v => rfl
  | node o left right ihl ihr =>
      simp only [leaves, operators, List.length_append, List.length_singleton]
      omega

/-- Trees have as many leaves more than nodes as there are trees. -/
theorem Tree.length_pushed_codes (ts : List Tree) :
    ((codes ts).filterMap Instruction.pushed?).length =
      ((codes ts).filterMap Instruction.applied?).length + ts.length := by
  induction ts with
  | nil => rfl
  | cons t ts ih =>
      have one := t.length_leaves
      rw [codes, List.filterMap_append, List.filterMap_append, t.pushed_code, t.applied_code,
        List.length_append, List.length_append, List.length_cons]
      omega

namespace Machine

/-- Every number that was read is an operand, or an operator has used it up. -/
theorem Keeps.count {m : Machine} {ts : List Lexeme} (h : m.Keeps ts) :
    m.operands.length + (ts.filterMap Lexeme.operator?).length =
      (ts.filterMap Lexeme.word?).length + (m.pending.filterMap Pending.operator?).length := by
  obtain ⟨trees, values, numbers, operators⟩ := h
  have height := values.length_eq
  have pushed := congrArg List.length numbers
  have applied := operators.length_eq
  have more := Tree.length_pushed_codes trees
  rw [List.length_map, List.length_map] at pushed
  rw [List.length_append] at applied
  omega

/-- A machine with nothing in it has read no number and no operator. -/
theorem Keeps.of_empty {ts : List Lexeme} (h : Keeps {} ts) :
    ts.filterMap Lexeme.word? = [] ∧ ts.filterMap Lexeme.operator? = [] := by
  obtain ⟨trees, values, numbers, operators⟩ := h
  cases values
  exact ⟨List.map_eq_nil_iff.mp numbers.symm, operators.nil_eq.symm⟩

end Machine

/-! ## Verdicts -/

/-- What a result says about a text is true of it. -/
def Truthful (s : List Char) : Except EvalError Float → Prop
  | .ok _ => Balanced s ∧ (Literal.runs s).length = (Operator.among s).length + 1
  | .error .mismatchedParentheses => ¬ Balanced s
  | .error .invalidExpression =>
      Balanced s ∧ ((Literal.runs s).length = 0 ∧ (Operator.among s).length = 0 ∨
        (Operator.among s).length + 2 ≤ (Literal.runs s).length)
  | .error .missingOperator => False
  | .error _ => True

/-- The causes that end a run say something about the parentheses only. -/
theorem truthful_error {s : List Char} {e : EvalError}
    (cause : e.IsStructural ∨ ∃ f : LexicalFault, e = f.cause)
    (unbalanced : e = .mismatchedParentheses → ¬ Balanced s) : Truthful s (.error e) := by
  rcases cause with (rfl | rfl | rfl) | ⟨f, rfl⟩
  · exact unbalanced rfl
  · trivial
  · trivial
  · cases f <;> trivial

/-- What the machine says at the end is true of the text that it has read. -/
theorem truthful_finish {s : List Char} {m : Machine}
    (run : Machine.run {} (Lexeme.scan s) = .ok m) : Truthful s m.finish := by
  have kept : m.Keeps ([] ++ Lexeme.scan s) := Machine.keeps_nil.run run
  have balance : Lexeme.balanced 0 (Lexeme.scan s) = (Program.depth m.pending == 0) := by
    have same := Machine.balanced_run run []
    rwa [List.append_nil] at same
  have balanced : Balanced s ↔ Program.depth m.pending = 0 := by
    rw [balanced_iff, balance, beq_iff_eq]
  rcases m.finish_cases with ⟨e, applied, failed⟩ | ⟨opened, failed⟩ | ⟨left, none, unwound, ends⟩
  · rw [failed]
    refine truthful_error (.inl (.inr applied)) ?_
    rintro rfl
    rcases applied with operands | zero
    · cases operands
    · cases zero
  · rw [failed]
    exact fun all => opened (balanced.mp all)
  · have last := kept.unwind unwound
    have count := last.count
    rw [List.nil_append, Lexeme.words_scan, Lexeme.operators_scan] at count
    rcases ends with ⟨v, rfl, ok⟩ | ⟨other, failed⟩
    · rw [ok]
      simp only [List.length_singleton, List.filterMap_nil, List.length_nil] at count
      exact ⟨balanced.mpr none, by omega⟩
    · rw [failed]
      refine ⟨balanced.mpr none, ?_⟩
      cases left with
      | nil =>
          obtain ⟨words, operators⟩ := last.of_empty
          rw [List.nil_append, Lexeme.words_scan] at words
          rw [List.nil_append, Lexeme.operators_scan] at operators
          exact .inl ⟨by rw [words]; rfl, by rw [operators]; rfl⟩
      | cons v left =>
          simp only [List.length_cons, List.filterMap_nil, List.length_nil] at count other
          exact .inr (by omega)

/-- Every result is true of its text. -/
theorem truthful_evaluateStripped {s : List Char} (nonempty : s ≠ []) :
    Truthful s (evaluateStripped s) := by
  rw [evaluateStripped_of_ne_nil nonempty]
  cases adjacentOperators? s with
  | some pair => trivial
  | none =>
      simp only [Machine.result]
      cases run : Machine.run {} (Lexeme.scan s) with
      | ok m => exact truthful_finish run
      | error e =>
          refine truthful_error ?_ ?_
          · rcases Machine.run_eq_error run with structural | ⟨-, fault⟩
            · exact .inl structural
            · exact .inr fault
          · rintro rfl balanced
            have unbalanced : Lexeme.balanced 0 (Lexeme.scan s) = false :=
              Machine.run_eq_mismatched run
            rw [balanced_iff.mp balanced] at unbalanced
            cases unbalanced

/-- What the value of a text, or the cause for which it has none, says about the text.  Of
a text that is not blank count the numbers, which are the runs of digits and dots, each as
long as it can be, and the operators.  If the text has a value, it is balanced and has one
number more than operators.  If it is refused for its parentheses, it is not balanced.  If
it is refused in the end, it is balanced and has neither numbers nor operators, or two
numbers more than operators at least.  And none is refused for a missing operator, not even
by the machine that looks for one with each application. -/
theorem evaluate_verdict {text : String} (nonempty : Text.strip text.toList ≠ []) :
    let s := Text.strip text.toList
    let numbers := (Literal.runs s).length
    let operators := (Operator.among s).length
    Guarded.evaluate text = evaluate text ∧
      (∀ v, evaluate text = .ok v → Balanced s ∧ numbers = operators + 1) ∧
      (evaluate text = .error .mismatchedParentheses → ¬ Balanced s) ∧
      (evaluate text = .error .invalidExpression →
        Balanced s ∧ (numbers = 0 ∧ operators = 0 ∨ operators + 2 ≤ numbers)) ∧
      evaluate text ≠ .error .missingOperator ∧
      (¬ Balanced s ∨ numbers ≠ operators + 1 → ∃ cause, evaluate text = .error cause) := by
  intro s numbers operators
  have truthful : Truthful s (evaluate text) := truthful_evaluateStripped nonempty
  refine ⟨Guarded.evaluate_eq text, ?_, ?_, ?_, ?_, ?_⟩
  · intro v ok
    rwa [ok] at truthful
  · intro mismatched
    rwa [mismatched] at truthful
  · intro invalid
    rwa [invalid] at truthful
  · intro missing
    rwa [missing] at truthful
  · intro wrong
    cases outcome : evaluate text with
    | error cause => exact ⟨cause, rfl⟩
    | ok v =>
        rw [outcome] at truthful
        rcases wrong with unbalanced | other
        · exact absurd truthful.1 unbalanced
        · exact absurd truthful.2 other

/-- Two numbers in a group each, with no operator between them. -/
theorem evaluate_verdict_two_groups :
    Text.strip "(1) (2.)".toList ≠ [] ∧ evaluate "(1) (2.)" = .error .invalidExpression ∧
      Balanced (Text.strip "(1) (2.)".toList) ∧
      (Operator.among (Text.strip "(1) (2.)".toList)).length = 0 ∧
      (Literal.runs (Text.strip "(1) (2.)".toList)).length = 2 ∧
      Guarded.evaluate "(1) (2.)" = .error .invalidExpression := by
  have nonempty : Text.strip "(1) (2.)".toList ≠ [] := by decide
  have refused : evaluate "(1) (2.)" = .error .invalidExpression := by rfl
  obtain ⟨same, -, -, invalid, -, -⟩ := evaluate_verdict nonempty
  exact ⟨nonempty, refused, (invalid refused).1, by decide, by decide, same.trans refused⟩

end SchoolDesk.Expression
