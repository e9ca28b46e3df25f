import Mathlib.Data.List.Forall2
import SchoolDesk.Proofs.Expression.Compilation
import SchoolDesk.Proofs.Expression.Scan

/-!
# Operands play no part

Two texts are *alike* if their scans are the same up to the number words in them.
Compiling never looks at an operand, so alike texts have programs that are alike:
the same instructions up to pushed values, and the same fault (`compile_alike`).

Running a program looks at operands in one place, where a division asks whether
its right operand is zero.  So two runs of alike programs on stacks of one height
go the same way as long as neither of them stops there (`exec_alike`).  The final
statement puts both halves together: a text is worth what its program gives, and
alike texts are both accepted, or refused for the same cause, unless one of them
divides by zero.
-/

namespace SchoolDesk.Expression

/-- Two lexemes that are the same, or number words both. -/
inductive Lexeme.Alike : Lexeme → Lexeme → Prop where
  | same (t : Lexeme) : Alike t t
  | words {v w : List Char} : Literal.isNumber v = true → Literal.isNumber w = true →
      Alike (.word v) (.word w)

/-- Two texts without blanks that are the same up to the number words in them. -/
def AlikeTexts (s t : List Char) : Prop :=
  List.Forall₂ Lexeme.Alike (Lexeme.scan s) (Lexeme.scan t)

/-- Two instructions that are the same up to the value pushed. -/
inductive Instruction.Alike : Instruction → Instruction → Prop where
  | push (v w : Float) : Alike (.push v) (.push w)
  | apply (o : Operator) : Alike (.apply o) (.apply o)

/-- Two programs that are the same up to the values pushed. -/
structure Program.Alike (p q : Program) : Prop where
  instructions : List.Forall₂ Instruction.Alike p.instructions q.instructions
  fault : p.fault = q.fault

/-! ## Alike texts -/

namespace Lexeme

/-- An operator is alike to itself only. -/
theorem Alike.eq_op {t : Lexeme} {o : Operator} (h : Alike (.op o) t) : t = .op o := by
  cases h with
  | same => rfl

theorem Alike.symm {t u : Lexeme} (h : Alike t u) : Alike u t := by
  cases h with
  | same t => exact .same t
  | words hv hw => exact .words hw hv

/-- Alike lexemes have the same first pair of operators. -/
theorem adjacentOperators?_alike {ts us : List Lexeme} (h : List.Forall₂ Alike ts us) :
    adjacentOperators? ts = adjacentOperators? us := by
  induction h with
  | nil => rfl
  | @cons t u ts us ht hs ih =>
      by_cases pair : ∃ a b more, t = .op a ∧ ts = .op b :: more
      · obtain ⟨a, b, more, rfl, rfl⟩ := pair
        obtain rfl := ht.eq_op
        cases hs with
        | cons hb hs =>
            obtain rfl := hb.eq_op
            rfl
      · rw [adjacentOperators?_cons fun a b more ha hb => pair ⟨a, b, more, ha, hb⟩, ih]
        symm
        refine adjacentOperators?_cons fun a b more ha hb => ?_
        subst ha hb
        cases hs with
        | cons hb hs => exact pair ⟨a, b, _, ht.symm.eq_op, by rw [hb.symm.eq_op]⟩

end Lexeme

/-- Only the empty text is alike to the empty text. -/
theorem AlikeTexts.eq_nil_iff {s t : List Char} (h : AlikeTexts s t) : s = [] ↔ t = [] := by
  rw [← Lexeme.scan_eq_nil_iff, ← Lexeme.scan_eq_nil_iff]
  have len := h.length_eq
  rw [← List.length_eq_zero_iff, ← List.length_eq_zero_iff, len]

/-! ## Alike programs -/

namespace Program

theorem alike_refl : ∀ is : List Instruction, List.Forall₂ Instruction.Alike is is
  | [] => .nil
  | .push v :: is => .cons (.push v v) (alike_refl is)
  | .apply o :: is => .cons (.apply o) (alike_refl is)

/-- Alike lexemes emit alike instructions and leave the same pending. -/
theorem emit_alike {t u : Lexeme} (h : Lexeme.Alike t u) (pending : List Pending) :
    List.Forall₂ Instruction.Alike (emit pending t).1 (emit pending u).1 ∧
      (emit pending t).2 = (emit pending u).2 := by
  cases h with
  | same t => exact ⟨alike_refl _, rfl⟩
  | words hv hw =>
      obtain ⟨v, hv⟩ := Option.isSome_iff_exists.mp ((Literal.value?_isSome _).trans hv)
      obtain ⟨w, hw⟩ := Option.isSome_iff_exists.mp ((Literal.value?_isSome _).trans hw)
      rw [emit_word hv, emit_word hw]
      exact ⟨.cons (.push v w) .nil, rfl⟩

/-- Alike lexemes are compiled to alike programs, whatever is pending. -/
theorem compile_alike {ts us : List Lexeme} (h : List.Forall₂ Lexeme.Alike ts us)
    (pending : List Pending) : Alike (compile pending ts) (compile pending us) := by
  induction h generalizing pending with
  | nil => exact ⟨alike_refl _, rfl⟩
  | @cons t u ts us ht _ ih =>
      obtain ⟨instructions, same⟩ := emit_alike ht pending
      rw [compile_cons, compile_cons, ← same]
      cases (emit pending t).2 with
      | ok rest => exact ⟨List.rel_append instructions (ih rest).instructions, (ih rest).fault⟩
      | error fault => exact ⟨instructions, rfl⟩

/-! ## Runs of alike programs -/

/-- Two results that are both values, in the relation `R`, or the same error. -/
inductive SameOutcome {α : Type} (R : α → α → Prop) :
    Except EvalError α → Except EvalError α → Prop where
  | ok {x y : α} : R x y → SameOutcome R (.ok x) (.ok y)
  | error (e : EvalError) : SameOutcome R (.error e) (.error e)

/-- Stacks of one height. -/
def SameHeight (left right : List Float) : Prop := List.Forall₂ (fun _ _ => True) left right

/-- An operator meets the same fate on stacks of one height, unless it divides by
zero on one of them. -/
theorem applyTop_sameHeight (o : Operator) {left right : List Float} (h : SameHeight left right) :
    Machine.applyTop o left = .error .divisionByZero ∨
      Machine.applyTop o right = .error .divisionByZero ∨
      SameOutcome SameHeight (Machine.applyTop o left) (Machine.applyTop o right) := by
  cases h with
  | nil => exact .inr (.inr (.error _))
  | cons _ h =>
      cases h with
      | nil => exact .inr (.inr (.error _))
      | cons _ h =>
          simp only [Machine.applyTop]
          split
          next => exact .inl rfl
          next =>
            split
            next => exact .inr (.inl rfl)
            next => exact .inr (.inr (.ok (.cons trivial h)))

/-- Alike instructions on stacks of one height run the same way, unless one of the
runs divides by zero. -/
theorem exec_alike {is js : List Instruction} (h : List.Forall₂ Instruction.Alike is js)
    {left right : List Float} (height : SameHeight left right) :
    exec is left = .error .divisionByZero ∨ exec js right = .error .divisionByZero ∨
      SameOutcome SameHeight (exec is left) (exec js right) := by
  induction h generalizing left right with
  | nil => exact .inr (.inr (.ok height))
  | cons hi _ ih =>
      cases hi with
      | push v w => exact ih (.cons trivial height)
      | apply o =>
          simp only [exec]
          rcases applyTop_sameHeight o height with zero | zero | same
          · rw [zero]
            exact .inl rfl
          · rw [zero]
            exact .inr (.inl rfl)
          · generalize Machine.applyTop o left = x at same
            generalize Machine.applyTop o right = y at same
            cases same with
            | ok height => exact ih height
            | error e => exact .inr (.inr (.error e))

/-- Alike programs have the same outcome, unless one of them divides by zero. -/
theorem run_alike {p q : Program} (h : Alike p q) :
    p.run = .error .divisionByZero ∨ q.run = .error .divisionByZero ∨
      SameOutcome (fun _ _ => True) p.run q.run := by
  have height : SameHeight [] [] := .nil
  rcases exec_alike h.instructions height with zero | zero | same
  · exact .inl (by rw [run, zero])
  · exact .inr (.inl (by rw [run, zero]))
  · refine .inr (.inr ?_)
    rw [run, run, h.fault]
    generalize exec p.instructions [] = x at same
    generalize exec q.instructions [] = y at same
    cases same with
    | error e => exact .error e
    | ok height =>
        cases q.fault with
        | some e => exact .error e
        | none =>
            cases height with
            | nil => exact .error _
            | cons _ height =>
                cases height with
                | nil => exact .ok trivial
                | cons _ _ => exact .error _

/-- Alike texts have the same outcome, unless one of them divides by zero. -/
theorem evaluateStripped_alike {s t : List Char} (h : AlikeTexts s t) :
    evaluateStripped s = .error .divisionByZero ∨ evaluateStripped t = .error .divisionByZero ∨
      SameOutcome (fun _ _ => True) (evaluateStripped s) (evaluateStripped t) := by
  by_cases hs : s = []
  · obtain rfl := h.eq_nil_iff.mp hs
    subst hs
    exact .inr (.inr (.ok trivial))
  · have ht : t ≠ [] := fun ht => hs (h.eq_nil_iff.mpr ht)
    have pair : adjacentOperators? s = adjacentOperators? t := by
      rw [Lexeme.adjacentOperators?_scan, Lexeme.adjacentOperators?_scan]
      exact Lexeme.adjacentOperators?_alike h
    simp only [evaluateStripped, List.isEmpty_iff, if_neg hs, if_neg ht, ← pair]
    cases adjacentOperators? s with
    | some pair => exact .inr (.inr (.error _))
    | none => exact run_alike (compile_alike h [])

end Program

/-! ## One pass and two phases -/

/-- A text is worth what its program gives, with the same error where there is
one.  Texts that differ in their number words at most have alike programs, and are
both accepted, or refused for the same cause, unless one of them divides by
zero. -/
theorem evaluate_eq_program (s t : String) :
    evaluate s = Program.evaluateStripped (Text.strip s.toList) ∧
      (AlikeTexts (Text.strip s.toList) (Text.strip t.toList) →
        Program.Alike (Program.compile [] (Lexeme.scan (Text.strip s.toList)))
            (Program.compile [] (Lexeme.scan (Text.strip t.toList))) ∧
          (evaluate s = .error .divisionByZero ∨ evaluate t = .error .divisionByZero ∨
            (∃ v w, evaluate s = .ok v ∧ evaluate t = .ok w) ∨
            ∃ e, evaluate s = .error e ∧ evaluate t = .error e)) := by
  have one (text : String) :
      evaluate text = Program.evaluateStripped (Text.strip text.toList) :=
    Program.evaluateStripped_eq (Text.strip text.toList)
  refine ⟨one s, fun alike => ⟨Program.compile_alike alike [], ?_⟩⟩
  rw [one s, one t]
  rcases Program.evaluateStripped_alike alike with zero | zero | same
  · exact .inl zero
  · exact .inr (.inl zero)
  · refine .inr (.inr ?_)
    generalize Program.evaluateStripped (Text.strip s.toList) = x at same
    generalize Program.evaluateStripped (Text.strip t.toList) = y at same
    cases same with
    | ok _ => exact .inl ⟨_, _, rfl, rfl⟩
    | error e => exact .inr ⟨e, rfl, rfl⟩

/-- A text that is refused for a missing operand, beside the same text with other
numbers. -/
theorem evaluate_eq_program_missing_operand :
    AlikeTexts (Text.strip "2*(7 -)".toList) (Text.strip "1.5 * (0-)".toList) ∧
      evaluate "2*(7 -)" = .error .insufficientOperands ∧
      (evaluate "2*(7 -)" = .error .divisionByZero ∨
        evaluate "1.5 * (0-)" = .error .divisionByZero ∨
        (∃ v w, evaluate "2*(7 -)" = .ok v ∧ evaluate "1.5 * (0-)" = .ok w) ∨
        ∃ e, evaluate "2*(7 -)" = .error e ∧ evaluate "1.5 * (0-)" = .error e) := by
  have alike : AlikeTexts (Text.strip "2*(7 -)".toList) (Text.strip "1.5 * (0-)".toList) :=
    .cons (.words rfl rfl) (.cons (.same _) (.cons (.same _) (.cons (.words rfl rfl)
      (.cons (.same _) (.cons (.same _) .nil)))))
  exact ⟨alike, by rfl, ((evaluate_eq_program _ _).2 alike).2⟩

end SchoolDesk.Expression
