import Mathlib.Data.List.Forall2
import SchoolDesk.Expression.Grammar
import SchoolDesk.Expression.Program

/-!
# Trees and their postfix form

A `Tree` has doubles at its leaves and operators at its nodes.  Its `code` is its
postfix form, a list of instructions for the stack of operands, and running it
pushes the value of the tree (`exec_code`).

The other direction holds too.  Each operand on the stack stands for a tree, and
the instructions run so far are the postfix forms of those trees, the lowest
first.  So instructions that run through from the empty stack are the postfix form
of trees with values (`exec_eq_ok_iff`), and instructions that stop at a division
by zero begin with such trees and with a division of two trees that have values,
the right one zero (`exec_eq_divisionByZero_iff`).
-/

namespace SchoolDesk.Expression

/-! ## One operator on the stack -/

theorem Expr.combine_eq_none_iff {o : Operator} {x y : Float} :
    combine o x y = none ↔ o = .div ∧ (y == 0.0) = true := by
  simp [combine]

/-- An operator puts the combination of the two topmost operands in their place. -/
theorem Machine.applyTop_cons (o : Operator) (x y : Float) (operands : List Float) :
    applyTop o (y :: x :: operands) =
      match Expr.combine o x y with
      | some v => .ok (v :: operands)
      | none => .error .divisionByZero := by
  by_cases h : (o = .div && y == 0.0) = true
  · simp only [applyTop, Expr.combine, if_pos h]
  · simp only [applyTop, Expr.combine, if_neg h]

/-- What an operator needs to be applied. -/
theorem Machine.applyTop_eq_ok {o : Operator} {operands after : List Float}
    (h : applyTop o operands = .ok after) :
    ∃ x y v rest, operands = y :: x :: rest ∧ Expr.combine o x y = some v ∧ after = v :: rest := by
  match operands with
  | [] => cases h
  | [_] => cases h
  | y :: x :: rest =>
      rw [applyTop_cons] at h
      cases hv : Expr.combine o x y with
      | none => simp [hv] at h
      | some v =>
          simp only [hv, Except.ok.injEq] at h
          exact ⟨x, y, v, rest, rfl, hv, h.symm⟩

/-- What an operator finds when it stops the run with a division by zero. -/
theorem Machine.applyTop_eq_divisionByZero {o : Operator} {operands : List Float}
    (h : applyTop o operands = .error .divisionByZero) :
    ∃ x y rest, operands = y :: x :: rest ∧ o = .div ∧ (y == 0.0) = true := by
  match operands with
  | [] => cases h
  | [_] => cases h
  | y :: x :: rest =>
      rw [applyTop_cons] at h
      cases hv : Expr.combine o x y with
      | none =>
          obtain ⟨division, zero⟩ := Expr.combine_eq_none_iff.mp hv
          exact ⟨x, y, rest, rfl, division, zero⟩
      | some v => simp [hv] at h

/-! ## Trees -/

/-- A binary tree of operators over doubles. -/
inductive Tree where
  | leaf (v : Float)
  | node (o : Operator) (left right : Tree)

namespace Tree

/-- The postfix form of a tree: left operand, right operand, operator. -/
def code : Tree → List Instruction
  | .leaf v => [.push v]
  | .node o left right => left.code ++ right.code ++ [.apply o]

/-- The value of a tree, unless something in it is divided by zero. -/
def value : Tree → Option Float
  | .leaf v => some v
  | .node o left right => do Expr.combine o (← left.value) (← right.value)

theorem value_node {o : Operator} {left right : Tree} {x y : Float} (hl : left.value = some x)
    (hr : right.value = some y) : (node o left right).value = Expr.combine o x y := by
  simp [value, hl, hr]

/-- The postfix form of some trees, which are given the last first. -/
def codes : List Tree → List Instruction
  | [] => []
  | t :: ts => codes ts ++ t.code

/-- The values of some trees. -/
def Values (ts : List Tree) (vs : List Float) : Prop :=
  List.Forall₂ (fun t v => value t = some v) ts vs

/-- The postfix form of a tree pushes its value, or stops at a division by zero if
it has none. -/
theorem exec_code (t : Tree) (rest : List Instruction) (operands : List Float) :
    Program.exec (t.code ++ rest) operands =
      match t.value with
      | some v => Program.exec rest (v :: operands)
      | none => .error .divisionByZero := by
  induction t generalizing rest operands with
  | leaf v => rfl
  | node o left right ihl ihr =>
      simp only [code, List.append_assoc]
      rw [ihl]
      cases hl : left.value with
      | none => simp [value, hl]
      | some x =>
          simp only
          rw [ihr]
          cases hr : right.value with
          | none => simp [value, hl, hr]
          | some y =>
              simp only [List.singleton_append, Program.exec, Machine.applyTop_cons,
                value_node hl hr]
              cases Expr.combine o x y with
              | some v => rfl
              | none => rfl

/-- The postfix form of trees with values pushes those values. -/
theorem exec_codes {ts : List Tree} {vs : List Float} (h : Values ts vs)
    (rest : List Instruction) : Program.exec (codes ts ++ rest) [] = Program.exec rest vs := by
  induction h generalizing rest with
  | nil => rfl
  | cons ht _ ih => rw [codes, List.append_assoc, ih, exec_code, ht]

/-! ## Instructions that run through -/

/-- One instruction that runs through on the values of some trees leads to the values
of some trees. -/
theorem Values.step {i : Instruction} {ts : List Tree} {vs next : List Float}
    (h : Values ts vs) (run : Program.exec [i] vs = .ok next) :
    ∃ us, codes us = codes ts ++ [i] ∧ Values us next := by
  cases i with
  | push v =>
      cases run
      exact ⟨.leaf v :: ts, rfl, .cons rfl h⟩
  | apply o =>
      rw [Program.exec] at run
      cases happly : Machine.applyTop o vs with
      | error e => simp [happly] at run
      | ok after =>
          obtain ⟨x, y, v, rest, rfl, hv, rfl⟩ := Machine.applyTop_eq_ok happly
          simp only [happly, Program.exec, Except.ok.injEq] at run
          subst run
          cases h with
          | @cons right _ _ _ hr h =>
              cases h with
              | @cons left _ ts _ hl h =>
                  refine ⟨.node o left right :: ts, ?_, .cons ((value_node hl hr).trans hv) h⟩
                  simp only [codes, code, List.append_assoc]

/-- Instructions that run through on the values of some trees lead to the values of
some trees. -/
theorem Values.exec {is : List Instruction} {ts : List Tree} {vs after : List Float}
    (h : Values ts vs) (run : Program.exec is vs = .ok after) :
    ∃ us, codes us = codes ts ++ is ∧ Values us after := by
  induction is generalizing ts vs with
  | nil =>
      cases run
      exact ⟨ts, (List.append_nil _).symm, h⟩
  | cons i is ih =>
      rw [← List.singleton_append, Program.exec_append] at run
      cases step : Program.exec [i] vs with
      | error e => simp [step] at run
      | ok next =>
          -- The trees after one instruction are the trees the rest begins with.
          simp only [step] at run
          obtain ⟨us, hc, hu⟩ := h.step step
          obtain ⟨us', hc', hu'⟩ := ih hu run
          exact ⟨us', by rw [hc', hc, List.append_assoc, List.singleton_append], hu'⟩

/-- Instructions run through from the empty stack if they are the postfix form of
trees with values, and only then. -/
theorem exec_eq_ok_iff {is : List Instruction} {vs : List Float} :
    Program.exec is [] = .ok vs ↔ ∃ ts, codes ts = is ∧ Values ts vs := by
  constructor
  · intro run
    have start : Values [] [] := .nil
    exact start.exec run
  · rintro ⟨ts, rfl, hv⟩
    rw [← List.append_nil (codes ts), exec_codes hv]
    rfl

/-- Instructions leave one operand if they are the postfix form of one tree. -/
theorem exec_eq_singleton_iff {is : List Instruction} {v : Float} :
    Program.exec is [] = .ok [v] ↔ ∃ t : Tree, t.code = is ∧ t.value = some v := by
  rw [exec_eq_ok_iff]
  constructor
  · rintro ⟨ts, hc, hv⟩
    cases hv with
    | @cons t _ _ _ ht hn =>
        cases hn
        exact ⟨t, hc, ht⟩
  · rintro ⟨t, hc, ht⟩
    exact ⟨[t], hc, .cons ht .nil⟩

/-! ## Instructions that stop at a division by zero -/

/-- Some instructions begin with the postfix form of trees that have values and
then of two more, whose quotient is due and of which the second is zero. -/
def DividesByZero (is : List Instruction) : Prop :=
  ∃ (ts : List Tree) (vs : List Float) (left right : Tree) (x y : Float)
    (rest : List Instruction),
    Values ts vs ∧ left.value = some x ∧ right.value = some y ∧ (y == 0.0) = true ∧
      is = codes (right :: left :: ts) ++ .apply .div :: rest

/-- One instruction that stops at a division by zero is a division. -/
theorem Values.step_divisionByZero {i : Instruction} {ts : List Tree} {vs : List Float}
    (h : Values ts vs) (run : Program.exec [i] vs = .error .divisionByZero)
    (rest : List Instruction) : DividesByZero (codes ts ++ i :: rest) := by
  cases i with
  | push v => cases run
  | apply o =>
      rw [Program.exec] at run
      cases happly : Machine.applyTop o vs with
      | ok after => simp [happly, Program.exec] at run
      | error e =>
          simp only [happly, Except.error.injEq] at run
          subst run
          obtain ⟨x, y, vs, rfl, rfl, zero⟩ := Machine.applyTop_eq_divisionByZero happly
          cases h with
          | @cons right _ _ _ hr h =>
              cases h with
              | @cons left _ ts _ hl h =>
                  exact ⟨ts, vs, left, right, x, y, rest, h, hl, hr, zero, rfl⟩

theorem Values.exec_divisionByZero {is : List Instruction} {ts : List Tree} {vs : List Float}
    (h : Values ts vs) (run : Program.exec is vs = .error .divisionByZero) :
    DividesByZero (codes ts ++ is) := by
  induction is generalizing ts vs with
  | nil => cases run
  | cons i is ih =>
      rw [← List.singleton_append, Program.exec_append] at run
      cases step : Program.exec [i] vs with
      | error e =>
          simp only [step, Except.error.injEq] at run
          subst run
          exact h.step_divisionByZero step is
      | ok next =>
          simp only [step] at run
          obtain ⟨us, hc, hu⟩ := h.step step
          have later := ih hu run
          rwa [hc, List.append_assoc, List.singleton_append] at later

theorem exec_eq_divisionByZero_iff {is : List Instruction} :
    Program.exec is [] = .error .divisionByZero ↔ DividesByZero is := by
  constructor
  · intro run
    have start : Values [] [] := .nil
    exact start.exec_divisionByZero run
  · rintro ⟨ts, vs, left, right, x, y, rest, hv, hl, hr, zero, rfl⟩
    rw [exec_codes (.cons hr (.cons hl hv)), Program.exec, Machine.applyTop_cons,
      Expr.combine_eq_none_iff.mpr ⟨rfl, zero⟩]

end Tree

end SchoolDesk.Expression
