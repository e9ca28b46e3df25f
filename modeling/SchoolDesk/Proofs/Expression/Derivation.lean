import SchoolDesk.Proofs.Expression.Compilation
import SchoolDesk.Proofs.Expression.Postfix
import SchoolDesk.Proofs.Expression.Recognition

/-!
# A derivation is compiled to the postfix form of its tree

The machine builds no tree, and neither does compiling.  Still the program of a
derivation is the postfix form of the tree that the derivation stands for
(`compile_lexemes`), so the value of an expression is the value along its
derivation, and the only thing that can go wrong is a division by zero.

The invariant is about one layer of the grammar at a time.  Lexemes *compile at* a
level to a postfix form if, above pending operators that bind less tightly than
the level, they leave operators of at least that level pending, and the
instructions so far together with those operators are the postfix form.  What is
left pending is what associativity and precedence postpone.  An operator of the
level itself first applies all of it and nothing below (`CompilesAt.binary`),
and so does a closing parenthesis (`CompilesAt.group`).
-/

namespace SchoolDesk.Expression

namespace Program

theorem after_after (is js : List Instruction) (p : Program) :
    after is (after js p) = after (is ++ js) p := by
  simp [after]

/-! ## Pending operators by level -/

/-- Nothing on top of the pending stack binds as tightly as the level. -/
def Quiet (level : Nat) (pending : List Pending) : Prop :=
  ∀ o rest, pending = .op o :: rest → o.precedence < level

theorem quiet_nil (level : Nat) : Quiet level [] := by
  intro o rest h
  cases h

theorem quiet_openParen (level : Nat) (pending : List Pending) :
    Quiet level (.openParen :: pending) := by
  intro o rest h
  cases h

theorem quiet_op {level : Nat} {o : Operator} (h : o.precedence < level)
    (pending : List Pending) : Quiet level (.op o :: pending) := by
  intro o' rest he
  cases he
  exact h

theorem Quiet.mono {level level' : Nat} {pending : List Pending} (h : Quiet level pending)
    (le : level ≤ level') : Quiet level' pending :=
  fun o rest he => Nat.lt_of_lt_of_le (h o rest he) le

/-- Operators that are due are taken off down to the first that is not. -/
theorem takeDue_append {due : Operator → Bool} {ops : List Operator} {pending : List Pending}
    (all : ∀ o ∈ ops, due o = true) (stop : ∀ o rest, pending = .op o :: rest → due o = false) :
    takeDue due (ops.map .op ++ pending) = (ops.map .apply, pending) := by
  induction ops with
  | nil =>
      cases pending with
      | nil => rfl
      | cons p pending =>
          cases p with
          | openParen => rfl
          | op o => simp [takeDue, stop o pending rfl]
  | cons o ops ih =>
      have rest := ih fun o ho => all o (.tail _ ho)
      simp only [List.map_cons, List.cons_append, takeDue, all o (.head _), if_true, rest]

/-! ## Compiling at a level -/

/-- Some lexemes are compiled to a postfix form, up to operators of at least the
level that stay pending. -/
def CompilesAt (level : Nat) (ts : List Lexeme) (code : List Instruction) : Prop :=
  ∀ pending, Quiet level pending →
    ∃ (is : List Instruction) (ops : List Operator), (∀ o ∈ ops, level ≤ o.precedence) ∧
      is ++ ops.map .apply = code ∧
      ∀ rest, compile pending (ts ++ rest) = after is (compile (ops.map .op ++ pending) rest)

theorem CompilesAt.mono {level level' : Nat} {ts : List Lexeme} {code : List Instruction}
    (h : CompilesAt level' ts code) (le : level ≤ level') : CompilesAt level ts code := by
  intro pending quiet
  obtain ⟨is, ops, tight, hcode, hcompile⟩ := h pending (quiet.mono le)
  exact ⟨is, ops, fun o ho => Nat.le_trans le (tight o ho), hcode, hcompile⟩

/-- A number is pushed at once. -/
theorem CompilesAt.word {w : List Char} {v : Float} (h : Literal.value? w = some v)
    (level : Nat) : CompilesAt level [.word w] [.push v] := by
  intro pending _
  refine ⟨[.push v], [], by simp, rfl, fun rest => ?_⟩
  simp only [List.singleton_append, compile_cons, emit_word h]
  rfl

/-- A closing parenthesis applies all that its group left pending. -/
theorem CompilesAt.group {ts : List Lexeme} {code : List Instruction}
    (h : CompilesAt 1 ts code) (level : Nat) :
    CompilesAt level (.openParen :: ts ++ [.closeParen]) code := by
  intro pending _
  obtain ⟨is, ops, -, hcode, hcompile⟩ :=
    h (.openParen :: pending) (quiet_openParen 1 pending)
  refine ⟨code, [], by simp, by simp, fun rest => ?_⟩
  have due : takeDue (fun _ => true) (ops.map .op ++ .openParen :: pending) =
      (ops.map .apply, .openParen :: pending) :=
    takeDue_append (fun _ _ => rfl) (fun o rest he => by cases he)
  calc compile pending (.openParen :: ts ++ [.closeParen] ++ rest)
      = compile (.openParen :: pending) (ts ++ .closeParen :: rest) := by simp [compile]
    _ = after is (compile (ops.map .op ++ .openParen :: pending) (.closeParen :: rest)) :=
        hcompile _
    _ = after is (after (ops.map .apply) (compile pending rest)) := by
        rw [compile_cons, emit_closeParen due]
    _ = after code (compile ([] ++ pending) rest) := by rw [after_after, hcode]; rfl

/-- An operator of the level applies all that its left operand left pending, and then
waits for its right operand. -/
theorem CompilesAt.binary {level : Nat} {ts us : List Lexeme} {left right : List Instruction}
    {o : Operator} (hl : CompilesAt level ts left) (ho : o.precedence = level)
    (hr : CompilesAt (level + 1) us right) :
    CompilesAt level (ts ++ .op o :: us) (left ++ right ++ [.apply o]) := by
  intro pending quiet
  obtain ⟨is, ops, tight, hcode, hcompile⟩ := hl pending quiet
  obtain ⟨is', ops', tight', hcode', hcompile'⟩ :=
    hr (.op o :: pending) (quiet_op (by omega) pending)
  refine ⟨left ++ is', ops' ++ [o], ?_, ?_, fun rest => ?_⟩
  · intro p hp
    rcases List.mem_append.mp hp with hp | hp
    · have := tight' p hp
      omega
    · cases List.mem_singleton.mp hp
      omega
  · simp [← hcode']
  · -- `tight` makes all of `ops` due at `o`, and `quiet` keeps what was pending before.
    have due : takeDue (fun top => o.precedence ≤ top.precedence) (ops.map .op ++ pending) =
        (ops.map .apply, pending) :=
      takeDue_append (fun p hp => by simpa [ho] using tight p hp)
        (fun p rest he => by simpa [ho] using quiet p rest he)
    calc compile pending (ts ++ .op o :: us ++ rest)
        = compile pending (ts ++ .op o :: (us ++ rest)) := by simp
      _ = after is (compile (ops.map .op ++ pending) (.op o :: (us ++ rest))) := hcompile _
      _ = after is (after (ops.map .apply) (compile (.op o :: pending) (us ++ rest))) := by
          simp only [compile_cons, emit, due]
      _ = after left (after is' (compile (ops'.map .op ++ .op o :: pending) rest)) := by
          rw [after_after, hcode, hcompile']
      _ = after (left ++ is') (compile ((ops' ++ [o]).map .op ++ pending) rest) := by
          rw [after_after]
          simp

end Program

/-! ## The tree of a derivation -/

/-- How tightly the operators of a layer bind at least. -/
def Layer.level : Layer → Nat
  | .sum => 1
  | .product => 2
  | .factor => 3

namespace Expr

/-- The tree that a derivation stands for. -/
def tree {l : Layer} : Expr l → Tree
  | .literal word _ isNumber =>
      .leaf ((Literal.value? word).get ((Literal.value?_isSome word).trans isNumber))
  | .group e => e.tree
  | .ofFactor e => e.tree
  | .product left o _ right => .node o left.tree right.tree
  | .ofProduct e => e.tree
  | .sum left o _ right => .node o left.tree right.tree

theorem value_tree {l : Layer} (e : Expr l) : e.tree.value = e.value := by
  induction e with
  | literal word isWord isNumber => simp [tree, Tree.value, value]
  | group e ih => exact ih
  | ofFactor e ih => exact ih
  | product left o tight right ihl ihr => simp only [tree, Tree.value, value, ihl, ihr]
  | ofProduct e ih => exact ih
  | sum left o loose right ihl ihr => simp only [tree, Tree.value, value, ihl, ihr]

/-- A derivation is compiled, at the level of its layer, to the postfix form of its
tree. -/
theorem compile_lexemes {l : Layer} (e : Expr l) :
    Program.CompilesAt l.level e.lexemes e.tree.code := by
  induction e with
  | literal word isWord isNumber => exact .word (Option.some_get _).symm _
  | group e ih => exact ih.group _
  | ofFactor e ih => exact ih.mono (by decide)
  | product left o tight right ihl ihr => exact ihl.binary tight ihr
  | ofProduct e ih => exact ih.mono (by decide)
  | sum left o loose right ihl ihr => exact ihl.binary loose ihr

theorem compile_sum (e : Expr .sum) :
    Program.compile [] e.lexemes = { instructions := e.tree.code } := by
  obtain ⟨is, ops, -, hcode, hcompile⟩ := e.compile_lexemes [] (Program.quiet_nil _)
  have due : Program.takeDue (fun _ => true) (ops.map .op ++ []) = (ops.map .apply, []) :=
    Program.takeDue_append (fun _ _ => rfl) (fun o rest he => by cases he)
  have h := hcompile []
  rw [List.append_nil, Program.compile_nil, due] at h
  rw [h, ← hcode]
  rfl

/-! ## Division by zero along a derivation -/

/-- Somewhere in a derivation a division has two operands with values, and the right
one equals zero. -/
def DividesByZero {l : Layer} : Expr l → Prop
  | .literal _ _ _ => False
  | .group e => e.DividesByZero
  | .ofFactor e => e.DividesByZero
  | .product left o _ right => left.DividesByZero ∨ right.DividesByZero ∨
      o = .div ∧ ∃ x y, left.value = some x ∧ right.value = some y ∧ (y == 0.0) = true
  | .ofProduct e => e.DividesByZero
  | .sum left o _ right => left.DividesByZero ∨ right.DividesByZero ∨
      o = .div ∧ ∃ x y, left.value = some x ∧ right.value = some y ∧ (y == 0.0) = true

/-- An operator has no value if an operand has none, or if it divides by zero. -/
theorem combine_values_eq_none_iff {o : Operator} {left right : Option Float} :
    (do combine o (← left) (← right)) = none ↔
      left = none ∨ right = none ∨
        o = .div ∧ ∃ x y, left = some x ∧ right = some y ∧ (y == 0.0) = true := by
  cases left with
  | none => simp
  | some x =>
      cases right with
      | none => simp
      | some y => simpa using combine_eq_none_iff

/-- A derivation has no value if something in it is divided by zero, and only then. -/
theorem value_eq_none_iff {l : Layer} (e : Expr l) : e.value = none ↔ e.DividesByZero := by
  induction e with
  | literal word isWord isNumber =>
      have some := (Literal.value?_isSome word).trans isNumber
      simp only [value, DividesByZero, iff_false]
      intro none
      simp [none] at some
  | group e ih => exact ih
  | ofFactor e ih => exact ih
  | product left o tight right ihl ihr =>
      simp only [value, DividesByZero, ← ihl, ← ihr]
      exact combine_values_eq_none_iff
  | ofProduct e ih => exact ih
  | sum left o loose right ihl ihr =>
      simp only [value, DividesByZero, ← ihl, ← ihr]
      exact combine_values_eq_none_iff

/-! ## The value of a text that is derived -/

/-- What the program of a derivation gives. -/
theorem evaluateStripped_text (e : Expr .sum) :
    evaluateStripped e.text =
      match e.value with
      | some v => .ok v
      | none => .error .divisionByZero := by
  have placed := e.placed_lexemes []
  have nonempty : ¬ e.text.isEmpty = true := by simpa using e.text_ne_nil
  rw [List.append_nil] at placed
  rw [Program.evaluateStripped_eq, Program.evaluateStripped, if_neg nonempty,
    Lexeme.adjacentOperators?_scan, e.scan_text_eq, Lexeme.adjacentOperators?_of_placed placed]
  simp only [compile_sum, Program.run]
  have h := e.tree.exec_code [] []
  rw [List.append_nil, e.value_tree] at h
  rw [h]
  cases e.value with
  | some v => rfl
  | none => rfl

end Expr

/-- A text whose blanks hide a derivation has the value of the derivation, unless
something in it is divided by zero.  It is refused for a division by zero then, and
for nothing else ever. -/
theorem evaluate_of_strip_eq_text (e : Expr .sum) (text : String)
    (h : Text.strip text.toList = e.text) :
    (¬ e.DividesByZero → ∃ v, e.value = some v ∧ evaluate text = .ok v) ∧
      (e.DividesByZero → evaluate text = .error .divisionByZero) ∧
      ∀ cause, evaluate text = .error cause → cause = .divisionByZero := by
  have worth : evaluate text =
      match e.value with
      | some v => .ok v
      | none => .error .divisionByZero := by
    rw [evaluate, h, e.evaluateStripped_text]
  rw [← e.value_eq_none_iff, worth]
  cases e.value with
  | some v =>
      refine ⟨fun _ => ⟨v, rfl, rfl⟩, ?_, ?_⟩
      · intro none
        cases none
      · intro cause hc
        cases hc
  | none =>
      refine ⟨fun some => absurd rfl some, fun _ => rfl, ?_⟩
      intro cause hc
      cases hc
      rfl

/-- The derivation of `1/((0-1)*0)`. -/
def quotientByNegativeZero : Expr .sum :=
  let word (c : Char) (h : [c].all Literal.isWordChar = true) (h' : Literal.isNumber [c] = true) :
      Expr .factor := .literal [c] h h'
  let zero := word '0' rfl rfl
  let one := word '1' rfl rfl
  let difference : Expr .sum := .sum (.ofProduct (.ofFactor zero)) .sub rfl (.ofFactor one)
  let negativeZero : Expr .sum := .ofProduct (.product (.ofFactor (.group difference)) .mul rfl zero)
  .ofProduct (.product (.ofFactor one) .div rfl (.group negativeZero))

/-- Dividing by `(0 - 1) * 0`, which is a zero with a sign, with blanks around. -/
theorem evaluate_quotientByNegativeZero :
    Text.strip " 1/ ((0 - 1) * 0)".toList = quotientByNegativeZero.text ∧
      quotientByNegativeZero.DividesByZero ∧
      evaluate " 1/ ((0 - 1) * 0)" = .error .divisionByZero := by
  have h : Text.strip " 1/ ((0 - 1) * 0)".toList = quotientByNegativeZero.text := by decide
  have zero : quotientByNegativeZero.DividesByZero :=
    .inr (.inr ⟨rfl, _, _, rfl, rfl, by decide⟩)
  exact ⟨h, zero, (evaluate_of_strip_eq_text quotientByNegativeZero _ h).2.1 zero⟩

end SchoolDesk.Expression
