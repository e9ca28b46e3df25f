import SchoolDesk.Proofs.Expression.Compilation
import SchoolDesk.Proofs.Expression.Group
import SchoolDesk.Proofs.Expression.Postfix
import SchoolDesk.Proofs.Expression.Scan

/-!
# Nothing is lost on the way to a value

A value is made of everything in the text: some tree has the numbers of the text at
its leaves, in their order, and the operators of the text at its nodes, and the value
of the text is the value of that tree.  This holds of every text that has a value, an
expression or not.  The tree of `2(3+)` is the sum of 2 and 3.

A text is read off directly here, and not through its lexemes: its numbers are the
runs of digits and dots in it, each as long as it can be (`Literal.runs`), and its
operators are the operator symbols in it.  `words_scan` and `operators_scan` say that
scanning finds the same.

The invariant is `Machine.Keeps`.  Between two lexemes each operand stands for a tree.
The leaves of these trees, those of the lowest operand first, are the numbers read so
far.  The operators read so far are at the nodes of the trees or pending, each of them
once.  A lexeme keeps this (`Keeps.step`), so a run keeps it (`Keeps.run`), and in the
end one tree is left (`Keeps.finish`).
-/

namespace SchoolDesk.Expression

/-! ## The numbers and operators of a text -/

/-- The runs of digits and dots in a text, each as long as it can be. -/
def Literal.runs (s : List Char) : List (List Char) :=
  (s.splitOnP fun c => !isWordChar c).filter fun w => !w.isEmpty

/-- The operators whose symbols are in a text. -/
def Operator.among (s : List Char) : List Operator := s.filterMap ofChar?

namespace Lexeme

/-- The characters of a literal word. -/
def word? : Lexeme → Option (List Char)
  | .word w => some w
  | _ => none

/-- The operator that a lexeme is. -/
def operator? : Lexeme → Option Operator
  | .op o => some o
  | _ => none

theorem word?_ofChar (c : Char) : (ofChar c).word? = none := by
  cases h : ofChar c with
  | word w => exact absurd h (ofChar_ne_word c w)
  | openParen => rfl
  | closeParen => rfl
  | op o => rfl
  | unknown c => rfl

theorem operator?_ofChar (c : Char) : (ofChar c).operator? = Operator.ofChar? c := by
  unfold ofChar
  split
  · next h =>
      subst h
      rfl
  · split
    · next h =>
        subst h
        rfl
    · split
      · next h =>
          rw [h]
          rfl
      · next h =>
          rw [h]
          rfl

/-- Splitting a text at all that is in no word, beside scanning it: the first piece is
the word with which the scan begins, if it begins with one, and the other pieces are
the words after it. -/
theorem exists_splitOnP_scan (s : List Char) :
    ∃ (first : List Char) (pieces : List (List Char)) (more : List Lexeme),
      (s.splitOnP fun c => !Literal.isWordChar c) = first :: pieces ∧
        more.filterMap word? = pieces.filter (fun w => !w.isEmpty) ∧
        (first = [] ∧ scan s = more ∧ (∀ w us, more ≠ .word w :: us) ∨
          first ≠ [] ∧ scan s = .word first :: more) := by
  induction s with
  | nil => exact ⟨[], [], [], List.splitOnP_nil, rfl, .inl ⟨rfl, rfl, by simp⟩⟩
  | cons c s ih =>
      obtain ⟨first, pieces, more, split, words, scanned⟩ := ih
      rw [List.splitOnP_cons_eq_if_modifyHead, split, scan_cons]
      cases hc : Literal.isWordChar c with
      | false =>
          refine ⟨[], first :: pieces, ofChar c :: scan s, by simp, ?_, .inl ⟨rfl, ?_, ?_⟩⟩
          · rw [List.filterMap_cons, word?_ofChar]
            rcases scanned with ⟨rfl, rfl, -⟩ | ⟨nonempty, he⟩
            · simpa using words
            · simp [he, word?, words, nonempty]
          · simp [cons, hc]
          · intro w us he
            exact ofChar_ne_word c w (List.cons.inj he).1
      | true =>
          refine ⟨c :: first, pieces, more, by simp, words, .inr ⟨by simp, ?_⟩⟩
          rcases scanned with ⟨rfl, rfl, noWord⟩ | ⟨-, he⟩
          · exact cons_of_ne_word hc noWord
          · rw [he, cons_word hc]

/-- The words of a scan are the runs of digits and dots. -/
theorem words_scan (s : List Char) : (scan s).filterMap word? = Literal.runs s := by
  obtain ⟨first, pieces, more, split, words, scanned⟩ := exists_splitOnP_scan s
  rw [Literal.runs, split]
  rcases scanned with ⟨rfl, rfl, -⟩ | ⟨nonempty, he⟩
  · simpa using words
  · simp [he, word?, words, nonempty]

/-- The operators of a scan are those whose symbols are in the text. -/
theorem operators_scan (s : List Char) : (scan s).filterMap operator? = Operator.among s := by
  induction s with
  | nil => rfl
  | cons c s ih =>
      rw [Operator.among, List.filterMap_cons, ← Operator.among, ← ih]
      cases hc : Literal.isWordChar c with
      | false =>
          rw [scan_cons_of_not_wordChar hc, List.filterMap_cons, operator?_ofChar]
      | true =>
          -- No operator symbol is a digit or a dot.
          have none : Operator.ofChar? c = none := by
            cases ho : Operator.ofChar? c with
            | none => rfl
            | some o =>
                have := Operator.symbol_of_ofChar? ho ▸ o.isWordChar_symbol
                rw [hc] at this
                cases this
          rw [none, scan_cons]
          by_cases hs : ∃ w more, scan s = .word w :: more
          · obtain ⟨w, more, hs⟩ := hs
            rw [hs, cons_word hc]
            rfl
          · rw [cons_of_ne_word hc fun w more he => hs ⟨w, more, he⟩]
            rfl

end Lexeme

/-! ## What a tree is made of -/

namespace Tree

/-- The doubles at the leaves, from left to right. -/
def leaves : Tree → List Float
  | .leaf v => [v]
  | .node _ left right => left.leaves ++ right.leaves

/-- The operators at the nodes. -/
def operators : Tree → List Operator
  | .leaf _ => []
  | .node o left right => left.operators ++ right.operators ++ [o]

/-- What the operators make of the doubles, without regard to zeros. -/
def worth : Tree → Float
  | .leaf v => v
  | .node o left right => o.apply left.worth right.worth

/-- No division has a right operand that equals zero. -/
def DividesByNonzero : Tree → Prop
  | .leaf _ => True
  | .node o left right =>
      left.DividesByNonzero ∧ right.DividesByNonzero ∧ (o = .div → (right.worth == 0.0) = false)

/-- A tree has the value that its operators make of its doubles, if it divides by no
zero, and no other. -/
theorem value_eq_some_iff {t : Tree} {v : Float} :
    t.value = some v ↔ t.DividesByNonzero ∧ t.worth = v := by
  induction t generalizing v with
  | leaf w => simp [value, DividesByNonzero, worth]
  | node o left right ihl ihr =>
      constructor
      · intro h
        obtain ⟨x, hl, y, hr, hv⟩ : ∃ x, left.value = some x ∧ ∃ y, right.value = some y ∧
            Expr.combine o x y = some v := by
          simpa [value, Option.bind_eq_some_iff] using h
        obtain ⟨safeLeft, rfl⟩ := ihl.mp hl
        obtain ⟨safeRight, rfl⟩ := ihr.mp hr
        simp only [Expr.combine, Option.ite_none_left_eq_some, Option.some.injEq] at hv
        refine ⟨⟨safeLeft, safeRight, fun division => ?_⟩, hv.2⟩
        simpa [division] using hv.1
      · rintro ⟨⟨safeLeft, safeRight, nonzero⟩, rfl⟩
        rw [value_node (ihl.mpr ⟨safeLeft, rfl⟩) (ihr.mpr ⟨safeRight, rfl⟩), Expr.combine,
          if_neg (by simpa using nonzero)]
        rfl

end Tree

namespace Instruction

/-- The double that an instruction pushes. -/
def pushed? : Instruction → Option Float
  | .push v => some v
  | .apply _ => none

/-- The operator that an instruction applies. -/
def applied? : Instruction → Option Operator
  | .push _ => none
  | .apply o => some o

end Instruction

/-- The postfix form of a tree pushes its leaves. -/
theorem Tree.pushed_code (t : Tree) : t.code.filterMap Instruction.pushed? = t.leaves := by
  induction t with
  | leaf v => rfl
  | node o left right ihl ihr => simp [code, leaves, ihl, ihr, Instruction.pushed?]

/-- The postfix form of a tree applies its operators. -/
theorem Tree.applied_code (t : Tree) : t.code.filterMap Instruction.applied? = t.operators := by
  induction t with
  | leaf v => rfl
  | node o left right ihl ihr => simp [code, operators, ihl, ihr, Instruction.applied?]

/-! ## What a lexeme adds -/

/-- The operator that is pending. -/
def Pending.operator? : Pending → Option Operator
  | .op o => some o
  | .openParen => none

namespace Program

open Instruction (pushed? applied?)

theorem pushed_takeDue (due : Operator → Bool) (pending : List Pending) :
    (takeDue due pending).1.filterMap pushed? = [] := by
  induction pending with
  | nil => rfl
  | cons p pending ih =>
      cases p with
      | openParen => rfl
      | op o =>
          by_cases h : due o = true
          · simpa [takeDue, h, pushed?] using ih
          · simp [takeDue, h]

/-- An operator is taken off to be applied, or stays. -/
theorem applied_takeDue (due : Operator → Bool) (pending : List Pending) :
    (takeDue due pending).1.filterMap applied? ++
        (takeDue due pending).2.filterMap Pending.operator? =
      pending.filterMap Pending.operator? := by
  induction pending with
  | nil => rfl
  | cons p pending ih =>
      cases p with
      | openParen => rfl
      | op o =>
          by_cases h : due o = true
          · simpa [takeDue, h, applied?, Pending.operator?] using ih
          · simp [takeDue, h]

/-- A number pushes its value, and nothing else pushes anything. -/
theorem pushed_emit {pending rest : List Pending} {t : Lexeme}
    (h : (emit pending t).2 = .ok rest) :
    ((emit pending t).1.filterMap pushed?).map some = t.word?.toList.map Literal.value? := by
  cases t with
  | word w =>
      cases hv : Literal.value? w with
      | some v => simp [emit_word hv, pushed?, Lexeme.word?, hv]
      | none => simp [emit_word_of_none hv] at h
  | openParen => rfl
  | closeParen =>
      have none := pushed_takeDue (fun _ => true) pending
      rcases takeDue_all pending with ⟨is, hd⟩ | ⟨is, rest', hd⟩
      · simp [emit_closeParen_of_nil hd] at h
      · rw [hd] at none
        simp [emit_closeParen hd, none, Lexeme.word?]
  | op o => simp [emit, pushed_takeDue, Lexeme.word?]
  | unknown c => cases h

/-- What is applied and what stays pending is what was pending before, and the operator
that is read. -/
theorem applied_emit {pending rest : List Pending} {t : Lexeme}
    (h : (emit pending t).2 = .ok rest) :
    ((emit pending t).1.filterMap applied? ++ rest.filterMap Pending.operator?).Perm
      (pending.filterMap Pending.operator? ++ t.operator?.toList) := by
  cases t with
  | word w =>
      cases hv : Literal.value? w with
      | some v =>
          rw [emit_word hv] at h ⊢
          cases h
          simp [List.filterMap_cons, applied?, Lexeme.operator?]
      | none => simp [emit_word_of_none hv] at h
  | openParen =>
      cases h
      simp [emit, List.filterMap_cons, Pending.operator?, Lexeme.operator?]
  | closeParen =>
      have all := applied_takeDue (fun _ => true) pending
      rcases takeDue_all pending with ⟨is, hd⟩ | ⟨is, rest', hd⟩
      · simp [emit_closeParen_of_nil hd] at h
      · rw [emit_closeParen hd] at h ⊢
        cases h
        rw [hd] at all
        simp [← all, List.filterMap_cons, Pending.operator?, Lexeme.operator?]
  | op o =>
      cases h
      have all := applied_takeDue (fun top => o.precedence ≤ top.precedence) pending
      simp only [emit, List.filterMap_cons, Pending.operator?, Lexeme.operator?,
        Option.toList_some, ← all, List.append_assoc]
      exact List.Perm.append_left _ (List.perm_append_singleton o _).symm
  | unknown c => cases h

end Program

/-! ## What the machine keeps -/

namespace Machine

open Instruction (pushed? applied?)

/-- What has been read is in the machine: its operands are the values of trees, which
were made by pushing the numbers that have been read, in order, and by applying the
operators that are not pending any more. -/
def Keeps (m : Machine) (ts : List Lexeme) : Prop :=
  ∃ trees : List Tree, Tree.Values trees m.operands ∧
    ((Tree.codes trees).filterMap pushed?).map some =
      (ts.filterMap Lexeme.word?).map Literal.value? ∧
    ((Tree.codes trees).filterMap applied? ++ m.pending.filterMap Pending.operator?).Perm
      (ts.filterMap Lexeme.operator?)

theorem keeps_nil : Keeps {} [] := ⟨[], .nil, rfl, .nil⟩

/-- A lexeme is added to what has been read. -/
theorem Keeps.step {m next : Machine} {ts : List Lexeme} {t : Lexeme} (h : m.Keeps ts)
    (run : m.step t = .ok next) : next.Keeps (ts ++ [t]) := by
  obtain ⟨trees, values, numbers, operators⟩ := h
  obtain ⟨exec, effect⟩ := Program.step_eq_ok_iff.mp run
  obtain ⟨trees', code, values'⟩ := values.exec exec
  refine ⟨trees', values', ?_, ?_⟩
  · rw [code, List.filterMap_append, List.map_append, numbers, Program.pushed_emit effect]
    cases t <;> simp [Lexeme.word?]
  · have added := Program.applied_emit effect
    have code' : (Tree.codes trees').filterMap applied? ++
          next.pending.filterMap Pending.operator? =
        (Tree.codes trees).filterMap applied? ++
          ((Program.emit m.pending t).1.filterMap applied? ++
            next.pending.filterMap Pending.operator?) := by
      rw [code, List.filterMap_append, List.append_assoc]
    have read : (ts ++ [t]).filterMap Lexeme.operator? =
        ts.filterMap Lexeme.operator? ++ t.operator?.toList := by
      cases t <;> simp [Lexeme.operator?]
    rw [code', read]
    refine (added.append_left _).trans ?_
    rw [← List.append_assoc]
    exact operators.append_right _

/-- Everything that is read is kept. -/
theorem Keeps.run {us : List Lexeme} {m next : Machine} {ts : List Lexeme} (h : m.Keeps ts)
    (run : m.run us = .ok next) : next.Keeps (ts ++ us) :=
  run_induction Keeps.step h run

/-- What has been read is in the machine too after some of what is pending was applied. -/
theorem Keeps.unwind {m : Machine} {ts : List Lexeme} {due : Operator → Bool}
    {rest : List Pending} {left : List Float} (h : m.Keeps ts)
    (run : unwind due m.pending m.operands = .ok (rest, left)) : Keeps ⟨left, rest⟩ ts := by
  obtain ⟨trees, values, numbers, operators⟩ := h
  rw [Program.unwind_eq_exec] at run
  cases exec : Program.exec (Program.takeDue due m.pending).1 m.operands with
  | error e => simp [exec] at run
  | ok left' =>
      simp only [exec, Except.ok.injEq, Prod.mk.injEq] at run
      obtain ⟨rfl, rfl⟩ := run
      obtain ⟨trees', code, values'⟩ := values.exec exec
      refine ⟨trees', values', ?_, ?_⟩
      · rw [code, List.filterMap_append, Program.pushed_takeDue, List.append_nil, numbers]
      · rw [code, List.filterMap_append, List.append_assoc, Program.applied_takeDue]
        exact operators

/-- When the machine gives a value, all that has been read is in one tree. -/
theorem Keeps.finish {m : Machine} {ts : List Lexeme} {v : Float} (h : m.Keeps ts)
    (worth : m.finish = .ok v) :
    ∃ t : Tree, t.value = some v ∧
      t.leaves.map some = (ts.filterMap Lexeme.word?).map Literal.value? ∧
      t.operators.Perm (ts.filterMap Lexeme.operator?) := by
  obtain ⟨exec, rest⟩ := finish_eq_ok worth
  have unwound : Machine.unwind (fun _ => true) m.pending m.operands = .ok ([], [v]) := by
    rw [Program.unwind_eq_exec, exec, rest]
  obtain ⟨trees, values, numbers, operators⟩ := h.unwind unwound
  cases values with
  | @cons t _ _ _ value others =>
      cases others
      have code : Tree.codes [t] = t.code := List.nil_append _
      rw [code, t.pushed_code] at numbers
      rw [code, t.applied_code, List.filterMap_nil, List.append_nil] at operators
      exact ⟨t, value, numbers, operators⟩

end Machine

/-- Every text with a value that is not blank is worth what some tree is worth, whose
leaves are the numbers of the text in order, whose nodes are the operators of the text,
and which divides by no zero. -/
theorem exists_tree_of_evaluate_eq_ok {text : String} {v : Float}
    (nonempty : Text.strip text.toList ≠ []) (h : evaluate text = .ok v) :
    ∃ t : Tree,
      t.leaves.map some = (Literal.runs (Text.strip text.toList)).map Literal.value? ∧
      t.operators.Perm (Operator.among (Text.strip text.toList)) ∧
      t.DividesByNonzero ∧ t.worth = v := by
  have worth := (evaluateStripped_eq_ok nonempty h).2
  rw [Machine.result] at worth
  cases run : Machine.run {} (Lexeme.scan (Text.strip text.toList)) with
  | error e => simp [run] at worth
  | ok m =>
      simp only [run] at worth
      have kept : m.Keeps ([] ++ Lexeme.scan (Text.strip text.toList)) :=
        Machine.keeps_nil.run run
      obtain ⟨t, value, numbers, operators⟩ := kept.finish worth
      rw [List.nil_append, Lexeme.words_scan] at numbers
      rw [List.nil_append, Lexeme.operators_scan] at operators
      exact ⟨t, numbers, operators, Tree.value_eq_some_iff.mp value⟩

/-- A quotient with its operator behind, after its left operand: the tree is that of
`8/2-1`. -/
theorem exists_tree_of_misplaced_quotient :
    evaluate "8 (2/)-1." = .ok 3.0 ∧
      ∃ t : Tree, t.leaves.map some = [some 8.0, some 2.0, some 1.0] ∧
        t.operators.Perm [.div, .sub] ∧ t.DividesByNonzero ∧ t.worth = 3.0 := by
  have worth : evaluate "8 (2/)-1." = .ok 3.0 := by rfl
  have numbers : (Literal.runs (Text.strip "8 (2/)-1.".toList)).map Literal.value? =
      [some 8.0, some 2.0, some 1.0] := by decide +kernel
  have operators : Operator.among (Text.strip "8 (2/)-1.".toList) = [.div, .sub] := by decide
  have tree := exists_tree_of_evaluate_eq_ok (by decide) worth
  rw [numbers, operators] at tree
  exact ⟨worth, tree⟩

end SchoolDesk.Expression
