import SchoolDesk.Proofs.Expression.Acceptance
import SchoolDesk.Proofs.Expression.Group

/-!
# Which fault of a text is reported

A text can be wrong in many places at once, and one cause is reported.  Two kinds of fault
are seen in the text itself: two operators side by side (`PairAt`), and what the scan can
make nothing of (`FaultAt`), a run of digits and dots that is no number or a character
without a meaning.  Both are defined on the characters of a text, and not through its
lexemes.

The leftmost pair of operators wins over everything else (`adjacentOperators?_eq_some_iff`).
In a text without such a pair the machine never sees what is behind the leftmost fault of
the other kind.  Either it comes as far as the fault and reports it, or what is in front of
the fault is refused for its parentheses, for a missing operand or for a division by zero
(`evaluateStripped_of_between`).

To find the leftmost fault a text is taken apart into a lexeme and the text behind it
(`lexeme_induction`).  The lexemes in front of the leftmost fault are valid, and this says
which fault is the leftmost (`firstFault_iff`).
-/

namespace SchoolDesk.Expression

/-! ## A text lexeme by lexeme -/

namespace Lexeme

/-- A lexeme with a text behind it that does not join it. -/
inductive Leads : Lexeme → List Char → Prop where
  | word {w rest : List Char} (nonempty : w ≠ []) (chars : w.all Literal.isWordChar = true)
      (ends : Literal.Ends rest) : Leads (.word w) rest
  | single {c : Char} (noWordChar : Literal.isWordChar c = false) (rest : List Char) :
      Leads (ofChar c) rest

theorem Leads.scan {t : Lexeme} {rest : List Char} (h : t.Leads rest) :
    scan (t.text ++ rest) = t :: scan rest := by
  cases h with
  | word nonempty chars ends => exact scan_word chars nonempty ends
  | @single c noWordChar =>
      rw [text_ofChar]
      exact scan_cons_of_not_wordChar noWordChar rest

theorem Leads.text_ne_nil {t : Lexeme} {rest : List Char} (h : t.Leads rest) : t.text ≠ [] := by
  cases h with
  | word nonempty _ _ => exact nonempty
  | single _ => simp

/-- A lexeme leads every part of the text behind it. -/
theorem Leads.of_append {t : Lexeme} {front back : List Char} (h : t.Leads (front ++ back)) :
    t.Leads front := by
  cases h with
  | word nonempty chars ends =>
      refine .word nonempty chars ?_
      cases front with
      | nil => exact Literal.ends_nil
      | cons c front => exact ends
  | single noWordChar => exact .single noWordChar front

/-- Every text that is not empty begins with a lexeme. -/
theorem exists_leads {s : List Char} (h : s ≠ []) :
    ∃ (t : Lexeme) (rest : List Char), s = t.text ++ rest ∧ t.Leads rest := by
  cases s with
  | nil => exact absurd rfl h
  | cons c s =>
      cases hc : Literal.isWordChar c with
      | false => exact ⟨ofChar c, s, by simp, .single hc s⟩
      | true =>
          refine ⟨.word (c :: s.takeWhile Literal.isWordChar), s.dropWhile Literal.isWordChar,
            ?_, .word (by simp) ?_ ?_⟩
          · simp [text]
          · simp [hc, List.all_takeWhile]
          · intro d hd
            have stops := List.head?_dropWhile_not Literal.isWordChar s
            rw [Option.mem_def.mp hd] at stops
            simpa using stops

/-- What holds of the empty text, and of a lexeme and the text behind it if it holds of
that text, holds of every text. -/
theorem lexeme_induction {motive : List Char → Prop} (nil : motive [])
    (lead : ∀ t rest, Leads t rest → motive rest → motive (t.text ++ rest)) (s : List Char) :
    motive s := by
  induction length : s.length using Nat.strongRecOn generalizing s with
  | ind n ih =>
      by_cases empty : s = []
      · rw [empty]
        exact nil
      · obtain ⟨t, rest, rfl, leads⟩ := exists_leads empty
        have shorter : rest.length < n := by
          have some := List.length_pos_iff.mpr leads.text_ne_nil
          rw [← length, List.length_append]
          omega
        exact lead t rest leads (ih rest.length shorter rest rfl)

end Lexeme

/-! ## Two operators side by side -/

/-- Two operators stand side by side in a text, behind a part of it. -/
def PairAt (s before : List Char) (a b : Char) : Prop :=
  (∃ after, s = before ++ a :: b :: after) ∧
    (Operator.ofChar? a).isSome = true ∧ (Operator.ofChar? b).isSome = true

/-- Somewhere in a text two operators stand side by side. -/
def HasPair (s : List Char) : Prop := ∃ before a b, PairAt s before a b

/-- The leftmost two operators that stand side by side. -/
def FirstPair (s : List Char) (a b : Char) : Prop :=
  ∃ before, PairAt s before a b ∧
    ∀ other x y, PairAt s other x y → before.length ≤ other.length

/-- The places at which two operators stand side by side, with one more character in front
of the text. -/
theorem pairAt_cons_iff {c : Char} {s before : List Char} {a b : Char} :
    PairAt (c :: s) before a b ↔
      (before = [] ∧ c = a ∧ (∃ after, s = b :: after) ∧
        (Operator.ofChar? a).isSome = true ∧ (Operator.ofChar? b).isSome = true) ∨
      ∃ inner, before = c :: inner ∧ PairAt s inner a b := by
  cases before with
  | nil => simp [PairAt, and_assoc]
  | cons d before =>
      simp only [PairAt, List.cons_append, List.cons.injEq]
      constructor
      · rintro ⟨⟨after, rfl, rfl⟩, pair⟩
        exact .inr ⟨before, ⟨rfl, rfl⟩, ⟨after, rfl⟩, pair⟩
      · rintro (⟨none, -⟩ | ⟨inner, ⟨rfl, rfl⟩, ⟨after, rfl⟩, pair⟩)
        · cases none
        · exact ⟨⟨after, rfl, rfl⟩, pair⟩

theorem not_pairAt_of_adjacentOperators?_eq_none {s : List Char}
    (h : adjacentOperators? s = none) (before : List Char) (a b : Char) :
    ¬ PairAt s before a b := by
  induction s generalizing before with
  | nil =>
      rintro ⟨⟨after, same⟩, -⟩
      cases before <;> cases same
  | cons c s ih =>
      rw [pairAt_cons_iff]
      rintro (⟨-, rfl, ⟨after, rfl⟩, operators⟩ | ⟨inner, -, pair⟩)
      · simp [adjacentOperators?, operators] at h
      · refine ih ?_ inner pair
        cases s with
        | nil => rfl
        | cons d s =>
            simp only [adjacentOperators?] at h
            split at h
            · cases h
            · exact h

theorem firstPair_of_adjacentOperators? {s : List Char} {a b : Char}
    (h : adjacentOperators? s = some (a, b)) : FirstPair s a b := by
  induction s with
  | nil => cases h
  | cons c s ih =>
      cases s with
      | nil => cases h
      | cons d s =>
          simp only [adjacentOperators?] at h
          split at h
          · next operators =>
              cases h
              rw [Bool.and_eq_true] at operators
              exact ⟨[], ⟨⟨s, rfl⟩, operators⟩, fun _ _ _ _ => Nat.zero_le _⟩
          · next operators =>
              obtain ⟨before, pair, first⟩ := ih h
              refine ⟨c :: before, pairAt_cons_iff.mpr (.inr ⟨before, rfl, pair⟩), ?_⟩
              intro other x y there
              rcases pairAt_cons_iff.mp there with
                ⟨-, rfl, ⟨after, same⟩, both⟩ | ⟨inner, rfl, inside⟩
              · cases same
                rw [Bool.and_eq_true] at operators
                exact absurd both operators
              · exact Nat.succ_le_succ (first inner x y inside)

/-- The search finds the leftmost two operators that stand side by side, and nothing if
there are none. -/
theorem adjacentOperators?_eq_some_iff {s : List Char} {a b : Char} :
    adjacentOperators? s = some (a, b) ↔ FirstPair s a b := by
  refine ⟨firstPair_of_adjacentOperators?, ?_⟩
  rintro ⟨before, ⟨⟨after, rfl⟩, pair⟩, first⟩
  cases found : adjacentOperators? (before ++ a :: b :: after) with
  | none =>
      exact absurd ⟨⟨after, rfl⟩, pair⟩ (not_pairAt_of_adjacentOperators?_eq_none found before a b)
  | some found' =>
      obtain ⟨x, y⟩ := found'
      obtain ⟨other, ⟨⟨after', same⟩, pair'⟩, first'⟩ := firstPair_of_adjacentOperators? found
      -- Two leftmost places are at the same distance from the start.
      have left := first other x y ⟨⟨after', same⟩, pair'⟩
      have right := first' before a b ⟨⟨after, rfl⟩, pair⟩
      obtain ⟨-, rest⟩ := List.append_inj same (by omega)
      cases rest
      rfl

theorem adjacentOperators?_eq_none_iff {s : List Char} :
    adjacentOperators? s = none ↔ ¬ HasPair s := by
  constructor
  · rintro none ⟨before, a, b, pair⟩
    exact not_pairAt_of_adjacentOperators?_eq_none none before a b pair
  · intro noPair
    cases found : adjacentOperators? s with
    | none => rfl
    | some pair =>
        obtain ⟨before, there, -⟩ := firstPair_of_adjacentOperators? found
        exact absurd ⟨before, pair.1, pair.2, there⟩ noPair

/-! ## What the scan can make nothing of -/

/-- A run of digits and dots is no number if it has no digit or more than one dot. -/
theorem Literal.isNumber_eq_false_iff {w : List Char} :
    isNumber w = false ↔ (∀ c ∈ w, c.isDigit = false) ∨ 2 ≤ w.count '.' := by
  simp [isNumber, or_iff_not_imp_left, Nat.lt_iff_add_one_le]

/-- A piece of a text that the scan can make nothing of. -/
inductive LexicalFault where
  /-- A run of digits and dots that is no number. -/
  | run (w : List Char)
  /-- A character without a meaning. -/
  | character (c : Char)

namespace LexicalFault

/-- The characters of a fault. -/
def text : LexicalFault → List Char
  | .run w => w
  | .character c => [c]

/-- The cause that reports a fault. -/
def cause : LexicalFault → EvalError
  | .run w => .invalidNumberFormat (String.ofList w)
  | .character c => .unknownCharacter c

/-- The lexeme that a fault is. -/
def lexeme : LexicalFault → Lexeme
  | .run w => .word w
  | .character c => .unknown c

/-- A fault is at fault between what stands around it.  A run is as long as it can be, and
has no digit or more than one dot.  A character is no digit, no dot, no parenthesis and no
operator. -/
inductive Between (before after : List Char) : LexicalFault → Prop where
  | run {w : List Char} (nonempty : w ≠ []) (chars : ∀ c ∈ w, Literal.isWordChar c = true)
      (starts : ∀ c ∈ before.getLast?, Literal.isWordChar c = false)
      (ends : ∀ c ∈ after.head?, Literal.isWordChar c = false)
      (noNumber : (∀ c ∈ w, c.isDigit = false) ∨ 2 ≤ w.count '.') : Between before after (.run w)
  | character {c : Char} (noWordChar : Literal.isWordChar c = false) (noOpening : c ≠ '(')
      (noClosing : c ≠ ')') (noOperator : Operator.ofChar? c = none) :
      Between before after (.character c)

theorem text_lexeme (f : LexicalFault) : f.lexeme.text = f.text := by
  cases f <;> rfl

section

variable {before after : List Char} {f : LexicalFault} (h : f.Between before after)

include h

theorem Between.text_ne_nil : f.text ≠ [] := by
  cases h with
  | run nonempty => exact nonempty
  | character => simp [text]

theorem Between.isValid_lexeme : f.lexeme.isValid = false := by
  cases h with
  | run _ _ _ _ noNumber => exact Literal.isNumber_eq_false_iff.mpr noNumber
  | character => rfl

/-- What stands in front of a fault is scanned on its own, and so is what stands behind. -/
theorem Between.scan :
    Lexeme.scan (before ++ f.text ++ after) =
      Lexeme.scan before ++ f.lexeme :: Lexeme.scan after := by
  cases h with
  | @character c noWordChar noOpening noClosing noOperator =>
      have unknown : Lexeme.ofChar c = .unknown c := by
        simp [Lexeme.ofChar, noOpening, noClosing, noOperator]
      rw [text, List.append_assoc, List.singleton_append, Lexeme.scan_append_cons noWordChar,
        unknown]
      rfl
  | @run w nonempty chars starts ends _ =>
      have word : Lexeme.scan (w ++ after) = .word w :: Lexeme.scan after :=
        Lexeme.scan_word (List.all_eq_true.mpr chars) nonempty ends
      rcases List.eq_nil_or_concat before with rfl | ⟨front, c, rfl⟩
      · exact word
      · -- The last character in front belongs to no word and keeps the two sides apart.
        have apart : Literal.isWordChar c = false := starts c (by simp)
        rw [text, List.concat_eq_append, List.append_assoc, List.append_assoc,
          List.singleton_append, Lexeme.scan_append_cons apart, Lexeme.scan_append_cons apart, word]
        simp [lexeme]

/-- The machine stops at a fault and reports it. -/
theorem Between.step (m : Machine) : m.step f.lexeme = .error f.cause := by
  have invalid := h.isValid_lexeme
  cases f with
  | character c => rfl
  | run w =>
      have none : Literal.value? w = none := by
        rw [← Option.not_isSome_iff_eq_none, Literal.value?_isSome, Bool.not_eq_true]
        exact invalid
      rw [lexeme, Machine.step, Machine.pushWord, none]
      rfl

end

end LexicalFault

/-- A fault stands in a text, behind a part of it. -/
def FaultAt (s before : List Char) (f : LexicalFault) : Prop :=
  ∃ after, s = before ++ f.text ++ after ∧ f.Between before after

/-- The leftmost fault of a text, and the part of the text in front of it. -/
structure FirstFault (s before : List Char) (f : LexicalFault) : Prop where
  stands : FaultAt s before f
  first : ∀ other g, FaultAt s other g → before.length ≤ other.length

/-- A lexeme that is not valid is a fault at the start of the text that it leads. -/
theorem exists_faultAt_of_leads {t : Lexeme} {rest : List Char} (leads : t.Leads rest)
    (invalid : t.isValid = false) : ∃ f, FaultAt (t.text ++ rest) [] f := by
  cases leads with
  | @word w _ nonempty chars ends =>
      refine ⟨.run w, rest, rfl, .run nonempty (List.all_eq_true.mp chars) ?_ ends ?_⟩
      · intro c hc
        cases hc
      · exact Literal.isNumber_eq_false_iff.mp invalid
  | @single c noWordChar =>
      refine ⟨.character c, rest, by simp [LexicalFault.text], .character noWordChar ?_ ?_ ?_⟩
      · rintro rfl
        cases invalid
      · rintro rfl
        cases invalid
      · cases noOperator : Operator.ofChar? c with
        | none => rfl
        | some o =>
            obtain rfl := Operator.symbol_of_ofChar? noOperator
            cases o <;> cases invalid

/-- A fault of a text stays one with a lexeme in front of the text. -/
theorem FaultAt.after {t : Lexeme} {rest before : List Char} {f : LexicalFault}
    (h : FaultAt rest before f) (leads : t.Leads rest) :
    FaultAt (t.text ++ rest) (t.text ++ before) f := by
  obtain ⟨after, rfl, between⟩ := h
  refine ⟨after, by simp, ?_⟩
  cases between with
  | character noWordChar noOpening noClosing noOperator =>
      exact .character noWordChar noOpening noClosing noOperator
  | @run w nonempty chars starts ends noNumber =>
      refine .run nonempty chars ?_ ends noNumber
      rcases List.eq_nil_or_concat before with rfl | ⟨front, c, rfl⟩
      · -- The run follows the lexeme at once, so the lexeme is no word.
        cases leads with
        | word _ _ joins =>
            cases w with
            | nil => exact absurd rfl nonempty
            | cons d w =>
                have stops := joins d rfl
                rw [chars d (.head _)] at stops
                cases stops
        | @single c noWordChar =>
            intro d hd
            rw [List.append_nil, Lexeme.text_ofChar] at hd
            cases hd
            exact noWordChar
      · intro d hd
        exact starts d (by simpa using hd)

/-- A text with a lexeme that is not valid has a fault with nothing but valid lexemes in
front of it. -/
theorem exists_faultAt {s : List Char} (h : ¬ (Lexeme.scan s).all Lexeme.isValid = true) :
    ∃ before f, FaultAt s before f ∧ (Lexeme.scan before).all Lexeme.isValid = true := by
  induction s using Lexeme.lexeme_induction with
  | nil => exact absurd rfl h
  | lead t rest leads ih =>
      cases valid : t.isValid with
      | false =>
          obtain ⟨f, stands⟩ := exists_faultAt_of_leads leads valid
          exact ⟨[], f, stands, rfl⟩
      | true =>
          rw [leads.scan, List.all_cons, valid, Bool.true_and] at h
          obtain ⟨before, f, stands, front⟩ := ih h
          refine ⟨t.text ++ before, f, stands.after leads, ?_⟩
          obtain ⟨after, rfl, -⟩ := stands
          rw [List.append_assoc] at leads
          rw [leads.of_append.scan, List.all_cons, valid, front]
          rfl

/-- A fault with valid lexemes in front of it stands left of every other fault. -/
theorem FaultAt.eq_or_length_lt {s before other : List Char} {f g : LexicalFault}
    (h : FaultAt s before f) (valid : (Lexeme.scan before).all Lexeme.isValid = true)
    (h' : FaultAt s other g) : before = other ∨ before.length < other.length := by
  obtain ⟨after, rfl, between⟩ := h
  obtain ⟨after', same, between'⟩ := h'
  have scans := between.scan
  rw [same, between'.scan] at scans
  rcases List.append_eq_append_iff.mp scans with ⟨more, front, back⟩ | ⟨more, front, back⟩
  · -- What is in front of the first fault goes on where the text in front of the other ends.
    cases more with
    | nil =>
        refine .inl ?_
        rw [← Lexeme.text_scan before, front, List.append_nil, Lexeme.text_scan]
    | cons t more =>
        obtain ⟨rfl, -⟩ := List.cons.inj back
        rw [front, List.all_append, List.all_cons, between'.isValid_lexeme] at valid
        simp at valid
  · cases more with
    | nil =>
        refine .inl ?_
        rw [← Lexeme.text_scan other, front, List.append_nil, Lexeme.text_scan]
    | cons t more =>
        obtain ⟨rfl, -⟩ := List.cons.inj back
        refine .inr ?_
        have longer := congrArg (List.flatMap Lexeme.text) front
        rw [Lexeme.text_scan, List.flatMap_append, Lexeme.text_scan, List.flatMap_cons,
          f.text_lexeme] at longer
        have some := List.length_pos_iff.mpr between.text_ne_nil
        rw [longer, List.length_append, List.length_append]
        omega

/-- The leftmost fault is the one with nothing but valid lexemes in front of it. -/
theorem firstFault_iff {s before : List Char} {f : LexicalFault} :
    FirstFault s before f ↔
      FaultAt s before f ∧ (Lexeme.scan before).all Lexeme.isValid = true := by
  constructor
  · rintro ⟨stands, first⟩
    refine ⟨stands, ?_⟩
    have invalid : ¬ (Lexeme.scan s).all Lexeme.isValid = true := by
      obtain ⟨after, rfl, between⟩ := stands
      rw [between.scan, List.all_append, List.all_cons, between.isValid_lexeme]
      simp
    obtain ⟨other, g, stands', valid⟩ := exists_faultAt invalid
    rcases stands'.eq_or_length_lt valid stands with rfl | shorter
    · exact valid
    · exact absurd (first other g stands') (Nat.not_le_of_lt shorter)
  · rintro ⟨stands, valid⟩
    refine ⟨stands, fun other g stands' => ?_⟩
    rcases stands.eq_or_length_lt valid stands' with rfl | shorter
    · exact Nat.le_refl _
    · exact Nat.le_of_lt shorter

/-! ## What can go wrong in a run -/

/-- A cause that lies in the operands and parentheses of a text, and not in a single lexeme
of it. -/
def EvalError.IsStructural (e : EvalError) : Prop :=
  e = .mismatchedParentheses ∨ e = .insufficientOperands ∨ e = .divisionByZero

theorem LexicalFault.not_isStructural_cause (f : LexicalFault) : ¬ f.cause.IsStructural := by
  cases f <;> simp [EvalError.IsStructural, cause]

theorem LexicalFault.cause_injective {f g : LexicalFault} (h : f.cause = g.cause) : f = g := by
  cases f with
  | run w =>
      cases g with
      | run v =>
          rw [cause, cause, EvalError.invalidNumberFormat.injEq, String.ofList_inj] at h
          rw [h]
      | character d => cases h
  | character c =>
      cases g with
      | run v => cases h
      | character d =>
          cases h
          rfl

namespace Program

/-- Instructions stop for a missing operand or for a division by zero. -/
theorem exec_eq_error {is : List Instruction} {operands : List Float} {e : EvalError}
    (h : exec is operands = .error e) : e = .insufficientOperands ∨ e = .divisionByZero := by
  induction is generalizing operands with
  | nil => cases h
  | cons i is ih =>
      cases i with
      | push v => exact ih h
      | apply o =>
          simp only [exec] at h
          cases operands with
          | nil => exact .inl (Except.error.inj h).symm
          | cons y operands =>
              cases operands with
              | nil => exact .inl (Except.error.inj h).symm
              | cons x rest =>
                  rw [Machine.applyTop_cons] at h
                  cases hv : Expr.combine o x y with
                  | some v =>
                      simp only [hv] at h
                      exact ih h
                  | none =>
                      simp only [hv, Except.error.injEq] at h
                      exact .inr h.symm

/-- A lexeme is a fault if it closes a parenthesis and none is open, or if it is a fault by
itself. -/
theorem emit_eq_error {pending : List Pending} {t : Lexeme} {e : EvalError}
    (h : (emit pending t).2 = .error e) :
    (t = .closeParen ∧ depth pending = 0 ∧ e = .mismatchedParentheses) ∨
      ∃ f : LexicalFault, t = f.lexeme ∧ t.isValid = false ∧ e = f.cause := by
  cases t with
  | word w =>
      cases hv : Literal.value? w with
      | some v => simp [emit_word hv] at h
      | none =>
          rw [emit_word_of_none hv, Except.error.injEq] at h
          have invalid := Literal.value?_isSome w
          rw [hv, Option.isSome_none] at invalid
          exact .inr ⟨.run w, rfl, invalid.symm, h.symm⟩
  | openParen => cases h
  | closeParen =>
      rcases takeDue_all pending with ⟨is, hd⟩ | ⟨is, rest, hd⟩
      · rw [emit_closeParen_of_nil hd, Except.error.injEq] at h
        have none := depth_takeDue (fun _ => true) pending
        rw [hd] at none
        exact .inl ⟨rfl, none.symm, h.symm⟩
      · simp [emit_closeParen hd] at h
  | op o => cases h
  | unknown c =>
      cases h
      exact .inr ⟨.character c, rfl, rfl, rfl⟩

end Program

namespace Machine

open Program (depth exec emit takeDue)

/-- A lexeme stops the machine in what it applies, or because it closes a parenthesis and
none is open, or because it is a fault by itself. -/
theorem step_eq_error {m : Machine} {t : Lexeme} {e : EvalError} (h : m.step t = .error e) :
    (e = .insufficientOperands ∨ e = .divisionByZero) ∨
      (t = .closeParen ∧ depth m.pending = 0 ∧ e = .mismatchedParentheses) ∨
      t.isValid = false ∧ ∃ f : LexicalFault, e = f.cause := by
  rw [Program.step_eq_emit] at h
  cases run : exec (emit m.pending t).1 m.operands with
  | error e' =>
      simp only [run, Except.error.injEq] at h
      subst h
      exact .inl (Program.exec_eq_error run)
  | ok left =>
      cases effect : (emit m.pending t).2 with
      | ok rest => simp [run, effect] at h
      | error e' =>
          simp only [run, effect, Except.error.injEq] at h
          subst h
          rcases Program.emit_eq_error effect with closing | ⟨f, -, invalid, cause⟩
          · exact .inr (.inl closing)
          · exact .inr (.inr ⟨invalid, f, cause⟩)

/-- Lexemes stop the machine for a structural cause, or because one of them is a fault by
itself. -/
theorem run_eq_error {ts : List Lexeme} {m : Machine} {e : EvalError} (h : m.run ts = .error e) :
    e.IsStructural ∨ ts.all Lexeme.isValid = false ∧ ∃ f : LexicalFault, e = f.cause := by
  induction ts generalizing m with
  | nil => cases h
  | cons t ts ih =>
      rw [run] at h
      rw [List.all_cons, Bool.and_eq_false_iff]
      cases hstep : m.step t with
      | ok next =>
          rw [hstep] at h
          rcases ih h with structural | ⟨invalid, fault⟩
          · exact .inl structural
          · exact .inr ⟨.inr invalid, fault⟩
      | error e' =>
          rw [hstep, Except.error.injEq] at h
          subst h
          rcases step_eq_error hstep with applied | ⟨-, -, mismatched⟩ | ⟨invalid, fault⟩
          · exact .inl (.inr applied)
          · exact .inl (.inl mismatched)
          · exact .inr ⟨.inl invalid, fault⟩

/-- Valid lexemes stop the machine for a structural cause only. -/
theorem isStructural_of_run_eq_error {ts : List Lexeme} {m : Machine} {e : EvalError}
    (valid : ts.all Lexeme.isValid = true) (h : m.run ts = .error e) : e.IsStructural := by
  rcases run_eq_error h with structural | ⟨invalid, -⟩
  · exact structural
  · rw [valid] at invalid
    cases invalid

/-- At the end the machine stops in what it applies, or because a parenthesis is open, or
it comes to the operands that are left. -/
theorem finish_cases (m : Machine) :
    (∃ e, (e = .insufficientOperands ∨ e = .divisionByZero) ∧ m.finish = .error e) ∨
      (depth m.pending ≠ 0 ∧ m.finish = .error .mismatchedParentheses) ∨
      ∃ left, depth m.pending = 0 ∧
        unwind (fun _ => true) m.pending m.operands = .ok ([], left) ∧
        ((∃ v, left = [v] ∧ m.finish = .ok v) ∨
          left.length ≠ 1 ∧ m.finish = .error .invalidExpression) := by
  have unwound := Program.unwind_eq_exec (fun _ => true) m.pending m.operands
  have same := Program.depth_takeDue (fun _ => true) m.pending
  rw [finish]
  cases run : exec (takeDue (fun _ => true) m.pending).1 m.operands with
  | error e =>
      rw [run] at unwound
      simp only [unwound]
      exact .inl ⟨e, Program.exec_eq_error run, rfl⟩
  | ok left =>
      rw [run] at unwound
      simp only [unwound]
      rcases Program.takeDue_all m.pending with ⟨is, hd⟩ | ⟨is, rest, hd⟩
      · rw [hd] at same ⊢
        refine .inr (.inr ⟨left, same.symm, rfl, ?_⟩)
        rcases left with _ | ⟨v, _ | ⟨w, left⟩⟩
        · exact .inr ⟨by simp, rfl⟩
        · exact .inl ⟨v, rfl, rfl⟩
        · exact .inr ⟨by simp, rfl⟩
      · rw [hd] at same ⊢
        refine .inr (.inl ⟨?_, rfl⟩)
        rw [← same]
        exact Nat.succ_ne_zero _

/-- The end of the text adds one cause, a number of operands that is not one. -/
theorem finish_eq_error {m : Machine} {e : EvalError} (h : m.finish = .error e) :
    e.IsStructural ∨ e = .invalidExpression := by
  rcases m.finish_cases with
    ⟨e', applied, failed⟩ | ⟨-, failed⟩ | ⟨left, -, -, ⟨v, -, ok⟩ | ⟨-, failed⟩⟩
  · rw [h, Except.error.injEq] at failed
    rw [failed]
    exact .inl (.inr applied)
  · rw [h, Except.error.injEq] at failed
    exact .inl (.inl failed)
  · rw [h] at ok
    cases ok
  · rw [h, Except.error.injEq] at failed
    exact .inr failed

end Machine

/-! ## Which fault is reported -/

/-- What a text is refused for that has a fault of the scan and no two operators side by
side: for what goes wrong in front of the fault, or else for the fault. -/
theorem evaluateStripped_of_between {before after : List Char} {f : LexicalFault}
    (between : f.Between before after)
    (noPair : adjacentOperators? (before ++ f.text ++ after) = none) :
    evaluateStripped (before ++ f.text ++ after) =
      match Machine.run {} (Lexeme.scan before) with
      | .ok _ => .error f.cause
      | .error e => .error e := by
  have nonempty : before ++ f.text ++ after ≠ [] := by simp [between.text_ne_nil]
  rw [evaluateStripped_of_ne_nil nonempty, noPair, between.scan]
  simp only [Machine.result_append]
  cases Machine.run {} (Lexeme.scan before) with
  | error e => rfl
  | ok m =>
      simp only [Program.result_cons, between.step]

/-- A text with a leftmost fault and no two operators side by side is refused for this
fault, or for a structural cause. -/
theorem FirstFault.evaluateStripped_cases {s before : List Char} {f : LexicalFault}
    (h : FirstFault s before f) (noPair : adjacentOperators? s = none) :
    evaluateStripped s = .error f.cause ∨
      ∃ e : EvalError, e.IsStructural ∧ evaluateStripped s = .error e := by
  obtain ⟨⟨after, rfl, between⟩, valid⟩ := firstFault_iff.mp h
  rw [evaluateStripped_of_between between noPair]
  cases run : Machine.run {} (Lexeme.scan before) with
  | ok m => exact .inl rfl
  | error e => exact .inr ⟨e, Machine.isStructural_of_run_eq_error valid run, rfl⟩

/-- A text of valid lexemes is refused for two operators side by side, for a structural
cause, or for the number of operands in the end. -/
theorem evaluateStripped_of_valid {s : List Char} {e : EvalError}
    (valid : (Lexeme.scan s).all Lexeme.isValid = true) (noPair : adjacentOperators? s = none)
    (h : evaluateStripped s = .error e) : e.IsStructural ∨ e = .invalidExpression := by
  have nonempty : s ≠ [] := by
    rintro rfl
    cases h
  rw [evaluateStripped_of_ne_nil nonempty, noPair] at h
  simp only [Machine.result] at h
  cases run : Machine.run {} (Lexeme.scan s) with
  | error e' =>
      simp only [run, Except.error.injEq] at h
      rw [← h]
      exact .inl (Machine.isStructural_of_run_eq_error valid run)
  | ok m =>
      simp only [run] at h
      exact Machine.finish_eq_error h

/-- A text has nothing but valid lexemes, or it has a leftmost fault. -/
theorem valid_or_exists_firstFault (s : List Char) :
    (Lexeme.scan s).all Lexeme.isValid = true ∨ ∃ before f, FirstFault s before f := by
  by_cases valid : (Lexeme.scan s).all Lexeme.isValid = true
  · exact .inl valid
  · obtain ⟨before, f, stands, front⟩ := exists_faultAt valid
    exact .inr ⟨before, f, firstFault_iff.mpr ⟨stands, front⟩⟩

/-- Two operators side by side are the cause if they are the leftmost, and only then. -/
theorem evaluateStripped_eq_consecutiveOperators_iff {s : List Char} {a b : Char} :
    evaluateStripped s = .error (.consecutiveOperators a b) ↔ FirstPair s a b := by
  rw [← adjacentOperators?_eq_some_iff]
  constructor
  · intro refused
    have nonempty : s ≠ [] := by
      rintro rfl
      cases refused
    cases noPair : adjacentOperators? s with
    | some pair =>
        rw [evaluateStripped_of_ne_nil nonempty, noPair] at refused
        cases refused
        rfl
    | none =>
        rcases valid_or_exists_firstFault s with valid | ⟨before, f, first⟩
        · have other := evaluateStripped_of_valid valid noPair refused
          simp [EvalError.IsStructural] at other
        · rcases first.evaluateStripped_cases noPair with fault | ⟨e, structural, failed⟩
          · rw [refused] at fault
            cases f <;> cases fault
          · rw [refused, Except.error.injEq] at failed
            simp [← failed, EvalError.IsStructural] at structural
  · intro pair
    have nonempty : s ≠ [] := by
      rintro rfl
      cases pair
    rw [evaluateStripped_of_ne_nil nonempty, pair]

/-- Two operators side by side anywhere in a text make some such pair the cause. -/
theorem hasPair_iff {s : List Char} :
    HasPair s ↔ ∃ a b, evaluateStripped s = .error (.consecutiveOperators a b) := by
  constructor
  · intro pair
    cases found : adjacentOperators? s with
    | none => exact absurd pair (adjacentOperators?_eq_none_iff.mp found)
    | some ab =>
        have first := adjacentOperators?_eq_some_iff.mp found
        exact ⟨ab.1, ab.2, evaluateStripped_eq_consecutiveOperators_iff.mpr first⟩
  · rintro ⟨a, b, refused⟩
    obtain ⟨before, pair, -⟩ := evaluateStripped_eq_consecutiveOperators_iff.mp refused
    exact ⟨before, a, b, pair⟩

/-- A fault of the scan is the cause only if it is the leftmost. -/
theorem exists_firstFault_of_eq_cause {s : List Char} {f : LexicalFault}
    (noPair : adjacentOperators? s = none) (refused : evaluateStripped s = .error f.cause) :
    ∃ before, FirstFault s before f := by
  rcases valid_or_exists_firstFault s with valid | ⟨before, g, first⟩
  · rcases evaluateStripped_of_valid valid noPair refused with structural | last
    · exact absurd structural f.not_isStructural_cause
    · cases f <;> cases last
  · rcases first.evaluateStripped_cases noPair with fault | ⟨e, structural, failed⟩
    · rw [refused, Except.error.injEq] at fault
      rw [LexicalFault.cause_injective fault]
      exact ⟨before, first⟩
    · rw [refused, Except.error.injEq] at failed
      exact absurd (failed ▸ structural) f.not_isStructural_cause

/-- Where there is a fault there is a leftmost one. -/
theorem FaultAt.exists_firstFault {s before : List Char} {f : LexicalFault}
    (h : FaultAt s before f) : ∃ before f, FirstFault s before f := by
  rcases valid_or_exists_firstFault s with valid | first
  · obtain ⟨after, rfl, between⟩ := h
    rw [between.scan, List.all_append, List.all_cons, between.isValid_lexeme] at valid
    simp at valid
  · exact first

/-- Which fault of a text is reported.  Two operators side by side are, whatever else is
wrong, and the leftmost two of them.  In any other text a fault of the scan is reported only
if it is the leftmost, and a text with such a fault is refused for the leftmost or for a
structural cause.  What stands behind the leftmost fault does not matter. -/
theorem evaluate_leftmost_fault (text : String) :
    let s := Text.strip text.toList
    (HasPair s ↔ ∃ a b, evaluate text = .error (.consecutiveOperators a b)) ∧
      (∀ a b, evaluate text = .error (.consecutiveOperators a b) ↔ FirstPair s a b) ∧
      (¬ HasPair s →
        (∀ f : LexicalFault, evaluate text = .error f.cause → ∃ before, FirstFault s before f) ∧
        ((∃ before f, FaultAt s before f) → ∃ before f, FirstFault s before f) ∧
        ∀ before f, FirstFault s before f →
          (evaluate text = .error f.cause ∨
            ∃ e : EvalError, e.IsStructural ∧ evaluate text = .error e) ∧
          ∀ (other : String) (after : List Char),
            Text.strip other.toList = before ++ f.text ++ after → f.Between before after →
              ¬ HasPair (Text.strip other.toList) → evaluate other = evaluate text) := by
  intro s
  have worth : evaluate text = evaluateStripped s := rfl
  rw [worth]
  refine ⟨hasPair_iff, fun a b => evaluateStripped_eq_consecutiveOperators_iff, fun noPair => ?_⟩
  rw [← adjacentOperators?_eq_none_iff] at noPair
  refine ⟨fun f refused => exists_firstFault_of_eq_cause noPair refused, ?_, ?_⟩
  · rintro ⟨before, f, stands⟩
    exact stands.exists_firstFault
  · intro before f first
    refine ⟨first.evaluateStripped_cases noPair, ?_⟩
    intro other after otherText between otherNoPair
    rw [← adjacentOperators?_eq_none_iff, otherText] at otherNoPair
    obtain ⟨after', same, between'⟩ := first.stands
    rw [same] at noPair ⊢
    -- Both texts are refused for what is in front of the fault, or else for the fault.
    rw [evaluate, otherText, evaluateStripped_of_between between otherNoPair,
      evaluateStripped_of_between between' noPair]

/-- A number with two dots, found behind an operand and in front of much else that is
wrong. -/
theorem evaluate_leftmost_fault_two_dots :
    FirstFault (Text.strip "7 - 1.2 .3 $)".toList) ['7', '-'] (.run ['1', '.', '2', '.', '3']) ∧
      (evaluate "7 - 1.2 .3 $)" = .error (.invalidNumberFormat "1.2.3") ∨
        ∃ e : EvalError, e.IsStructural ∧ evaluate "7 - 1.2 .3 $)" = .error e) ∧
      evaluate "7-1.2.3(/0" = evaluate "7 - 1.2 .3 $)" := by
  have stripped : Text.strip "7 - 1.2 .3 $)".toList =
      ['7', '-'] ++ ['1', '.', '2', '.', '3'] ++ ['$', ')'] := by decide
  have other : Text.strip "7-1.2.3(/0".toList =
      ['7', '-'] ++ ['1', '.', '2', '.', '3'] ++ ['(', '/', '0'] := by decide
  have between (after : List Char)
      (ends : ∀ c ∈ after.head?, Literal.isWordChar c = false) :
      (LexicalFault.run ['1', '.', '2', '.', '3']).Between ['7', '-'] after :=
    .run (by simp) (by simp; decide) (by simp; decide) ends (.inr (by decide))
  have first : FirstFault (Text.strip "7 - 1.2 .3 $)".toList) ['7', '-']
      (.run ['1', '.', '2', '.', '3']) :=
    firstFault_iff.mpr ⟨⟨_, stripped, between _ (by simp; decide)⟩, by decide⟩
  have noPair : ¬ HasPair (Text.strip "7 - 1.2 .3 $)".toList) :=
    adjacentOperators?_eq_none_iff.mp (by decide)
  have noPair' : ¬ HasPair (Text.strip "7-1.2.3(/0".toList) :=
    adjacentOperators?_eq_none_iff.mp (by decide)
  obtain ⟨reported, behind⟩ :=
    ((evaluate_leftmost_fault "7 - 1.2 .3 $)").2.2 noPair).2.2 _ _ first
  exact ⟨first, reported, behind _ _ other (between _ (by simp; decide)) noPair'⟩

end SchoolDesk.Expression
