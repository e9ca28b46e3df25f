import SchoolDesk.Expression.Grammar
import SchoolDesk.Proofs.Expression.Scan

/-!
# Which texts are expressions

Whether the grammar derives a text can be read off its lexemes in three checks.

* *Valid*: every word is a number, and no character is unknown.
* *Balanced*: every closing parenthesis has its opening one before it, and every
  opening one is closed.
* *Placed*: an operand starts exactly where one is awaited.  One is awaited at the
  start, after an operator and after an opening parenthesis, and none is awaited
  at the end.

`isExpression_iff` says that the three checks together are the grammar, so it can be
decided.  From a derivation to the checks the proof goes by the rules of the
grammar.  In the other direction the text is read from the left.  What has been
read with `k` parentheses open is `Ready k` if it ends in an operand and
`Awaiting k` if any factor may follow, and every lexeme leads from one of these to
one of these.  No parse tree is looked for: a sum that is followed by an operator
and a factor is a sum (`exists_text_append`).
-/

namespace SchoolDesk.Expression

/-! ## The three checks -/

namespace Lexeme

/-- A number, a parenthesis or an operator. -/
def isValid : Lexeme → Bool
  | .word w => Literal.isNumber w
  | .unknown _ => false
  | _ => true

/-- A lexeme with which an operand starts. -/
def startsOperand : Lexeme → Bool
  | .word _ | .openParen => true
  | _ => false

/-- A lexeme with which an operand ends. -/
def endsOperand : Lexeme → Bool
  | .word _ | .closeParen => true
  | _ => false

/-- An operand starts where one is awaited, and nowhere else. -/
def placed : Bool → List Lexeme → Bool
  | awaiting, [] => !awaiting
  | awaiting, t :: ts => t.startsOperand == awaiting && placed (!t.endsOperand) ts
termination_by structural _ ts => ts

/-- Parentheses close what was opened before, with some of them open at the start. -/
def balanced : Nat → List Lexeme → Bool
  | k, [] => k == 0
  | k, .openParen :: ts => balanced (k + 1) ts
  | k, .closeParen :: ts =>
      match k with
      | 0 => false
      | k + 1 => balanced k ts
  | k, _ :: ts => balanced k ts
termination_by structural _ ts => ts

/-- Where operands are placed well, no two operators stand side by side. -/
theorem adjacentOperators?_of_placed {awaiting : Bool} {ts : List Lexeme}
    (h : placed awaiting ts = true) : adjacentOperators? ts = none := by
  induction ts generalizing awaiting with
  | nil => rfl
  | cons t ts ih =>
      simp only [placed, Bool.and_eq_true] at h
      rw [adjacentOperators?_cons, ih h.2]
      rintro a b more rfl rfl
      simp [placed, startsOperand, endsOperand] at h

end Lexeme

/-! ## From a derivation to the checks -/

namespace Expr

/-- The lexemes of a derivation. -/
def lexemes {l : Layer} : Expr l → List Lexeme
  | .literal word _ _ => [.word word]
  | .group e => .openParen :: e.lexemes ++ [.closeParen]
  | .ofFactor e => e.lexemes
  | .product left o _ right => left.lexemes ++ .op o :: right.lexemes
  | .ofProduct e => e.lexemes
  | .sum left o _ right => left.lexemes ++ .op o :: right.lexemes

/-- The text of a derivation is scanned into its lexemes, if no word goes on behind
it. -/
theorem scan_text {l : Layer} (e : Expr l) {rest : List Char} (h : Literal.Ends rest) :
    Lexeme.scan (e.text ++ rest) = e.lexemes ++ Lexeme.scan rest := by
  induction e generalizing rest with
  | literal word isWord isNumber =>
      refine Lexeme.scan_word isWord ?_ h
      rintro rfl
      simp [Literal.isNumber] at isNumber
  | group e ih =>
      simp only [text, lexemes, List.cons_append, List.append_assoc, List.nil_append]
      rw [Lexeme.scan_openParen, ih (Literal.ends_cons (by decide) rest), Lexeme.scan_closeParen]
  | ofFactor e ih => exact ih h
  | product left o tight right ihl ihr =>
      simp only [text, lexemes, List.append_assoc, List.cons_append]
      rw [ihl (Literal.ends_cons o.isWordChar_symbol _), Lexeme.scan_symbol, ihr h]
  | ofProduct e ih => exact ih h
  | sum left o loose right ihl ihr =>
      simp only [text, lexemes, List.append_assoc, List.cons_append]
      rw [ihl (Literal.ends_cons o.isWordChar_symbol _), Lexeme.scan_symbol, ihr h]

theorem scan_text_eq {l : Layer} (e : Expr l) : Lexeme.scan e.text = e.lexemes := by
  have h := e.scan_text Literal.ends_nil
  simpa using h

theorem isValid_lexemes {l : Layer} (e : Expr l) : e.lexemes.all Lexeme.isValid = true := by
  induction e with
  | literal word isWord isNumber => simpa [lexemes, Lexeme.isValid] using isNumber
  | group e ih => simp [lexemes, Lexeme.isValid, ih]
  | ofFactor e ih => exact ih
  | product left o tight right ihl ihr => simp [lexemes, Lexeme.isValid, ihl, ihr]
  | ofProduct e ih => exact ih
  | sum left o loose right ihl ihr => simp [lexemes, Lexeme.isValid, ihl, ihr]

/-- A derivation is one operand. -/
theorem placed_lexemes {l : Layer} (e : Expr l) (ts : List Lexeme) :
    Lexeme.placed true (e.lexemes ++ ts) = Lexeme.placed false ts := by
  induction e generalizing ts with
  | literal word isWord isNumber => rfl
  | group e ih =>
      simp only [lexemes, List.cons_append, List.append_assoc, List.nil_append]
      exact ih (.closeParen :: ts)
  | ofFactor e ih => exact ih ts
  | product left o tight right ihl ihr =>
      simp only [lexemes, List.append_assoc, List.cons_append]
      rw [ihl]
      exact ihr ts
  | ofProduct e ih => exact ih ts
  | sum left o loose right ihl ihr =>
      simp only [lexemes, List.append_assoc, List.cons_append]
      rw [ihl]
      exact ihr ts

/-- A derivation closes what it opens. -/
theorem balanced_lexemes {l : Layer} (e : Expr l) (k : Nat) (ts : List Lexeme) :
    Lexeme.balanced k (e.lexemes ++ ts) = Lexeme.balanced k ts := by
  induction e generalizing k ts with
  | literal word isWord isNumber => rfl
  | group e ih =>
      simp only [lexemes, List.cons_append, List.append_assoc, List.nil_append]
      exact ih (k + 1) (.closeParen :: ts)
  | ofFactor e ih => exact ih k ts
  | product left o tight right ihl ihr =>
      simp only [lexemes, List.append_assoc, List.cons_append]
      rw [ihl]
      exact ihr k ts
  | ofProduct e ih => exact ih k ts
  | sum left o loose right ihl ihr =>
      simp only [lexemes, List.append_assoc, List.cons_append]
      rw [ihl]
      exact ihr k ts

/-! ## From the checks to a derivation -/

/-- A sum can be followed by an operator and a factor.  A tight operator joins the
last product of the sum, a loose one the whole sum. -/
theorem exists_text_append (e : Expr .sum) (o : Operator) (f : Expr .factor) :
    ∃ e' : Expr .sum, e'.text = e.text ++ o.symbol :: f.text := by
  by_cases tight : o.precedence = 2
  · cases e with
    | ofProduct p => exact ⟨.ofProduct (.product p o tight f), rfl⟩
    | sum left o' loose right =>
        exact ⟨.sum left o' loose (.product right o tight f), by simp [text]⟩
  · have loose : o.precedence = 1 := by cases o <;> simp_all [Operator.precedence]
    exact ⟨.sum e o loose (.ofFactor f), rfl⟩

end Expr

/-- What has been read ends in an operand, with `k` parentheses open. -/
def Ready : Nat → List Char → Prop
  | 0, s => IsExpression s
  | k + 1, s => ∃ (before : List Char) (e : Expr .sum), s = before ++ '(' :: e.text ∧
      ∀ f : Expr .factor, Ready k (before ++ f.text)

/-- Any factor may follow what has been read, with `k` parentheses open. -/
def Awaiting (k : Nat) (s : List Char) : Prop := ∀ f : Expr .factor, Ready k (s ++ f.text)

theorem awaiting_nil : Awaiting 0 [] := fun f => ⟨.ofProduct (.ofFactor f), rfl⟩

theorem Awaiting.openParen {k : Nat} {s : List Char} (h : Awaiting k s) :
    Awaiting (k + 1) (s ++ ['(']) :=
  fun f => ⟨s, .ofProduct (.ofFactor f), by simp [Expr.text], h⟩

theorem Ready.closeParen {k : Nat} {s : List Char} (h : Ready (k + 1) s) :
    Ready k (s ++ [')']) := by
  obtain ⟨before, e, rfl, awaiting⟩ := h
  simpa [Expr.text] using awaiting (.group e)

theorem Ready.op {k : Nat} {s : List Char} (h : Ready k s) (o : Operator) :
    Awaiting k (s ++ [o.symbol]) := by
  intro f
  cases k with
  | zero =>
      obtain ⟨e, rfl⟩ := h
      obtain ⟨e', he⟩ := e.exists_text_append o f
      exact ⟨e', by simp [he]⟩
  | succ k =>
      obtain ⟨before, e, rfl, awaiting⟩ := h
      obtain ⟨e', he⟩ := e.exists_text_append o f
      exact ⟨before, e', by simp [he], awaiting⟩

/-- What has been read, with the two states in one. -/
def Reads (awaiting : Bool) (k : Nat) (s : List Char) : Prop :=
  if awaiting then Awaiting k s else Ready k s

/-- The checks on what is still to be read turn what has been read into an
expression. -/
theorem Reads.isExpression {ts : List Lexeme} {awaiting : Bool} {k : Nat} {s : List Char}
    (h : Reads awaiting k s)
    (chars : ∀ w, .word w ∈ ts → w.all Literal.isWordChar = true)
    (valid : ts.all Lexeme.isValid = true) (balanced : Lexeme.balanced k ts = true)
    (placed : Lexeme.placed awaiting ts = true) : IsExpression (s ++ ts.flatMap Lexeme.text) := by
  induction ts generalizing awaiting k s with
  | nil =>
      cases k with
      | succ k => cases balanced
      | zero =>
          cases awaiting with
          | true => cases placed
          | false => simpa [Reads, Ready] using h
  | cons t ts ih =>
      simp only [List.all_cons, Bool.and_eq_true] at valid
      simp only [Lexeme.placed, Bool.and_eq_true, beq_iff_eq] at placed
      obtain ⟨rfl, placed⟩ := placed
      -- Every lexeme ends here: it has led to one of the two states, and the rest follows.
      have next (k' : Nat) (h : Reads (!t.endsOperand) k' (s ++ t.text))
          (balanced : Lexeme.balanced k' ts = true) :
          IsExpression (s ++ (t :: ts).flatMap Lexeme.text) := by
        rw [List.flatMap_cons, ← List.append_assoc]
        exact ih h (fun w hw => chars w (.tail _ hw)) valid.2 balanced placed
      cases t with
      | word w =>
          have word : Awaiting k s := h
          exact next k (word (.literal w (chars w (.head _)) valid.1)) balanced
      | openParen =>
          have awaiting : Awaiting k s := h
          exact next (k + 1) awaiting.openParen balanced
      | closeParen =>
          cases k with
          | zero => cases balanced
          | succ k =>
              have ready : Ready (k + 1) s := h
              exact next k ready.closeParen balanced
      | op o =>
          have ready : Ready k s := h
          exact next k (ready.op o) balanced
      | unknown c => cases valid.1

/-- The grammar is the three checks. -/
theorem isExpression_iff (s : List Char) :
    IsExpression s ↔
      (Lexeme.scan s).all Lexeme.isValid = true ∧ Lexeme.balanced 0 (Lexeme.scan s) = true ∧
        Lexeme.placed true (Lexeme.scan s) = true := by
  constructor
  · rintro ⟨e, rfl⟩
    have balanced := e.balanced_lexemes 0 []
    have placed := e.placed_lexemes []
    rw [List.append_nil] at balanced placed
    rw [e.scan_text_eq, balanced, placed]
    exact ⟨e.isValid_lexemes, rfl, rfl⟩
  · rintro ⟨valid, balanced, placed⟩
    have start : Reads true 0 [] := awaiting_nil
    have h := start.isExpression (fun w => Lexeme.isWordChar_of_mem_scan) valid balanced placed
    rwa [List.nil_append, Lexeme.text_scan] at h

instance (s : List Char) : Decidable (IsExpression s) :=
  decidable_of_iff _ (isExpression_iff s).symm

example : IsExpression "((1.5+2)*4-3)/.5".toList := by decide

end SchoolDesk.Expression
