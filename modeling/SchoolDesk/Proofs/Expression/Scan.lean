import SchoolDesk.Expression.Evaluate

/-!
# What scanning keeps

A literal word of a scan is as long as it can be: scanning a word and a text that
no word goes on into gives that word as one lexeme (`scan_word`).  A word of a
scan holds digits and dots only (`isWordChar_of_mem_scan`).

Operators that stand side by side in a text stand side by side in its scan, since
no other lexeme has an operator symbol for its text.  So the search for them can
be done on lexemes (`adjacentOperators?_scan`), where what is inside a word cannot
matter.
-/

namespace SchoolDesk.Expression

/-- A text that no literal word goes on into. -/
def Literal.Ends (rest : List Char) : Prop := ∀ c ∈ rest.head?, Literal.isWordChar c = false

theorem Literal.ends_nil : Literal.Ends [] := by
  intro c hc
  cases hc

theorem Literal.ends_cons {c : Char} (h : Literal.isWordChar c = false) (rest : List Char) :
    Literal.Ends (c :: rest) := by
  intro d hd
  cases hd
  exact h

theorem Operator.isWordChar_symbol (o : Operator) : Literal.isWordChar o.symbol = false := by
  cases o <;> decide

namespace Lexeme

theorem scan_eq_nil_iff {s : List Char} : scan s = [] ↔ s = [] := by
  constructor
  · intro h
    rw [← text_scan s, h]
    rfl
  · rintro rfl
    rfl

/-! ## Words -/

theorem ofChar_ne_word (c : Char) (w : List Char) : ofChar c ≠ .word w := by
  unfold ofChar
  split
  · simp
  · split
    · simp
    · split <;> simp

/-- A character outside the words is a lexeme of its own. -/
theorem scan_cons_of_not_wordChar {c : Char} (h : Literal.isWordChar c = false)
    (s : List Char) : scan (c :: s) = ofChar c :: scan s := by
  simp [cons, h]

@[simp] theorem scan_openParen (s : List Char) : scan ('(' :: s) = .openParen :: scan s :=
  scan_cons_of_not_wordChar (by decide) s

@[simp] theorem scan_closeParen (s : List Char) : scan (')' :: s) = .closeParen :: scan s :=
  scan_cons_of_not_wordChar (by decide) s

@[simp] theorem scan_symbol (o : Operator) (s : List Char) :
    scan (o.symbol :: s) = .op o :: scan s := by
  rw [scan_cons_of_not_wordChar o.isWordChar_symbol]
  cases o <;> rfl

/-- The scan of a text that no word goes on into does not begin with a word. -/
theorem scan_ne_word {rest : List Char} (h : Literal.Ends rest) (w : List Char)
    (more : List Lexeme) : scan rest ≠ .word w :: more := by
  cases rest with
  | nil => simp
  | cons c rest =>
      rw [scan_cons_of_not_wordChar (h c rfl)]
      intro he
      exact ofChar_ne_word c w (List.cons.inj he).1

/-- A digit or dot joins the word behind it. -/
theorem cons_word {c : Char} (h : Literal.isWordChar c = true) (w : List Char)
    (more : List Lexeme) : cons c (.word w :: more) = .word (c :: w) :: more := by
  simp [cons, h]

/-- A digit or dot with no word behind it begins one. -/
theorem cons_of_ne_word {c : Char} (h : Literal.isWordChar c = true) {rest : List Lexeme}
    (other : ∀ w more, rest ≠ .word w :: more) : cons c rest = .word [c] :: rest := by
  rw [cons, if_pos h]
  exact other

theorem exists_cons_eq_word {c : Char} (h : Literal.isWordChar c = true) (rest : List Lexeme) :
    ∃ w more, cons c rest = .word w :: more := by
  by_cases hs : ∃ w more, rest = .word w :: more
  · obtain ⟨w, more, rfl⟩ := hs
    exact ⟨_, _, cons_word h w more⟩
  · exact ⟨_, _, cons_of_ne_word h (fun w more he => hs ⟨w, more, he⟩)⟩

/-- A word, and then something that does not belong to it. -/
theorem scan_word {w rest : List Char} (chars : w.all Literal.isWordChar = true)
    (nonempty : w ≠ []) (h : Literal.Ends rest) :
    scan (w ++ rest) = .word w :: scan rest := by
  induction w with
  | nil => exact absurd rfl nonempty
  | cons c w ih =>
      simp only [List.all_cons, Bool.and_eq_true] at chars
      rw [List.cons_append, scan_cons]
      cases w with
      | nil => exact cons_of_ne_word chars.1 (scan_ne_word h)
      | cons d w => rw [ih chars.2 (by simp), cons_word chars.1]

/-- The words of a scan hold digits and dots only. -/
theorem isWordChar_of_mem_scan {s w : List Char} (h : .word w ∈ scan s) :
    w.all Literal.isWordChar = true := by
  induction s generalizing w with
  | nil => cases h
  | cons c s ih =>
      rw [scan_cons] at h
      by_cases hc : Literal.isWordChar c = true
      · by_cases hs : ∃ v more, scan s = .word v :: more
        · obtain ⟨v, more, hs⟩ := hs
          rw [hs, cons_word hc] at h
          rcases List.mem_cons.mp h with he | hm
          · cases he
            have hv : v.all Literal.isWordChar = true := ih (by rw [hs]; exact .head _)
            rw [List.all_cons, hc, hv]
            rfl
          · exact ih (by rw [hs]; exact .tail _ hm)
        · rw [cons_of_ne_word hc (fun v more he => hs ⟨v, more, he⟩)] at h
          rcases List.mem_cons.mp h with he | hm
          · cases he
            rw [List.all_cons, hc]
            rfl
          · exact ih hm
      · rw [← scan_cons, scan_cons_of_not_wordChar (by simpa using hc)] at h
        rcases List.mem_cons.mp h with he | hm
        · exact absurd he.symm (ofChar_ne_word c w)
        · exact ih hm

/-! ## Operators side by side -/

/-- The symbols of the first two operators that stand side by side. -/
def adjacentOperators? : List Lexeme → Option (Char × Char)
  | .op a :: .op b :: _ => some (a.symbol, b.symbol)
  | _ :: ts => adjacentOperators? ts
  | [] => none
termination_by structural ts => ts

theorem ofChar_ne_op {c : Char} (h : Operator.ofChar? c = none) (o : Operator) :
    ofChar c ≠ .op o := by
  unfold ofChar
  split
  · simp
  · split
    · simp
    · simp [h]

/-- The scan of a text that does not begin with an operator symbol does not begin
with an operator. -/
theorem scan_ne_op {c : Char} (h : Operator.ofChar? c = none) (s : List Char) (o : Operator)
    (more : List Lexeme) : scan (c :: s) ≠ .op o :: more := by
  by_cases hc : Literal.isWordChar c = true
  · obtain ⟨w, ts, hw⟩ := exists_cons_eq_word hc (scan s)
    rw [scan_cons, hw]
    simp
  · rw [scan_cons_of_not_wordChar (by simpa using hc)]
    intro he
    exact ofChar_ne_op h o (List.cons.inj he).1

/-- Only an operator in front of an operator begins a pair. -/
theorem adjacentOperators?_cons {t : Lexeme} {ts : List Lexeme}
    (h : ∀ a b more, t = .op a → ts ≠ .op b :: more) :
    adjacentOperators? (t :: ts) = adjacentOperators? ts := by
  rw [adjacentOperators?]
  intro a b more ht
  exact h a b more ht

/-- A character that is no operator symbol does not change the search. -/
theorem adjacentOperators?_scan_cons {c : Char} (h : Operator.ofChar? c = none) (s : List Char) :
    adjacentOperators? (scan (c :: s)) = adjacentOperators? (scan s) := by
  by_cases hc : Literal.isWordChar c = true
  · by_cases hs : ∃ w more, scan s = .word w :: more
    · obtain ⟨w, more, hs⟩ := hs
      rw [scan_cons, hs, cons_word hc]
      rfl
    · rw [scan_cons, cons_of_ne_word hc (fun w more he => hs ⟨w, more, he⟩)]
      rfl
  · rw [scan_cons_of_not_wordChar (by simpa using hc)]
    exact adjacentOperators?_cons fun a _ _ he => absurd he (ofChar_ne_op h a)

/-- The first pair of operators of a text is the first pair of its scan. -/
theorem adjacentOperators?_scan (s : List Char) :
    Expression.adjacentOperators? s = adjacentOperators? (scan s) := by
  induction s with
  | nil => rfl
  | cons a s ih =>
      cases ha : Operator.ofChar? a with
      | none =>
          rw [adjacentOperators?_scan_cons ha, ← ih]
          cases s with
          | nil => rfl
          | cons b s => simp [Expression.adjacentOperators?, ha]
      | some o =>
          obtain rfl := Operator.symbol_of_ofChar? ha
          rw [scan_symbol]
          cases s with
          | nil => rfl
          | cons b s =>
              cases hb : Operator.ofChar? b with
              | none =>
                  rw [adjacentOperators?_cons fun _ p more _ => scan_ne_op hb s p more, ← ih]
                  simp [Expression.adjacentOperators?, hb]
              | some p =>
                  obtain rfl := Operator.symbol_of_ofChar? hb
                  rw [scan_symbol]
                  simp [Expression.adjacentOperators?, adjacentOperators?]

end Lexeme

end SchoolDesk.Expression
