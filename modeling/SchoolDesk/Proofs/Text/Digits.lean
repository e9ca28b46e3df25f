import Mathlib.Data.Nat.Digits.Defs

/-!
# Digits of a number

What is known of the digits of a number whatever they are written for.  None stands in front
that is zero, unless the number is zero (`zero_of_head?_toDigits`).
-/

namespace SchoolDesk

/-- A number begins with a zero only if it is zero. -/
theorem eq_zero_of_head?_toDigits {n : Nat} (h : (Nat.toDigits 10 n).head? = some '0') :
    n = 0 := by
  induction n using Nat.strongRecOn with
  | ind n ih =>
      rw [Nat.toDigits_eq_if (by decide)] at h
      split at h
      · next small =>
          have digits : ∀ i : Fin 10, Nat.digitChar i.val = '0' → i.val = 0 := by decide
          exact digits ⟨n, small⟩ (Option.some.inj h)
      · next large =>
          obtain ⟨first, more, digits⟩ := List.exists_cons_of_ne_nil
            (Nat.toDigits_ne_nil (b := 10) (n := n / 10))
          rw [digits, List.cons_append, List.head?_cons, ← List.head?_cons, ← digits] at h
          have tenth := ih (n / 10) (by omega) h
          omega

theorem zero_of_head?_toDigits {n : Nat} (h : (Nat.toDigits 10 n).head? = some '0') :
    Nat.toDigits 10 n = ['0'] := by
  rw [eq_zero_of_head?_toDigits h]
  rfl

end SchoolDesk
