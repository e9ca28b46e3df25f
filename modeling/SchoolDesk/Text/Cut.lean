/-!
# Cutting a text in two

`cut` parts a text at the first separator.  The separator itself is in neither
part, and a text without one has no second part.  `cut_append_sep` says that two
texts joined by a separator come apart again, if the first has none.
-/

namespace SchoolDesk.Text

variable {α : Type} [DecidableEq α]

/-- What stands before the first separator, and what stands after it if there is
one. -/
def cut (sep : α) : List α → List α × Option (List α)
  | [] => ([], none)
  | a :: s =>
      if a = sep then ([], some s)
      else
        let (before, after) := cut sep s
        (a :: before, after)
termination_by structural s => s

theorem cut_append_sep {sep : α} {s : List α} (h : sep ∉ s) (t : List α) :
    cut sep (s ++ sep :: t) = (s, some t) := by
  induction s with
  | nil => simp [cut]
  | cons a s ih =>
    simp only [List.mem_cons, not_or] at h
    simp [cut, ih h.2, Ne.symm h.1]

end SchoolDesk.Text
