import Mathlib.Data.List.Induction

/-!
# Machines that put something out

A machine meets one occasion after the other; each may change its state and make it put something
out.

## Main definitions

* `stateAfter` — the state after some occasions.
* `transcript` — all that is put out on them, in order.
-/

namespace VideoCapture

variable {σ ι ο : Type} {meet : σ → ι → List ο × σ} {s : σ}

/-- The state after some occasions. -/
def stateAfter (meet : σ → ι → List ο × σ) (s : σ) (occasions : List ι) : σ :=
  occasions.foldl (fun s o => (meet s o).2) s

/-- All that is put out on some occasions, in order. -/
def transcript (meet : σ → ι → List ο × σ) (s : σ) : List ι → List ο
  | [] => []
  | o :: rest => (meet s o).1 ++ transcript meet (meet s o).2 rest

@[simp] theorem stateAfter_nil : stateAfter meet s [] = s := rfl

@[simp] theorem stateAfter_cons (o : ι) (rest : List ι) :
    stateAfter meet s (o :: rest) = stateAfter meet (meet s o).2 rest := rfl

theorem stateAfter_append (occasions more : List ι) :
    stateAfter meet s (occasions ++ more) = stateAfter meet (stateAfter meet s occasions) more :=
  List.foldl_append

@[simp] theorem stateAfter_concat (occasions : List ι) (o : ι) :
    stateAfter meet s (occasions ++ [o]) = (meet (stateAfter meet s occasions) o).2 :=
  stateAfter_append occasions [o]

@[simp] theorem transcript_nil : transcript meet s [] = [] := rfl

@[simp] theorem transcript_cons (o : ι) (rest : List ι) :
    transcript meet s (o :: rest) = (meet s o).1 ++ transcript meet (meet s o).2 rest := rfl

theorem transcript_append (occasions more : List ι) :
    transcript meet s (occasions ++ more) =
      transcript meet s occasions ++ transcript meet (stateAfter meet s occasions) more := by
  induction occasions generalizing s with
  | nil => rfl
  | cons o rest ih => simp [ih]

@[simp] theorem transcript_concat (occasions : List ι) (o : ι) :
    transcript meet s (occasions ++ [o]) =
      transcript meet s occasions ++ (meet (stateAfter meet s occasions) o).1 := by
  simp [transcript_append]

/-- What holds at first and is preserved by every single occasion holds after all of them. -/
theorem transcript_induction {motive : List ο → σ → Prop} (first : motive [] s)
    (next : ∀ out s o, motive out s → motive (out ++ (meet s o).1) (meet s o).2)
    (occasions : List ι) : motive (transcript meet s occasions) (stateAfter meet s occasions) := by
  induction occasions using List.reverseRecOn with
  | nil => exact first
  | append_singleton occasions o ih =>
    rw [transcript_concat, stateAfter_concat]
    exact next _ _ o ih

end VideoCapture
