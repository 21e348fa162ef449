import VideoCapture.Proofs.Delivery
import VideoCapture.Proofs.Evolution

/-!
# What applications do to a controller

An application performs operations, drains the queue of the main context, and subscribes observers;
meanwhile backends change on their own. What observers were told of is read off the journal.

## Main definitions

* `Journal.told`, `Journal.received` — what observers were told of, all of them or one.
* `Journal.CalledBack` — an observer asked for an operation, and it returned.
* `Move` — what an application can do to a controller.
* `Controller.move`, `Controller.run` — the controller after one move and after many.
-/

namespace VideoCapture

abbrev Journal (β : Type) := List (JournalEntry β)

/-- The observer's position and the notification, where an observer was told of one. -/
def JournalEntry.delivered? {β : Type} : JournalEntry β → Option (Nat × Notification)
  | .delivered i n => some (i, n)
  | .returned .. => none

namespace Journal

variable {β : Type}

/-- Who was told of what, in order. -/
def told (entries : Journal β) : List (Nat × Notification) :=
  entries.filterMap JournalEntry.delivered?

/-- What the observer at position `i` was told of, in order. -/
def received (i : Nat) (entries : Journal β) : List Notification :=
  entries.told.filterMap fun e => if e.1 = i then some e.2 else none

/-- An operation that the observer at position `i` asked for has returned. -/
def CalledBack (i : Nat) (entries : Journal β) : Prop :=
  ∃ op outcome ownership, JournalEntry.returned i op outcome ownership ∈ entries

@[simp] theorem told_append (entries more : Journal β) :
    told (entries ++ more) = told entries ++ told more :=
  List.filterMap_append

@[simp] theorem told_delivered (i : Nat) (n : Notification) :
    told [(.delivered i n : JournalEntry β)] = [(i, n)] := rfl

@[simp] theorem received_nil (i : Nat) : received i ([] : Journal β) = [] := rfl

@[simp] theorem received_append (i : Nat) (entries more : Journal β) :
    received i (entries ++ more) = received i entries ++ received i more := by
  simp [received]

@[simp] theorem received_delivered (i j : Nat) (n : Notification) :
    received i [(.delivered j n : JournalEntry β)] = if j = i then [n] else [] := by
  by_cases h : j = i <;> simp [received, h]

@[simp] theorem calledBack_append (i : Nat) (entries more : Journal β) :
    CalledBack i (entries ++ more) ↔ CalledBack i entries ∨ CalledBack i more := by
  simp only [CalledBack, List.mem_append, exists_or]

end Journal

/-- What an application can do to a controller. Requests of observers are followed to a depth of
nesting, and a queue is drained in rounds. -/
inductive Move (β ω : Type) where
  | perform (depth : Nat) (op : Operation β)
  | runOne (depth : Nat)
  | runPending (depth rounds : Nat)
  | subscribe (o : ω)
  /-- The backend at a position changes on its own. -/
  | stir (backend : Nat) (change : β → β)

namespace Controller

variable {β ω : Type} [Backend β] [Observer β ω]

/-- The controller after one move. -/
def move (c : Controller β ω) : Move β ω → Controller β ω
  | .perform depth op => (performAt depth op c).2
  | .runOne depth => (c.runOneAt depth).getD c
  | .runPending depth rounds => (c.runRounds depth rounds).2
  | .subscribe o => c.subscribe o
  | .stir i change => { c with state := c.state.alter i change }

/-- The controller after some moves. -/
def run (c : Controller β ω) (moves : List (Move β ω)) : Controller β ω := moves.foldl move c

/-- What survives the operations that observers ask for survives a move that respects it. -/
theorem Upholds.move {allowed : Operation β → Prop} {well : ω → Prop}
    {property : CaptureState β → Prop} {c : Controller β ω}
    (hendures : CaptureState.Endures allowed property) (hmanners : Manners allowed well)
    (h : c.Upholds property well) {m : Move β ω}
    (hperform : ∀ depth op, m = .perform depth op → property (c.state.perform c.eager op).2)
    (hsubscribe : ∀ o, m = .subscribe o → well o)
    (hstir : ∀ i change, m = .stir i change → property (c.state.alter i change)) :
    (c.move m).Upholds property well := by
  cases m with
  | perform depth op =>
    exact upholds_performAt hendures hmanners depth (hperform depth op rfl) h.observers
  | runOne depth =>
    show ((c.runOneAt depth).getD c).Upholds property well
    cases hone : c.runOneAt depth with
    | none => exact h
    | some d => exact h.runOneAt hendures hmanners hone
  | runPending depth rounds => exact h.runRounds hendures hmanners depth rounds
  | subscribe o =>
    refine ⟨h.state, fun o' ho' => ?_⟩
    rcases List.mem_append.mp ho' with hmem | hmem
    · exact h.observers o' hmem
    · rw [List.mem_singleton.mp hmem]
      exact hsubscribe o rfl
  | stir i change => exact ⟨hstir i change rfl, h.observers⟩

@[simp] theorem run_nil (c : Controller β ω) : c.run ([] : List (Move β ω)) = c := rfl

@[simp] theorem run_cons (c : Controller β ω) (m : Move β ω) (moves : List (Move β ω)) :
    c.run (m :: moves) = (c.move m).run moves := rfl

end Controller

end VideoCapture
