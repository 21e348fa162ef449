import VideoCapture.Proofs.Manners
import VideoCapture.Proofs.Run

/-!
# Controllers with observers

Observers may ask for operations while they are being told, and what they ask for may make them be
told again. Seen from the state, all of this is a run: whatever observers do, a controller only ever
passes through states that a sequence of steps reaches.

## Main definitions

* `Controller.Extends` — the state of one controller is reached from that of another.
* `Controller.Reachable` — what an application can make of a controller.
* `Controller.Silent` — the observers only listen.
* `Controller.Follows` — what is asked for between two controllers.

The main statements are `Controller.Reachable.exists_run` and, for observers that only listen,
`Controller.Silent.follows_performAll`.
-/

namespace VideoCapture

namespace Controller

variable {β ω : Type} [Backend β]

/-- The state of `d` is reached from that of `c` in some steps. -/
def Extends (c d : Controller β ω) : Prop := ∃ steps, d.state = c.state.run steps

variable {c d e : Controller β ω}

/-- An operation of the state, with the pull of a preview loop that it may have started. No caller asks for
the pull. -/
theorem exists_run_perform (eager : Bool) (op : Operation β) (s : CaptureState β) :
    ∃ steps, (s.perform eager op).2 = s.run steps ∧
      steps.filterMap Step.asked? = [.operation op].filterMap Step.asked? := by
  rcases s.perform_cases eager op with hsame | hpulled
  · exact ⟨[.operation op], hsame, rfl⟩
  · exact ⟨[.operation op, .operation .pull], hpulled, by cases op <;> rfl⟩

/-- What steps reach survives everything that observers may ask for. -/
theorem endures_run (s : CaptureState β) :
    CaptureState.Endures (fun _ => True) fun t => ∃ steps, t = s.run steps where
  handOut := by
    rintro _ n rest hbox ⟨steps, rfl⟩
    exact ⟨steps ++ [.handOut], by simp [CaptureState.step, hbox]⟩
  perform := by
    rintro eager op _ - ⟨steps, rfl⟩
    obtain ⟨more, hmore, -⟩ := exists_run_perform eager op (s.run steps)
    exact ⟨steps ++ more, by rw [CaptureState.run_append, hmore]⟩

theorem upholds_run (c : Controller β ω) :
    c.Upholds (fun t => ∃ steps, t = c.state.run steps) fun _ => True :=
  ⟨⟨[], rfl⟩, fun _ _ => trivial⟩

section Reactions

variable [Observer β ω]

theorem extends_performAt (depth : Nat) (op : Operation β) (c : Controller β ω) :
    Extends c (performAt depth op c).2 :=
  let ⟨steps, hsteps, _⟩ := exists_run_perform c.eager op c.state
  (upholds_performAt (endures_run c.state) manners_any depth ⟨steps, hsteps⟩ fun _ _ => trivial).state

theorem extends_runOneAt (depth : Nat) (h : c.runOneAt depth = some d) : Extends c d :=
  ((upholds_run c).runOneAt (endures_run c.state) manners_any h).state

theorem extends_runRounds (depth rounds : Nat) (c : Controller β ω) :
    Extends c (c.runRounds depth rounds).2 :=
  ((upholds_run c).runRounds (endures_run c.state) manners_any depth rounds).state

/-- What an application can make of a controller, with any observers and any main context. -/
inductive Reachable (builder : ControllerBuilder β) : Controller β ω → Prop
  | build (eager queued : Bool) (observers : List ω) :
    Reachable builder (build builder eager queued observers)
  | perform {c : Controller β ω} (op : Operation β) :
    Reachable builder c → Reachable builder (c.perform op).2
  | runOne {c d : Controller β ω} : Reachable builder c → c.runOne = some d → Reachable builder d
  | runPending {c : Controller β ω} : Reachable builder c → Reachable builder c.runPending.2
  | subscribe {c : Controller β ω} (o : ω) : Reachable builder c → Reachable builder (c.subscribe o)
  /-- A backend changes on its own. -/
  | stir {c : Controller β ω} (backend : Nat) (change : β → β) :
    Reachable builder c → Reachable builder { c with state := c.state.alter backend change }

/-- Whatever observers ask for while they are told, the state of a controller is that of a run. -/
theorem Reachable.exists_run {builder : ControllerBuilder β} (h : Reachable builder c) :
    ∃ steps, c.state = builder.start.run steps := by
  have next {c d : Controller β ω} (hc : ∃ steps, c.state = builder.start.run steps)
      (hd : Extends c d) : ∃ steps, d.state = builder.start.run steps := by
    obtain ⟨steps, hsteps⟩ := hc
    obtain ⟨more, hmore⟩ := hd
    exact ⟨steps ++ more, by rw [CaptureState.run_append, ← hsteps, hmore]⟩
  induction h with
  | build eager queued observers => exact ⟨[], rfl⟩
  | perform op _ ih => exact next ih (extends_performAt _ op _)
  | runOne _ hone ih => exact next ih (extends_runOneAt _ hone)
  | runPending _ ih => exact next ih (extends_runRounds _ _ _)
  | subscribe o _ ih => exact next ih ⟨[], rfl⟩
  | stir backend change _ ih => exact next ih ⟨[.stir backend change], rfl⟩

/-- So the device is held as it should be, also while observers are told. -/
theorem Reachable.settled {builder : ControllerBuilder β} (h : Reachable builder c) :
    c.state.Settled := by
  obtain ⟨steps, hsteps⟩ := h.exists_run
  rw [hsteps]
  exact builder.settled_run steps

end Reactions

/-! ## Observers that only listen -/

/-- The state of `d` is reached from that of `c` in steps that ask for `asked`. -/
def Follows (asked : List (Operation Unit)) (c d : Controller β ω) : Prop :=
  ∃ steps, d.state = c.state.run steps ∧ steps.filterMap Step.asked? = asked

theorem follows_of_state (h : d.state = c.state) : Follows [] c d := ⟨[], h, rfl⟩

theorem Follows.trans {asked more : List (Operation Unit)} (h : Follows asked c d)
    (h' : Follows more d e) : Follows (asked ++ more) c e := by
  obtain ⟨steps, hsteps, hasked⟩ := h
  obtain ⟨later, hlater, hmore⟩ := h'
  refine ⟨steps ++ later, by rw [CaptureState.run_append, ← hsteps, hlater], ?_⟩
  rw [List.filterMap_append, hasked, hmore]

end Controller

namespace Controller

variable {β ω : Type} [Observer β ω]

/-- The observers never ask for anything. -/
def Silent (β ω : Type) [Observer β ω] : Prop :=
  ∀ (n : Notification) (o : ω), (Observer.receive n o : List (Operation β) × ω).1 = []

theorem Silent.manners (h : Silent β ω) :
    Manners (fun _ : Operation β => False) fun _ : ω => True where
  asks o n _ op hop := by
    rw [h n o] at hop
    cases hop
  stays _ _ _ := trivial

variable [Backend β]

/-- Handing out notifications asks for nothing. -/
theorem endures_asked (s : CaptureState β) (asked : List (Operation Unit)) :
    CaptureState.Endures (fun _ => False)
      fun t => ∃ steps, t = s.run steps ∧ steps.filterMap Step.asked? = asked where
  handOut := by
    rintro _ n rest hbox ⟨steps, rfl, hasked⟩
    refine ⟨steps ++ [.handOut], by simp [CaptureState.step, hbox], ?_⟩
    rw [List.filterMap_append, hasked]
    exact List.append_nil asked
  perform _ _ _ h := h.elim

namespace Silent

/-- With observers that only listen, a controller is asked for nothing but the operation. -/
theorem follows_perform (h : Silent β ω) (op : Operation β) (c : Controller β ω) :
    Follows ([.operation op].filterMap Step.asked?) c (c.perform op).2 := by
  exact (upholds_performAt (endures_asked c.state _) h.manners c.patience
    (exists_run_perform c.eager op c.state) fun _ _ => trivial).state

/-- With observers that only listen, a controller is asked for nothing but the operations performed
on it. -/
theorem follows_performAll (h : Silent β ω) (ops : List (Operation β)) (c : Controller β ω) :
    Follows ((ops.map Step.operation).filterMap Step.asked?) c (c.performAll ops) := by
  induction ops generalizing c with
  | nil => exact follows_of_state rfl
  | cons op rest ih =>
    have hrest := (h.follows_perform op c).trans (ih (c.perform op).2)
    rw [← List.filterMap_append] at hrest
    exact hrest

end Silent

end Controller

end VideoCapture
