import VideoCapture.Proofs.Preview.Coherence

/-!
# The eager worker as a list of turns

Whatever calls are made to a `PreviewLoop`, the parties take the same calls to the same end in some order of
turns: the worker goes on after every access of the owner until it waits for a command or for the flag. So
what holds of the parties under every list of turns holds of the loop.

## Main definitions

* `LoopCall`, `PreviewLoop.make` — what may happen to a loop.
* `State.view` — the parties as a loop.
* `Settled` — the worker waits.
* `Reaches` — some list of turns with given calls leads from one state to another.

The main statement is `exists_turns_of_calls`.
-/

namespace VideoCapture

/-- What may happen to a loop before its owner drops it. -/
inductive LoopCall where
  | attach (source : String)
  | destroy (source : String)
  | start (width height : UInt32)
  | stop
  /-- A pause between two pulls is over. -/
  | pause
  deriving DecidableEq

namespace PreviewLoop

variable {σ : Type}

/-- The loop with another queue and another flag of its owner, neither of which the worker looks at while it
handles a command. -/
def relabel (commands : List LoopCommand) (running : Bool) (l : PreviewLoop σ) : PreviewLoop σ :=
  { l with commands := commands, running := running }

section Worker

variable [FrameSource σ]

def make (l : PreviewLoop σ) : LoopCall → PreviewLoop σ
  | .attach source => l.attach source
  | .destroy source => l.destroy source
  | .start width height => l.start width height
  | .stop => l.stop
  | .pause => l.tick

/-- The calls are made one after the other. -/
def makeAll (l : PreviewLoop σ) (calls : List LoopCall) : PreviewLoop σ := calls.foldl make l

theorem pull_relabel (commands : List LoopCommand) (running : Bool) (l : PreviewLoop σ) :
    (l.relabel commands running).pull = l.pull.relabel commands running := by
  have htarget : (l.relabel commands running).target? = l.target? := rfl
  cases h : l.target? with
  | none =>
    rw [pull_of_none h, pull_of_none (htarget.trans h)]
    rfl
  | some target =>
    obtain ⟨name, s⟩ := target
    cases hpull : FrameSource.pull l.cancel s with
    | mk result after =>
      rw [pull_of_some h hpull, pull_of_some (htarget.trans h) hpull]
      cases result <;> rfl

/-- A pull does not depend on where the worker stood. -/
theorem pull_phase (phase : WorkerPhase) (l : PreviewLoop σ) : { l with phase := phase }.pull = l.pull := by
  have htarget : { l with phase := phase }.target? = l.target? := rfl
  cases h : l.target? with
  | none => rw [pull_of_none h, pull_of_none (htarget.trans h)]
  | some target =>
    obtain ⟨name, s⟩ := target
    cases hpull : FrameSource.pull l.cancel s with
    | mk result after =>
      rw [pull_of_some h hpull, pull_of_some (htarget.trans h) hpull]
      cases result <;> rfl

theorem handle_relabel (commands : List LoopCommand) (running : Bool) (c : LoopCommand)
    (l : PreviewLoop σ) :
    (l.relabel commands running).handle c = (l.handle c).relabel commands running := by
  cases h : l.phase with
  | idle =>
    cases c with
    | start width height =>
      cases hfits : (⟨width, height⟩ : FrameSize).fits with
      | false => simp [handle, relabel, h, hfits]
      | true => simpa [handle, relabel, h, hfits] using pull_relabel commands running l
    | _ => simp [handle, relabel, h]
  | waiting =>
    cases c with
    | attach source =>
      simpa [handle, relabel, h] using pull_relabel commands running { l with attached := some source }
    | start width height => simpa [handle, relabel, h] using pull_relabel commands running l
    | _ => simp [handle, relabel, h]
  | blocked => simp [handle, relabel, h]
  | exited => simp [handle, relabel, h]
  | dead => simp [handle, relabel, h]

theorem drain_relabel (waiting commands : List LoopCommand) (running : Bool) (l : PreviewLoop σ) :
    (l.relabel commands running).drain waiting = { l.drain waiting with running := running } := by
  induction waiting generalizing l with
  | nil => rfl
  | cons c rest ih =>
    have hphase : (l.relabel commands running).phase = l.phase := rfl
    have hhears : (l.relabel commands running).hears = l.hears := rfl
    by_cases hstop : l.phase = .blocked ∨ l.hears = false
    · rw [drain, drain, hphase, hhears, if_pos hstop, if_pos hstop]
      rfl
    · rw [drain, drain, hphase, hhears, if_neg hstop, if_neg hstop, handle_relabel, ih]

theorem handle_running (c : LoopCommand) (l : PreviewLoop σ) : (l.handle c).running = l.running := by
  have h := congrArg PreviewLoop.running (handle_relabel l.commands l.running c l)
  exact h

theorem drain_running (waiting : List LoopCommand) (l : PreviewLoop σ) :
    (l.drain waiting).running = l.running := by
  have h := congrArg PreviewLoop.running (drain_relabel waiting l.commands l.running l)
  exact h

/-- Only a start or the last command can take the worker away. -/
theorem hears_handle {c : LoopCommand} {l : PreviewLoop σ} (h : l.hears = true)
    (hc : c = .stop ∨ PreviewProtocol.isAttach c = true) : (l.handle c).hears = true := by
  cases hphase : l.phase with
  | exited | dead => simp [hears, hphase] at h
  | blocked => simpa [handle, hphase] using h
  | idle =>
    cases c with
    | attach source => simp [handle, hears, hphase]
    | stop => simp [handle, hears, hphase]
    | start | quit => simp [PreviewProtocol.isAttach] at hc
  | waiting =>
    cases c with
    | attach source => simpa [handle, hphase] using hears_of_session (pull_session _)
    | stop => simp [handle, hears, hphase]
    | start | quit => simp [PreviewProtocol.isAttach] at hc

theorem hears_drain {waiting : List LoopCommand} {l : PreviewLoop σ} (h : l.hears = true)
    (hwaiting : ∀ c ∈ waiting, c = .stop ∨ PreviewProtocol.isAttach c = true) :
    (l.drain waiting).hears = true := by
  induction waiting generalizing l with
  | nil => exact h
  | cons c rest ih =>
    rw [drain]
    split
    · exact h
    · exact ih (hears_handle h (hwaiting c List.mem_cons_self))
        fun d hd => hwaiting d (List.mem_cons_of_mem c hd)

end Worker

end PreviewLoop

/-- The turns that make the call. Nobody makes a pause. -/
def LoopCall.turns : LoopCall → List PreviewProtocol.Turn
  | attach source => [.attach source]
  | destroy source => [.destroy source]
  | start width height => [.start width height]
  | stop => [.stop]
  | pause => []

namespace PreviewProtocol

variable {σ : Type}

/-- The turn is a call, or the end of a source; what is left is how the parties go on. -/
def Turn.isCall : Turn → Bool
  | resume => false
  | work => false
  | _ => true

def WorkerStage.phase : WorkerStage → WorkerPhase
  | idle => .idle
  | pulling .waits => .blocked
  | exited => .exited
  | dying => .dead
  | mute => .dead
  | dead => .dead
  | _ => .waiting

/-- The parties as a loop. -/
def State.view (p : State σ) : PreviewLoop σ where
  sources := p.sources
  running := p.running
  cancel := p.cancel
  commands := p.commands
  attached := p.attached
  phase := p.worker.phase
  acks := acknowledgements p.log
  pulls := pulls p.log
  pushes := pushes p.log

attribute [simp] State.view State.receive stageAfter attachedAfter WorkerStage.phase PreviewLoop.relabel

/-- Where a worker stops that goes on as long as it can. -/
def Paused (p : State σ) : Prop :=
  (p.worker = .idle ∨ p.worker = .pausing) ∨
    (p.worker = .pulling .waits ∧ p.cancel = false ∨ p.worker.hears = false)

/-- The worker waits, for a command or for the flag, or it is at its end. -/
def Settled (p : State σ) : Prop :=
  (p.worker = .idle ∨ p.worker = .pausing) ∧ p.commands = [] ∨
    (p.worker = .pulling .waits ∧ p.cancel = false ∨ p.worker.hears = false)

/-- The parties stand as a loop does between two calls. -/
structure Follows (p : State σ) (l : PreviewLoop σ) : Prop where
  view : p.view = l
  settled : Settled p
  owner : p.owner = .ready

theorem Settled.paused {p : State σ} (h : Settled p) : Paused p := h.imp_left And.left

theorem hears_view_of_not_hears {p : State σ} (h : p.worker.hears = false) : p.view.hears = false := by
  cases hw : p.worker <;> simp_all [PreviewLoop.hears]

theorem Paused.hears_view {p : State σ} (h : Paused p) : p.view.hears = p.worker.hears := by
  rcases h with (hw | hw) | ⟨hw, -⟩ | hw
  · simp [PreviewLoop.hears, hw]
  · simp [PreviewLoop.hears, hw]
  · simp [PreviewLoop.hears, hw]
  · rw [hw, hears_view_of_not_hears hw]

/-- A worker that waits while a stop waits has answered it. -/
theorem acks_of_settled {names : List String} {p : State σ} (hp : Coherent names p) {last : Bool}
    (howner : p.owner = .awaiting last) (hsettled : Settled p) (hears : p.worker.hears = true) :
    p.acks = 1 := by
  obtain ⟨unanswered, haccord, -⟩ := hp.accord
  have hcancel : p.cancel = true := by
    rw [← hp.cancel, hp.stopping, howner]
    rfl
  rw [howner] at haccord
  rcases hsettled with ⟨hw, hnil⟩ | ⟨-, hclear⟩ | hw
  · rw [hnil] at haccord
    generalize p.running = running, p.worker = worker, p.acks = acks at haccord hw ⊢
    cases haccord with
    | answered => rfl
    | stopHandled => simp at hw
    | lost _ hlost => rcases hw with rfl | rfl <;> simp at hlost
    | stopped h => simp at h
    | serving ho => simp at ho
    | ended h => simp at h
  · rw [hcancel] at hclear
    cases hclear
  · rw [hears] at hw
    cases hw

theorem Follows.hears {p : State σ} {l : PreviewLoop σ} (h : Follows p l) :
    l.hears = p.worker.hears := by
  rw [← h.view]
  exact h.settled.paused.hears_view

theorem Follows.running {p : State σ} {l : PreviewLoop σ} (h : Follows p l) : p.running = l.running :=
  congrArg PreviewLoop.running h.view

/-- While a loop runs whose worker hears, at most sources wait to be attached. -/
theorem Follows.isAttach_of_running {names : List String} {p : State σ} {l : PreviewLoop σ}
    (h : Follows p l) (hp : Coherent names p) (hrunning : l.running = true)
    (hears : p.worker.hears = true) : ∀ c ∈ l.commands, isAttach c = true := by
  have hcommands : l.commands = p.commands := by
    rw [← h.view]
    rfl
  suffices hbounds : bounds p.commands = [] by simpa [bounds, hcommands] using hbounds
  obtain ⟨unanswered, haccord, -⟩ := hp.accord
  have hsettled := h.settled
  unfold Settled at hsettled
  rw [h.owner, h.running, hrunning] at haccord
  generalize hbounds : bounds p.commands = commands, p.worker = worker, p.acks = acks
    at haccord hsettled hears ⊢
  cases haccord with
  | startSent =>
    rcases hsettled with ⟨-, hnil⟩ | ⟨hw, -⟩ | hw
    · simp [hnil] at hbounds
    · simp at hw
    · simp at hw
  | serving => rfl
  | lost _ hlost =>
    rcases hsettled with ⟨rfl | rfl, -⟩ | ⟨rfl, -⟩ | hw
    · simp at hlost
    · simp at hlost
    · simp at hlost
    · exact absurd (hw.symm.trans hears) Bool.false_ne_true

theorem follows_spawn (sources : List (String × σ)) :
    Follows (State.spawn sources) (PreviewLoop.spawn sources) where
  view := rfl
  settled := .inl ⟨.inl rfl, rfl⟩
  owner := rfl

section Worker

variable [FrameSource σ] {names : List String} {p q r : State σ}

/-- Some turns lead from `p` to `q`, and these are the calls among them. -/
def Reaches (calls : List Turn) (p q : State σ) : Prop :=
  ∃ turns, turns.filter Turn.isCall = calls ∧ p.run turns = q

namespace Reaches

variable {calls calls' : List Turn}

theorem refl (p : State σ) : Reaches [] p p := ⟨[], rfl, rfl⟩

theorem trans (h : Reaches calls p q) (h' : Reaches calls' q r) : Reaches (calls ++ calls') p r := by
  obtain ⟨turns, rfl, rfl⟩ := h
  obtain ⟨more, rfl, rfl⟩ := h'
  exact ⟨turns ++ more, List.filter_append turns more, run_append p turns more⟩

/-- One of the parties goes on. -/
theorem goOn (p : State σ) {t : Turn} (ht : t.isCall = false) : Reaches [] p (p.step t) :=
  ⟨[t], by simp [ht], rfl⟩

theorem call (p : State σ) {t : Turn} (ht : t.isCall = true) : Reaches [t] p (p.step t) :=
  ⟨[t], by simp [ht], rfl⟩

theorem resume (p : State σ) : Reaches [] p (p.step .resume) := goOn p rfl

theorem work (p : State σ) : Reaches [] p p.work := goOn p (t := .work) rfl

theorem coherent (h : Reaches calls p q) (hp : Coherent names p) : Coherent names q := by
  obtain ⟨turns, -, rfl⟩ := h
  exact coherent_run hp turns

end Reaches

/-- The worker goes on, and nobody else does. -/
inductive Works (p : State σ) : State σ → Prop
  | refl : Works p p
  | next {q : State σ} (h : Works p q) : Works p q.work

namespace Works

theorem work (p : State σ) : Works p p.work := .next .refl

theorem trans (h : Works p q) (h' : Works q r) : Works p r := by
  induction h' with
  | refl => exact h
  | next _ ih => exact ih.next

theorem reaches (h : Works p q) : Reaches [] p q := by
  induction h with
  | refl => exact .refl p
  | next _ ih => exact ih.trans (.work _)

/-- The owner's side stays as it is. -/
theorem frame (h : Works p q) : q.owner = p.owner ∧ q.cancel = p.cancel ∧ q.running = p.running := by
  induction h with
  | refl => exact ⟨rfl, rfl, rfl⟩
  | @next q _ ih =>
    obtain ⟨howner, hcancel, hrunning, -⟩ := work_frame q
    exact ⟨howner.trans ih.1, hcancel.trans ih.2.1, hrunning.trans ih.2.2⟩

theorem owner (h : Works p q) : q.owner = p.owner := h.frame.1

end Works

/-- A pull that is due takes the worker to where it waits again. -/
theorem exists_pull (hw : p.worker = .due) :
    ∃ q, Works p q ∧ q.view = p.view.pull ∧ Paused q ∧ q.commands = p.commands := by
  have hwork : p.work = p.beginPull := by rw [State.work, hw]
  cases h : p.target? with
  | none =>
    have hview : p.view.pull = { p.view with phase := .waiting } := PreviewLoop.pull_of_none h
    refine ⟨p.work, .work p, ?_⟩
    rw [hwork, State.beginPull, h, hview]
    refine ⟨?_, .inl (.inr rfl), rfl⟩
    simp
  | some target =>
    obtain ⟨name, s⟩ := target
    cases hpull : FrameSource.pull p.cancel s with
    | mk result after =>
      have hview : p.view.pull = PreviewLoop.settle result
          { p.view with
            sources := PreviewLoop.replace name after p.sources
            pulls := pulls p.log ++ [⟨name, p.cancel, s, result, after⟩] } :=
        PreviewLoop.pull_of_some h hpull
      have hbegun : p.work = { p with
          sources := PreviewLoop.replace name after p.sources
          worker := .pulling result }.note (.pulled ⟨name, p.cancel, s, result, after⟩) := by
        rw [hwork, State.beginPull, h]
        simp only [hpull]
      rw [hview]
      cases result with
      | frame f =>
        refine ⟨p.work.work.work, ((Works.work p).trans (.work _)).trans (.work _), ?_⟩
        rw [hbegun]
        refine ⟨?_, .inl (.inr rfl), rfl⟩
        simp [-List.append_assoc, State.work, State.endPull, PreviewLoop.settle, PreviewLoop.push]
      | nothing =>
        refine ⟨p.work.work, (Works.work p).trans (.work _), ?_⟩
        rw [hbegun]
        refine ⟨?_, .inl (.inr rfl), rfl⟩
        simp [State.work, State.endPull, PreviewLoop.settle]
      | waits =>
        cases hcancel : p.cancel with
        | false =>
          refine ⟨p.work, .work p, ?_⟩
          rw [hbegun]
          refine ⟨?_, .inr (.inl ⟨rfl, hcancel⟩), rfl⟩
          simp [PreviewLoop.settle, hcancel]
        | true =>
          refine ⟨p.work.work, (Works.work p).trans (.work _), ?_⟩
          rw [hbegun]
          simp [State.work, State.endPull, PreviewLoop.settle, Paused, hcancel]

/-- The worker can obey the command and stand where it waits again, with the effect that the command has on a
loop. -/
def Handles (p : State σ) (c : LoopCommand) (rest : List LoopCommand) : Prop :=
  ∃ q, Works p q ∧ q.view = (p.view.handle c).relabel rest p.running ∧ Paused q ∧ q.commands = rest

/-- A command that leads to a pull is obeyed by that pull. -/
theorem handles_of_due {c : LoopCommand} {rest : List LoopCommand} {l : PreviewLoop σ}
    (hwork : p.work = p.receive c rest) (hdue : (p.receive c rest).worker = .due)
    (hview : (p.receive c rest).view = { l.relabel rest p.running with phase := .waiting })
    (hhandle : p.view.handle c = l.pull) : Handles p c rest := by
  obtain ⟨q, hworks, hq, hpaused, hrest⟩ := exists_pull hdue
  refine ⟨q, (hwork ▸ Works.work p).trans hworks, ?_, hpaused, hrest⟩
  rw [hq, hview, PreviewLoop.pull_phase, PreviewLoop.pull_relabel, hhandle]

theorem handles_of_idle (h : Coherent names p) {c : LoopCommand} {rest : List LoopCommand}
    (hcommands : p.commands = c :: rest) (hw : p.worker = .idle) : Handles p c rest := by
  obtain ⟨unanswered, haccord, -⟩ := h.accord
  rw [hcommands, hw] at haccord
  have hwork : p.work = p.receive c rest := by simp [State.work, hw, hcommands]
  have hphase : p.view.phase = .idle := congrArg WorkerStage.phase hw
  cases c with
  | attach source =>
    refine ⟨p.work, .work p, ?_, ?_, ?_⟩ <;> rw [hwork]
    · simp [hw, PreviewLoop.handle]
    · simp [Paused, hw]
    · rfl
  | start width height =>
    cases hfits : (⟨width, height⟩ : FrameSize).fits with
    | true =>
      refine handles_of_due (l := p.view) hwork ?_ ?_ ?_
      · simp [hfits]
      · simp [hfits]
      · simp only [PreviewLoop.handle, hphase, hfits, if_true]
    | false =>
      -- The worker is dead once it has gone on as far as it can.
      refine ⟨p.work.work.work, ((Works.work p).trans (.work _)).trans (.work _), ?_, ?_, ?_⟩ <;>
        rw [hwork]
      · simp [-List.append_assoc, State.work, PreviewLoop.handle, hw, hfits]
      · simp [State.work, Paused, hw, hfits]
      · simp [State.work, hw, hfits]
  | stop => exact absurd haccord Accord.not_stop
  | quit =>
    refine ⟨p.work, .work p, ?_, ?_, ?_⟩ <;> rw [hwork]
    · simp [hw, PreviewLoop.handle]
    · simp [Paused, hw]
    · rfl

theorem handles_of_pausing (h : Coherent names p) {c : LoopCommand} {rest : List LoopCommand}
    (hcommands : p.commands = c :: rest) (hw : p.worker = .pausing) : Handles p c rest := by
  obtain ⟨unanswered, haccord, -⟩ := h.accord
  rw [hcommands, hw] at haccord
  have hwork : p.work = p.receive c rest := by simp [State.work, hw, hcommands]
  have hphase : p.view.phase = .waiting := congrArg WorkerStage.phase hw
  cases c with
  | attach source =>
    refine handles_of_due (l := { p.view with attached := some source }) hwork ?_ ?_ ?_
    · simp [hw]
    · simp [hw]
    · simp only [PreviewLoop.handle, hphase]
  | start width height => exact absurd haccord (Accord.not_start rfl)
  | stop =>
    have hacks : p.acks = 0 := by
      rw [bounds_stop] at haccord
      generalize p.owner = owner, p.running = running, p.acks = acks, bounds rest = behind at haccord
      cases haccord with
      | stopSent => rfl
      | lost => rfl
    refine ⟨p.work.work, (Works.work p).trans (.work _), ?_, ?_, ?_⟩ <;> rw [hwork]
    · simp [-List.append_assoc, State.work, hacks, PreviewLoop.handle, hw]
    · simp [State.work, hacks, Paused]
    · simp [State.work, hacks]
  | quit => exact absurd haccord (Accord.not_quit rfl)

/-- Between two pulls and outside a session, the worker can obey. -/
theorem handles (h : Coherent names p) {c : LoopCommand} {rest : List LoopCommand}
    (hcommands : p.commands = c :: rest) (hw : p.worker = .idle ∨ p.worker = .pausing) : Handles p c rest :=
  hw.elim (handles_of_idle h hcommands) (handles_of_pausing h hcommands)

/-- The worker goes on until it waits, and has then done what an eager worker does. -/
theorem exists_drain (h : Coherent names p) (hp : Paused p) :
    ∃ q, Works p q ∧ q.view = p.view.drain p.commands ∧ Settled q := by
  generalize hcommands : p.commands = commands
  induction commands generalizing p with
  | nil =>
    refine ⟨p, .refl, ?_, ?_⟩
    · rw [PreviewLoop.drain, State.view, hcommands]
    · exact hp.imp_left fun hw => ⟨hw, hcommands⟩
  | cons c rest ih =>
    rcases hp with hw | hw
    · have hfree : ¬ (p.view.phase = .blocked ∨ p.view.hears = false) := by
        rcases hw with hw | hw <;> simp [PreviewLoop.hears, hw]
      obtain ⟨q, hworks, hview, hpaused, hrest⟩ := handles h hcommands hw
      obtain ⟨r, hworks', hview', hsettled⟩ := ih (hworks.reaches.coherent h) hpaused hrest
      refine ⟨r, hworks.trans hworks', ?_, hsettled⟩
      rw [hview', hview, PreviewLoop.drain_relabel, PreviewLoop.drain, if_neg hfree]
      have hrunning : ((p.view.handle c).drain rest).running = p.running :=
        (PreviewLoop.drain_running rest _).trans (PreviewLoop.handle_running c p.view)
      rw [← hrunning]
    · refine ⟨p, .refl, ?_, .inr hw⟩
      have hstuck : p.view.phase = .blocked ∨ p.view.hears = false :=
        hw.imp (fun hw => by simp [hw.1]) hears_view_of_not_hears
      rw [PreviewLoop.drain, if_pos hstuck, ← hcommands]
      rfl

/-! ## Calls -/

/-- A command that was sent is obeyed as by an eager worker. -/
theorem exists_sent (h : Coherent names p) (hp : Paused p) {l : PreviewLoop σ} {c : LoopCommand}
    {running : Bool} (hears : l.hears = true)
    (hview : p.view = l.relabel (l.commands ++ [c]) running) :
    ∃ q, Works p q ∧ q.view = { l.send c with running := running } ∧ Settled q := by
  obtain ⟨q, hworks, hq, hsettled⟩ := exists_drain h hp
  have hcommands : p.commands = l.commands ++ [c] := congrArg PreviewLoop.commands hview
  refine ⟨q, hworks, ?_, hsettled⟩
  rw [hq, hview, hcommands, PreviewLoop.drain_relabel, PreviewLoop.send_of_hears hears]

/-- A stop that need not wait any more returns. -/
theorem exists_returned {last : Bool} (howner : p.owner = .returning last) (hsettled : Settled p) :
    ∃ q, Reaches [] p q ∧ q.view = { p.view with cancel := false, running := false } ∧ Settled q ∧
      q.owner = if last then .quitting else .ready := by
  have hreturned : p.step .resume = { p with
      cancel := false
      running := false
      owner := if last then .quitting else .ready }.note .stopReturned := by
    simp [State.step, State.resume, howner]
  refine ⟨_, .resume p, ?_, ?_, ?_⟩ <;> rw [hreturned]
  · simp
  · exact hsettled.imp_right fun hw => hw.imp_left fun hw => ⟨hw.1, rfl⟩
  · rfl

section Resume

variable {width height : UInt32} {last : Bool}

theorem resume_starting_of_hears (howner : p.owner = .starting width height)
    (hears : p.worker.hears = true) : p.step .resume =
      { p with
        commands := p.commands ++ [LoopCommand.start width height]
        running := true
        owner := .ready
        log := p.log ++ [Event.sent (.start width height)] } := by
  simp only [State.step, State.resume, howner, State.send_of_hears hears, hears]
  rfl

theorem resume_starting_of_not_hears (howner : p.owner = .starting width height)
    (hears : p.worker.hears = false) :
    p.step .resume = { p with running := false, owner := .ready } := by
  simp only [State.step, State.resume, howner, State.send_of_not_hears hears, hears]

theorem resume_cancelling_of_hears (howner : p.owner = .cancelling last)
    (hears : p.worker.hears = true) : p.step .resume =
      { p with
        commands := p.commands ++ [LoopCommand.stop]
        owner := .awaiting last
        log := p.log ++ [Event.sent .stop] } := by
  simp only [State.step, State.resume, howner, State.send_of_hears hears, hears]
  rfl

theorem resume_cancelling_of_not_hears (howner : p.owner = .cancelling last)
    (hears : p.worker.hears = false) : p.step .resume = { p with owner := .returning last } := by
  simp only [State.step, State.resume, howner, State.send_of_not_hears hears, hears]
  rfl

/-- A stop that nobody hears returns at once. -/
theorem exists_returned_of_not_hears (howner : p.owner = .cancelling last) (hpaused : Paused p)
    (hears : p.worker.hears = false) :
    ∃ q, Reaches [] p q ∧ q.view = { p.view.send .stop with cancel := false, running := false } ∧
      Settled q ∧ q.owner = if last then .quitting else .ready := by
  have hresume := resume_cancelling_of_not_hears howner hears
  have hsettled : Settled (p.step .resume) := by
    rw [hresume]
    exact .inr (.inr hears)
  obtain ⟨q, hreturns, hq, hrest⟩ := exists_returned (by rw [hresume]) hsettled
  refine ⟨q, (Reaches.resume p).trans hreturns, ?_, hrest⟩
  rw [hq, hresume, PreviewLoop.send_of_not_hears (hpaused.hears_view.trans hears)]
  rfl

/-- A stop that is heard, with at most sources to attach before it, returns on its acknowledgement:
nothing that the worker handles until then takes it away. -/
theorem exists_returned_of_hears (h : Coherent names p) (howner : p.owner = .cancelling last)
    (hpaused : Paused p) (hears : p.worker.hears = true)
    (hattach : ∀ c ∈ p.commands, isAttach c = true) :
    ∃ q, Reaches [] p q ∧ q.view = { p.view.send .stop with cancel := false, running := false } ∧
      Settled q ∧ q.owner = if last then .quitting else .ready := by
  have hl : p.view.hears = true := hpaused.hears_view.trans hears
  have hresume := resume_cancelling_of_hears howner hears
  have hview : (p.step .resume).view = p.view.relabel (p.view.commands ++ [.stop]) p.running := by
    rw [hresume]
    simp
  have hpaused' : Paused (p.step .resume) := by
    rw [hresume]
    exact hpaused
  have hsent : Coherent names (p.step .resume) := (Reaches.resume p).coherent h
  obtain ⟨q, hworks, hq, hsettled⟩ := exists_sent hsent hpaused' hl hview
  have hawaiting : q.owner = .awaiting last := hworks.owner.trans (by rw [hresume])
  have hstill : q.worker.hears = true := by
    rw [← hsettled.paused.hears_view, hq, PreviewLoop.send_of_hears hl]
    refine PreviewLoop.hears_drain hl fun c hc => ?_
    rcases List.mem_append.mp hc with hc | hc
    · exact .inr (hattach c hc)
    · exact .inl (List.mem_singleton.mp hc)
  have hacks := acks_of_settled (hworks.reaches.coherent hsent) hawaiting hsettled hstill
  have hanswered : q.step .resume = { q with acks := 0, owner := .returning last } := by
    simp [State.step, State.resume, hawaiting, hacks]
  have hsettled' : Settled (q.step .resume) := by
    rw [hanswered]
    exact hsettled
  obtain ⟨r, hreturns, hr, hrest⟩ := exists_returned (by rw [hanswered]) hsettled'
  have hreaches := ((Reaches.resume p).trans hworks.reaches).trans (.resume q)
  refine ⟨r, hreaches.trans hreturns, ?_, hrest⟩
  have hqview : (q.step .resume).view = q.view := by
    rw [hanswered]
    rfl
  rw [hr, hqview, hq]

end Resume

namespace Follows

variable {l : PreviewLoop σ}

theorem attach (h : Follows p l) (hp : Coherent names p) (source : String) :
    ∃ q, Reaches [.attach source] p q ∧ Follows q (l.attach source) := by
  have hcall : Reaches [.attach source] p (p.send (.attach source)) := by
    have hstep : p.step (.attach source) = p.send (.attach source) := by
      simp [State.step, h.owner, OwnerPhase.isDropping]
    exact hstep ▸ .call p rfl
  cases hears : p.worker.hears with
  | false =>
    rw [State.send_of_not_hears hears] at hcall
    refine ⟨p, hcall, ?_⟩
    rwa [PreviewLoop.attach, PreviewLoop.send_of_not_hears (h.hears.trans hears)]
  | true =>
    have hl : l.hears = true := h.hears.trans hears
    have hsend := State.send_of_hears hears (.attach source)
    have hview : (p.send (.attach source)).view =
        l.relabel (l.commands ++ [.attach source]) l.running := by
      rw [hsend]
      simp [← h.view]
    have hpaused : Paused (p.send (.attach source)) := by
      rw [hsend]
      exact h.settled.paused
    obtain ⟨q, hworks, hq, hsettled⟩ := exists_sent (hp.attach source).coherent hpaused hl hview
    have howner : (p.send (.attach source)).owner = .ready := by
      rw [hsend]
      exact h.owner
    refine ⟨q, hcall.trans hworks.reaches, ?_, hsettled, hworks.owner.trans howner⟩
    rw [hq, PreviewLoop.attach, PreviewLoop.send_of_hears hl,
      ← PreviewLoop.drain_running (l.commands ++ [.attach source]) l]

theorem destroy (h : Follows p l) (source : String) :
    ∃ q, Reaches [.destroy source] p q ∧ Follows q (l.destroy source) := by
  refine ⟨p.destroy source, .call p (t := .destroy source) rfl, ?_, h.settled, h.owner⟩
  simp [State.destroy, PreviewLoop.destroy, ← h.view]

theorem start (h : Follows p l) (hp : Coherent names p) (width height : UInt32) :
    ∃ q, Reaches [.start width height] p q ∧ Follows q (l.start width height) := by
  have hcall := Reaches.call p (t := .start width height) rfl
  cases hl : l.running with
  | true =>
    have hstep : p.step (.start width height) = p := by simp [State.step, h.running, hl]
    refine ⟨p, by rwa [hstep] at hcall, ?_⟩
    rwa [PreviewLoop.start, if_pos hl]
  | false =>
    have hrunning : p.running = false := h.running.trans hl
    have hstep : p.step (.start width height) =
        { p with cancel := false, owner := .starting width height } := by
      simp [State.step, h.owner, hrunning]
    have howner : (p.step (.start width height)).owner = .starting width height := by rw [hstep]
    have hworker : (p.step (.start width height)).worker = p.worker := by rw [hstep]
    have hreaches := hcall.trans (.resume _)
    cases hears : p.worker.hears with
    | false =>
      rw [resume_starting_of_not_hears howner (hworker ▸ hears), hstep] at hreaches
      refine ⟨_, hreaches, ?_, ?_, rfl⟩
      · rw [PreviewLoop.start_of_not_hears hl (h.hears.trans hears), ← h.view, ← hrunning]
        rfl
      · exact h.settled.imp_right fun hw => hw.imp_left fun hw => ⟨hw.1, rfl⟩
    | true =>
      have hresume := resume_starting_of_hears howner (hworker ▸ hears)
      have hpaused : Paused ((p.step (.start width height)).step .resume) := by
        rw [hresume, hstep]
        exact h.settled.paused.imp_right fun hw => hw.imp_left fun hw => ⟨hw.1, rfl⟩
      have hview : ((p.step (.start width height)).step .resume).view =
          { l with cancel := false }.relabel (l.commands ++ [LoopCommand.start width height]) true := by
        rw [hresume, hstep]
        simp [← h.view]
      have hheard : ({ l with cancel := false } : PreviewLoop σ).hears = true := h.hears.trans hears
      obtain ⟨q, hworks, hq, hsettled⟩ := exists_sent (hreaches.coherent hp) hpaused hheard hview
      refine ⟨q, hreaches.trans hworks.reaches, ?_, hsettled, hworks.owner.trans (by rw [hresume])⟩
      rw [hq, PreviewLoop.start, hl, h.hears.trans hears]
      rfl

theorem pause (h : Follows p l) : ∃ q, Reaches [] p q ∧ Follows q l.tick := by
  have hphase : l.phase = p.worker.phase := by rw [← h.view]; rfl
  have hcommands : l.commands = p.commands := by rw [← h.view]; rfl
  have hstill (hw : p.worker.phase ≠ .waiting) : ∃ q, Reaches [] p q ∧ Follows q l.tick := by
    refine ⟨p, .refl p, ?_⟩
    rwa [PreviewLoop.tick, hphase, if_neg fun hwait => hw hwait.1]
  rcases h.settled with ⟨hw | hw, hnil⟩ | ⟨hw, -⟩ | hw
  · exact hstill (by simp [hw])
  · have hdue : p.work = { p with worker := .due } := by simp [State.work, hw, hnil]
    have hview : p.work.view = l := by
      rw [hdue, ← h.view]
      simp [hw]
    obtain ⟨q, hworks, hq, hpaused, hrest⟩ := exists_pull (p := p.work) (by rw [hdue])
    have hwaits : l.phase = .waiting ∧ l.commands = [] := by
      rw [hphase, hcommands, hw]
      exact ⟨rfl, hnil⟩
    have howner : q.owner = .ready := by rw [hworks.owner, hdue, h.owner]
    refine ⟨q, (Reaches.work p).trans hworks.reaches, ?_, ?_, howner⟩
    · rw [hq, hview, PreviewLoop.tick, if_pos hwaits]
    · exact hpaused.imp_left fun hw => ⟨hw, by rw [hrest, hdue, hnil]⟩
  · exact hstill (by simp [hw])
  · have hunheard : l.hears = false := h.hears.trans hw
    refine hstill fun hwait => ?_
    rw [PreviewLoop.hears_of_session (.inl (hphase.trans hwait))] at hunheard
    cases hunheard

/-- A pull that waits is given up when the flag is set. -/
theorem exists_unblocked (h : Follows p l) (last : Bool) :
    ∃ q, Works (p.callStop last) q ∧ q.view = { l with cancel := true }.unblock ∧ Paused q ∧
      q.worker.hears = p.worker.hears := by
  have hview : (p.callStop last).view = { l with cancel := true } := by
    simp [State.callStop, ← h.view]
  have hphase : l.phase = p.worker.phase := by
    rw [← h.view]
    rfl
  rcases h.settled.paused with hw | ⟨hw, -⟩ | hw
  · refine ⟨_, .refl, ?_, .inl hw, rfl⟩
    rw [hview, PreviewLoop.unblock, if_neg]
    rcases hw with hw | hw <;> simp [hphase, hw]
  · refine ⟨_, .work _, ?_, .inl (.inr ?_), ?_⟩
    · rw [PreviewLoop.unblock, if_pos (hphase.trans (by rw [hw]; rfl)), ← hview]
      simp [State.work, State.callStop, State.endPull, hw]
    · simp [State.work, State.callStop, State.endPull, hw]
    · simp [State.work, State.callStop, State.endPull, hw]
  · refine ⟨_, .refl, ?_, .inr (.inr hw), rfl⟩
    have hunheard : l.hears = false := h.hears.trans hw
    rw [hview, PreviewLoop.unblock, if_neg]
    intro hblocked
    have hheard : l.hears = true := PreviewLoop.hears_of_session (.inr hblocked)
    rw [hunheard] at hheard
    cases hheard

/-- A stop of a running loop, from where the flag is set. -/
theorem exists_stopped (h : Follows p l) (hp : Coherent names p) (hrunning : l.running = true)
    (last : Bool) :
    ∃ q, Reaches [] (p.callStop last) q ∧ q.view = l.stop ∧ Settled q ∧
      q.owner = if last then .quitting else .ready := by
  have hcalled : Coherent names (p.callStop last) :=
    (hp.callStop h.owner (h.running.trans hrunning) last).coherent
  obtain ⟨p₁, hworks, hfree, hpaused, hsame⟩ := h.exists_unblocked last
  have howner : p₁.owner = .cancelling last := hworks.owner
  rw [PreviewLoop.stop, if_pos hrunning, ← hfree]
  obtain ⟨q, hreturns, hq⟩ : ∃ q, Reaches [] p₁ q ∧
      q.view = { p₁.view.send .stop with cancel := false, running := false } ∧ Settled q ∧
      q.owner = if last then .quitting else .ready := by
    cases hears : p.worker.hears with
    | false => exact exists_returned_of_not_hears howner hpaused (hsame.trans hears)
    | true =>
      have hcommands : p₁.commands = l.commands := by
        change p₁.view.commands = l.commands
        rw [hfree, PreviewLoop.unblock]
        split <;> rfl
      refine exists_returned_of_hears (hworks.reaches.coherent hcalled) howner hpaused
        (hsame.trans hears) ?_
      rw [hcommands]
      exact h.isAttach_of_running hp hrunning hears
  exact ⟨q, hworks.reaches.trans hreturns, hq⟩

theorem stop (h : Follows p l) (hp : Coherent names p) :
    ∃ q, Reaches [.stop] p q ∧ Follows q l.stop := by
  have hcall := Reaches.call p (t := .stop) rfl
  cases hl : l.running with
  | false =>
    have hstep : p.step .stop = p := by simp [State.step, h.running, hl]
    refine ⟨p, by rwa [hstep] at hcall, ?_⟩
    rwa [PreviewLoop.stop, if_neg (Bool.eq_false_iff.mp hl)]
  | true =>
    have hstep : p.step .stop = p.callStop false := by simp [State.step, h.owner, h.running, hl]
    obtain ⟨q, hreaches, hq, hsettled, howner⟩ := h.exists_stopped hp hl false
    exact ⟨q, (hstep ▸ hcall).trans hreaches, hq, hsettled, howner⟩

theorem make (h : Follows p l) (hp : Coherent names p) (call : LoopCall) :
    ∃ q, Reaches call.turns p q ∧ Follows q (l.make call) := by
  cases call with
  | attach source => exact h.attach hp source
  | destroy source => exact h.destroy source
  | start width height => exact h.start hp width height
  | stop => exact h.stop hp
  | pause => exact h.pause

theorem makeAll (h : Follows p l) (hp : Coherent names p) (calls : List LoopCall) :
    ∃ q, Reaches (calls.flatMap LoopCall.turns) p q ∧ Follows q (l.makeAll calls) := by
  induction calls generalizing p l with
  | nil => exact ⟨p, .refl p, h⟩
  | cons call calls ih =>
    obtain ⟨q, hreaches, hq⟩ := h.make hp call
    obtain ⟨r, hreaches', hr⟩ := ih hq (hreaches.coherent hp)
    exact ⟨r, hreaches.trans hreaches', hr⟩

/-- The owner drops the loop. -/
theorem shutDown (h : Follows p l) (hp : Coherent names p) :
    ∃ q, Reaches [.drop] p q ∧ q.view = l.shutDown := by
  obtain ⟨p₁, hreaches, hview, hsettled, howner⟩ :
      ∃ p₁, Reaches [.drop] p p₁ ∧ p₁.view = l.stop ∧ Settled p₁ ∧ p₁.owner = .quitting := by
    have hcall := Reaches.call p (t := .drop) rfl
    cases hl : l.running with
    | false =>
      have hstep : p.step .drop = { p with owner := .quitting } := by
        simp [State.step, h.owner, h.running, hl]
      refine ⟨_, hcall, ?_⟩
      rw [hstep, PreviewLoop.stop, hl]
      exact ⟨h.view, h.settled, rfl⟩
    | true =>
      have hstep : p.step .drop = p.callStop true := by simp [State.step, h.owner, h.running, hl]
      obtain ⟨q, hreaches, hq, hsettled, howner⟩ := h.exists_stopped hp hl true
      exact ⟨q, (hstep ▸ hcall).trans hreaches, hq, hsettled, howner⟩
  have hresume : p₁.step .resume = { p₁.send .quit with owner := .joining } := by
    simp only [State.step, State.resume, howner]
  have hreaches' := hreaches.trans (.resume _)
  have hears : p₁.worker.hears = l.stop.hears := by
    rw [← hview]
    exact hsettled.paused.hears_view.symm
  cases hl : l.stop.hears with
  | false =>
    rw [State.send_of_not_hears (hears.trans hl)] at hresume
    refine ⟨_, hreaches', ?_⟩
    rw [hresume, PreviewLoop.shutDown, PreviewLoop.send_of_not_hears hl]
    exact hview
  | true =>
    rw [State.send_of_hears (hears.trans hl)] at hresume
    have hquit : (p₁.step .resume).view = l.stop.relabel (l.stop.commands ++ [.quit]) l.stop.running := by
      rw [hresume, ← hview]
      simp
    have hpaused : Paused (p₁.step .resume) := by
      rw [hresume]
      exact hsettled.paused
    obtain ⟨q, hworks, hq, -⟩ := exists_sent (hreaches'.coherent hp) hpaused hl hquit
    refine ⟨q, hreaches'.trans hworks.reaches, ?_⟩
    rw [hq, PreviewLoop.shutDown, PreviewLoop.send_of_hears hl,
      ← PreviewLoop.drain_running (l.stop.commands ++ [.quit]) l.stop]

end Follows

/-- Some list of turns with the same calls comes to what the calls come to on a loop, before the loop is
dropped and after. -/
theorem exists_turns_of_calls (sources : List (String × σ)) (calls : List LoopCall) :
    (∃ q, Reaches (calls.flatMap LoopCall.turns) (State.spawn sources) q ∧
      q.view = (PreviewLoop.spawn sources).makeAll calls) ∧
    ∃ q, Reaches (calls.flatMap LoopCall.turns ++ [.drop]) (State.spawn sources) q ∧
      q.view = ((PreviewLoop.spawn sources).makeAll calls).shutDown := by
  have hspawn := coherent_spawn sources
  obtain ⟨q, hreaches, hq⟩ := (follows_spawn sources).makeAll hspawn calls
  obtain ⟨r, hreaches', hr⟩ := hq.shutDown (hreaches.coherent hspawn)
  exact ⟨⟨q, hreaches, hq.view⟩, r, hreaches.trans hreaches', hr⟩

end Worker

end PreviewProtocol

end VideoCapture
