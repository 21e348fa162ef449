import VideoCapture.Proofs.Preview.Progress
import VideoCapture.Proofs.Preview.Schedules
import VideoCapture.Scripted.Source

/-!
# Sessions of a preview loop

A session begins with an effective start and ends when the next effective stop returns, be it a stop or
the drop of the loop. What a session is worth to the owner of the loop is the same under every list of
turns: when sources are pulled and which, what reaches the display, and how the owner finds the parties
afterwards.

## Main definitions

* `Quiet` — how the end of a session leaves the parties.
* `Sessions` — what holds of the sessions so far and of the one that goes on.

The main statement is `preview_sessions`.
-/

namespace VideoCapture.PreviewProtocol

variable {σ : Type}

/-- Nothing is left of a session: the flag is clear, no acknowledgement is under way, and every frame that
was pulled has been pushed. A worker that has not died stands as told, and at most sources wait to be
attached. -/
structure Quiet (p : State σ) (worker : WorkerStage) : Prop where
  cancel : p.cancel = false
  acks : p.acks = 0
  pushes : frames p.log = (pushes p.log).map Push.frame
  alive : .died ∉ p.log → p.worker = worker ∧ ∀ c ∈ p.commands, isAttach c = true

/-- What the owner of a loop over the sources `names` may rely on. -/
structure Sessions [FrameSource σ] (names : List String) (p : State σ) : Prop where
  /-- A source is pulled inside a session only; it is the one attached last and still exists; and it sees
  the flag set just while a stop waits. -/
  pulled : ∀ before r after, p.log = before ++ .pulled r :: after →
    running before = true ∧ attachedIn before = some r.source ∧ Standing names before r.source ∧
      r.cancelled = stopping before
  /-- Commands take effect in the order in which they were sent. -/
  ordered : handled p.log <+: sent p.log
  /-- What the worker does next after an attachment in a session is to pull that source, if it exists. -/
  attachPulled : ∀ before e after source, p.log = before ++ e :: after →
    lastWork? before = some (.handled (.attach source)) → serving before = true → e.isWork = true →
      (∃ r, e = .pulled r ∧ r.source = source) ∨ e = .passed ∧ ¬ Standing names before source
  /-- And it does so at its next turn. -/
  attachDue : ∀ source, lastWork? p.log = some (.handled (.attach source)) → serving p.log = true →
    ∃ e, (p.step .work).log = p.log ++ [e] ∧
      ((∃ r, e = .pulled r ∧ r.source = source) ∨ e = .passed ∧ ¬ Standing names p.log source)
  /-- The frames that were pulled are pushed, each once and in order, and nothing else is; the last may
  still be under way. -/
  pushed : frames p.log = (pushes p.log).map Push.frame ++ p.worker.unpushed
  /-- Every push is local, and counts one active device. -/
  own : ∀ push ∈ pushes p.log, push.isLocal = true ∧ push.active = 1
  startIgnored : running p.log = true → ∀ width height, p.step (.start width height) = p
  stopIgnored : running p.log = false → p.step .stop = p
  /-- When a stop begins and the worker lives, all sessions but the one that it ends have been
  acknowledged. -/
  stopCalled : ∀ before after, p.log = before ++ .stopCalled :: after →
    running before = true ∧ (.died ∉ before → acknowledgements before + 1 = starts before)
  /-- While it waits no session begins. One is acknowledged, so it returns on that; or the worker has died,
  and none is. -/
  stopReturned : ∀ before between after,
    p.log = before ++ .stopCalled :: (between ++ .stopReturned :: after) → .stopReturned ∉ between →
      starts between = 0 ∧ (.died ∉ before ++ between → acknowledgements between = 1) ∧
        (.died ∈ before ++ between → acknowledgements between = 0)
  /-- A stop that waits returns, whatever else goes on, if both parties go on often enough. -/
  stopReturns : ∀ last, p.owner = .awaiting last → ∀ turns, Fair p turns →
    ∃ now, now <+: turns ∧ stopping (p.run now).log = false
  stopped : p.owner = .ready → running p.log = false → Quiet p .idle
  dropEnds : p.owner = .joining → ∀ turns, Fair p turns →
    ∃ now, now <+: turns ∧ (p.run now).owner = .gone
  dropped : p.owner = .gone → running p.log = false ∧ Quiet p .exited
  /-- A worker lives whose sessions all have room for a frame. -/
  lives : (∀ width height, .start width height ∈ sent p.log →
    (⟨width, height⟩ : FrameSize).byteLength < roomLimit) → .died ∉ p.log
  /-- The worker dies of a session without room for a frame and of nothing else, and is silent from then
  on. -/
  died : ∀ before after, p.log = before ++ .died :: after →
    Doomed before ∧ ∀ e ∈ after, e.isWork = false
  /-- It does so at its next turn, and at the one after that it stops to hear commands. -/
  dies : Doomed p.log →
    (p.step .work).log = p.log ++ [.died] ∧ ((p.step .work).step .work).worker = .dead
  /-- From then on nothing is sent, so no session begins. -/
  unheard : p.worker = .dead → ∀ turns, sent (p.run turns).log = sent p.log ∧
    (running p.log = false → running (p.run turns).log = false)

section Log

variable {names : List String} {log : List (Event σ)}

/-- Only the return of a stop ends a session. -/
theorem running_append (hrunning : running log = true) {more : List (Event σ)}
    (hmore : .stopReturned ∉ more) : running (log ++ more) = true := by
  rw [running, List.foldl_append, ← running, hrunning]
  clear hrunning
  induction more with
  | nil => rfl
  | cons e more ih =>
    rw [List.mem_cons, not_or] at hmore
    have he : Event.runningAfter true e = true := by
      cases e with
      | sent c => cases c <;> rfl
      | stopReturned => exact absurd rfl hmore.1
      | _ => rfl
    rw [List.foldl_cons, he, ih hmore.2]

/-- No session begins while a stop waits. -/
theorem Lawful.starts_eq_zero (h : Lawful names log) {before between after : List (Event σ)}
    (hlog : log = before ++ .stopCalled :: (between ++ after)) (hbetween : .stopReturned ∉ between) :
    starts between = 0 := by
  obtain ⟨hrunning, -⟩ := (h before .stopCalled _ hlog).stopCalled rfl
  refine List.countP_eq_zero.mpr fun e he hstart => ?_
  obtain ⟨first, rest, rfl⟩ := List.append_of_mem he
  have hstopped : running (before ++ .stopCalled :: first) = false :=
    (h _ e (rest ++ after) (by simp [hlog])).started hstart
  have hfirst : .stopReturned ∉ .stopCalled :: first := by
    simp only [List.mem_append, not_or] at hbetween
    simp [hbetween.1]
  rw [running_append hrunning hfirst] at hstopped
  cases hstopped

/-- After its death the worker is silent. -/
theorem Lawful.silent (h : Lawful names log) {before after : List (Event σ)}
    (hlog : log = before ++ .died :: after) : ∀ e ∈ after, e.isWork = false := by
  intro e he
  obtain ⟨first, rest, rfl⟩ := List.append_of_mem he
  exact (h (before ++ .died :: first) e rest (by simp [hlog])).silent (by simp)

theorem acknowledgements_of_silent {more : List (Event σ)} (h : ∀ e ∈ more, e.isWork = false) :
    acknowledgements more = 0 := by
  refine List.countP_eq_zero.mpr fun e he hack => ?_
  have hwork := h e he
  cases e with
  | acknowledged => cases hwork
  | _ => cases hack

theorem Doomed.exists_handled (h : Doomed log) : ∃ width height, .start width height ∈ handled log ∧
    roomLimit ≤ (⟨width, height⟩ : FrameSize).byteLength := by
  obtain ⟨width, height, hlast, hlong⟩ := h
  have hmem := (List.mem_filter.mp (List.mem_of_getLast? hlast)).1
  exact ⟨width, height, List.mem_filterMap.mpr ⟨_, hmem, rfl⟩, hlong⟩

/-- A stop returns on the acknowledgement of the session that it ends, if the worker lives. -/
theorem Lawful.one_acknowledgement (h : Lawful names log) {before between after : List (Event σ)}
    (hlog : log = before ++ .stopCalled :: (between ++ .stopReturned :: after))
    (hbetween : .stopReturned ∉ between) (halive : .died ∉ before ++ between) :
    acknowledgements between = 1 := by
  have hnone : .died ∉ before ++ .stopCalled :: between := by simpa using halive
  have hcalled := ((h before .stopCalled _ hlog).stopCalled rfl).2
    fun hmem => halive (List.mem_append_left between hmem)
  have hreturned : acknowledgements (before ++ .stopCalled :: between) =
      starts (before ++ .stopCalled :: between) :=
    (h _ .stopReturned after (by simp [hlog])).stopReturned rfl hnone
  have hstarts := h.starts_eq_zero hlog hbetween
  simp only [starts, acknowledgements, List.countP_append, List.countP_cons, Event.isStart,
    Event.isAcknowledgement, Bool.false_eq_true, if_false] at hcalled hreturned hstarts ⊢
  omega

/-- A worker that dies leaves its session unacknowledged. -/
theorem Lawful.no_acknowledgement (h : Lawful names log) {before between after : List (Event σ)}
    (hlog : log = before ++ .stopCalled :: (between ++ .stopReturned :: after))
    (hbetween : .stopReturned ∉ between) (hdied : .died ∈ before ++ between) :
    acknowledgements between = 0 := by
  by_cases hbefore : .died ∈ before
  · obtain ⟨first, rest, rfl⟩ := List.append_of_mem hbefore
    have hsplit : log =
        first ++ .died :: (rest ++ .stopCalled :: (between ++ .stopReturned :: after)) := by
      simp [hlog]
    exact acknowledgements_of_silent fun e he => h.silent hsplit e (by simp [he])
  · obtain ⟨first, rest, rfl⟩ := List.append_of_mem ((List.mem_append.mp hdied).resolve_left hbefore)
    have hcalled := ((h before .stopCalled _ hlog).stopCalled rfl).2 hbefore
    -- Up to the death nothing is acknowledged, and no other session begins.
    have hsplit : log =
        (before ++ .stopCalled :: first) ++ .died :: (rest ++ .stopReturned :: after) := by
      simp [hlog]
    have hdeath := ((h _ .died _ hsplit).died rfl).2
    have hstarts : starts first = 0 := by
      rw [List.append_assoc, List.cons_append] at hsplit
      exact h.starts_eq_zero hsplit fun hmem => hbetween (List.mem_append_left _ hmem)
    have hrest : acknowledgements rest = 0 :=
      acknowledgements_of_silent fun e he => h.silent hsplit e (by simp [he])
    simp only [starts, acknowledgements, List.countP_append, List.countP_cons, Event.isStart,
      Event.isAcknowledgement, Bool.false_eq_true, if_false] at hcalled hdeath hstarts hrest ⊢
    omega

end Log

namespace Coherent

variable {names : List String} {p : State σ}

theorem quiet_of_ready (h : Coherent names p) (howner : p.owner = .ready)
    (hstopped : PreviewProtocol.running p.log = false) : Quiet p .idle := by
  obtain ⟨unanswered, haccord, -⟩ := h.accord
  have hcancel : p.cancel = false := by rw [← h.cancel, h.stopping, howner]; rfl
  have hframes := h.frames
  have hdied := h.died
  rw [howner, ← h.running, hstopped] at haccord
  generalize hcommands : bounds p.commands = commands, hw : p.worker = worker, hacks : p.acks = acks
    at haccord hframes hdied
  cases haccord with
  | stopped =>
    refine ⟨hcancel, hacks, by simpa using hframes, fun _ => ⟨hw, ?_⟩⟩
    simpa [bounds] using hcommands
  | lost _ hlost =>
    refine ⟨hcancel, hacks, ?_, fun halive => absurd (hdied.mpr hlost) halive⟩
    rw [hframes, WorkerStage.unpushed_of_isLost hlost, List.append_nil]
  | ended h => simp at h

theorem quiet_of_gone (h : Coherent names p) (howner : p.owner = .gone) :
    PreviewProtocol.running p.log = false ∧ Quiet p .exited := by
  obtain ⟨unanswered, haccord, -⟩ := h.accord
  have hcancel : p.cancel = false := by rw [← h.cancel, h.stopping, howner]; rfl
  have hframes := h.frames
  have hdied := h.died
  rw [howner, ← h.running] at haccord
  generalize hrunning : PreviewProtocol.running p.log = running, hcommands : bounds p.commands = commands,
    hw : p.worker = worker, hacks : p.acks = acks at haccord hframes hdied
  cases haccord with
  | ended =>
    refine ⟨rfl, hcancel, hacks, by simpa using hframes, fun _ => ⟨hw, ?_⟩⟩
    simpa [bounds] using hcommands
  | lost ho hlost =>
    refine ⟨ho, hcancel, hacks, ?_, fun halive => absurd (hdied.mpr hlost) halive⟩
    rw [hframes, WorkerStage.unpushed_of_isLost hlost, List.append_nil]
  | stopped h => simp at h
  | startSent ho => simp at ho
  | serving ho => simp at ho

section Worker

variable [FrameSource σ]

/-- A source that was attached in a session is pulled at the next turn of the worker. -/
theorem pull_of_attach (h : Coherent names p) {source : String}
    (hlast : lastWork? p.log = some (.handled (.attach source)))
    (hserving : PreviewProtocol.serving p.log = true) :
    ∃ e, (p.step .work).log = p.log ++ [e] ∧
      ((∃ r, e = .pulled r ∧ r.source = source) ∨ e = .passed ∧ ¬ Standing names p.log source) := by
  obtain ⟨hdue, -⟩ := h.due source hlast (h.serving ▸ hserving)
  obtain ⟨e, hlog, hwork⟩ : ∃ e, p.work.log = p.log ++ [e] ∧ e.isWork = true := by
    rw [State.work, hdue]
    cases htarget : p.target? with
    | none => exact ⟨.passed, by simp [State.beginPull, htarget], rfl⟩
    | some target => simp [State.beginPull, htarget]
  refine ⟨e, hlog, ?_⟩
  rcases h.work.log with hsame | ⟨e', hlog', hpermitted⟩
  · simp [hsame] at hlog
  · obtain rfl : e' = e := by simpa [hlog'] using hlog
    exact hpermitted.attached source hlast hserving hwork

theorem dies_of_doomed (h : Coherent names p) (hdoomed : Doomed p.log) :
    (p.step .work).log = p.log ++ [.died] ∧ ((p.step .work).step .work).worker = .dead := by
  have hdying : p.worker = .dying := h.doomed.mp hdoomed
  simp [State.step, State.work, hdying]

/-- Nothing is sent to a dead worker, so no session begins any more. -/
theorem step_of_dead (hw : p.worker = .dead) (t : Turn) :
    (p.step t).worker = .dead ∧ sent (p.step t).log = sent p.log ∧
      (p.running = false → (p.step t).running = false) := by
  have hunheard : p.worker.hears = false := by rw [hw]; rfl
  cases t with
  | attach source => simp [State.step, State.send_of_not_hears hunheard, hw]
  | destroy source => simp [State.step, State.destroy, hw]
  | start width height =>
    rw [State.step]
    split <;> exact ⟨hw, rfl, id⟩
  | stop =>
    rw [State.step]
    split <;> simp [State.callStop, hw]
  | drop =>
    rw [State.step]
    split
    · split <;> simp [State.callStop, hw]
    · exact ⟨hw, rfl, id⟩
  | work => simp [State.step, State.work, hw]
  | resume =>
    cases howner : p.owner with
    | awaiting last =>
      simp only [State.step, State.resume, howner, hw]
      split
      · exact ⟨rfl, rfl, id⟩
      · exact ⟨rfl, rfl, id⟩
    | _ => simp [State.step, State.resume, State.send_of_not_hears hunheard, howner, hw]

theorem run_of_dead (hw : p.worker = .dead) (turns : List Turn) :
    (p.run turns).worker = .dead ∧ sent (p.run turns).log = sent p.log ∧
      (p.running = false → (p.run turns).running = false) := by
  induction turns generalizing p with
  | nil => exact ⟨hw, rfl, id⟩
  | cons t turns ih =>
    obtain ⟨hdead, hsent, hstill⟩ := step_of_dead hw t
    obtain ⟨hdead', hsent', hstill'⟩ := ih hdead
    exact ⟨hdead', hsent'.trans hsent, fun hstopped => hstill' (hstill hstopped)⟩

/-- Coherence is all that the sessions need. -/
theorem sessions (h : Coherent names p) (hlog : Lawful names p.log) : Sessions names p where
  pulled before r after heq := (hlog before _ after heq).pulled r rfl
  ordered := ⟨p.commands, h.queue⟩
  attachPulled before e after source heq := (hlog before e after heq).attached source
  attachDue _ := h.pull_of_attach
  pushed := h.frames
  own := h.own
  startIgnored hrunning width height := by
    have hp : p.running = true := h.running ▸ hrunning
    simp [State.step, hp]
  stopIgnored hstopped := by
    have hp : p.running = false := h.running ▸ hstopped
    simp [State.step, hp]
  stopCalled before after heq := (hlog before _ after heq).stopCalled rfl
  stopReturned before between after heq hbetween :=
    ⟨hlog.starts_eq_zero heq hbetween, hlog.one_acknowledgement heq hbetween,
      hlog.no_acknowledgement heq hbetween⟩
  stopReturns last howner turns := h.stop_returns howner
  stopped := h.quiet_of_ready
  dropEnds howner turns := h.drop_ends howner
  dropped := h.quiet_of_gone
  lives hfits hdied := by
    obtain ⟨before, after, heq⟩ := List.append_of_mem hdied
    obtain ⟨width, height, hstart, hlong⟩ := ((hlog before .died after heq).died rfl).1.exists_handled
    have hhandled : .start width height ∈ handled p.log := by
      rw [heq, handled, List.filterMap_append]
      exact List.mem_append_left _ hstart
    have hsent : .start width height ∈ sent p.log := h.queue ▸ List.mem_append_left _ hhandled
    exact absurd hlong (Nat.not_le.mpr (hfits width height hsent))
  died before after heq := ⟨((hlog before .died after heq).died rfl).1, hlog.silent heq⟩
  dies := h.dies_of_doomed
  unheard hw turns := by
    obtain ⟨-, hsent, hstill⟩ := run_of_dead hw turns
    refine ⟨hsent, fun hstopped => ?_⟩
    rw [(coherent_run h turns).running]
    exact hstill (h.running.symm.trans hstopped)

end Worker

end Coherent

theorem lawful_nil (names : List String) : Lawful names ([] : List (Event σ)) := by
  intro before e after h
  simp at h

/-- Whatever turns the owner, the worker and the ends of sources take, the owner may rely on the sessions, and
on what becomes of them when the worker dies. And whatever calls are made to a loop, pauses between pulls
included, they come to what the same calls come to under some such turns, before the loop is dropped and
after. -/
theorem preview_sessions [FrameSource σ] (sources : List (String × σ)) :
    (∀ turns, Sessions (sources.map Prod.fst) ((State.spawn sources).run turns)) ∧
      ∀ calls,
        (∃ p, Reaches (calls.flatMap LoopCall.turns) (State.spawn sources) p ∧
          p.view = (PreviewLoop.spawn sources).makeAll calls) ∧
        ∃ p, Reaches (calls.flatMap LoopCall.turns ++ [.drop]) (State.spawn sources) p ∧
          p.view = ((PreviewLoop.spawn sources).makeAll calls).shutDown := by
  refine ⟨fun turns => ?_, exists_turns_of_calls sources⟩
  have hspawn := coherent_spawn sources
  exact (coherent_run hspawn turns).sessions (lawful_run hspawn (lawful_nil _) turns)

/-- A session without room for a frame: its stop returns without an acknowledgement, and a start after it comes
to nothing. -/
theorem stop_without_acknowledgement :
    let p := (State.spawn ([] : List (String × Scripted.Source))).run
      [.start 3037000500 3037000500, .resume, .work, .work, .work, .stop, .resume, .resume, .start 2 2,
        .resume]
    p.owner = .ready ∧ starts p.log = 1 ∧ acknowledgements p.log = 0 ∧ running p.log = false := by
  decide

/-- The stop finds the worker in a pull that waits, and a source attached after the flag was set is still
pulled before the stop returns. -/
example :
    let source : Scripted.Source := { size := ⟨2, 2⟩, fill := 0, left := 0, waits := true }
    let p := (State.spawn [("left", source), ("right", source)]).run
      [.attach "left", .work, .start 2 2, .resume, .work, .work, .stop, .attach "right", .resume, .work,
        .work, .work, .work, .work, .work, .resume, .resume]
    (pulls p.log).map (fun r => (r.source, r.cancelled)) = [("left", false), ("right", true)] ∧
      p.owner = .ready := by
  decide

end VideoCapture.PreviewProtocol
