import VideoCapture.PreviewLoop
import VideoCapture.Proofs.Steady
import VideoCapture.Scripted.Camera

/-!
# The preview loop follows the consumers

The preview loop runs exactly while the preview has the device to itself, and at the size of the
open device, until a session at a size without room for a frame has cost it its worker. It reaches a backend
at no other time. Whatever else opens or closes the device stops it first, and starts it again only when a
device is open.

## Main definitions

* `Call.Moves` — the call opens or closes a device.
* `PreviewLoop.obey` — what the log makes of a loop.
* `PreviewLoop.Mirrors` — a loop as its owner sees it.

The main statement is `ControllerBuilder.preview_loop_follows`.
-/

namespace VideoCapture

/-- The call opens or closes a device, or tries to. -/
def Call.Moves : Call → Prop
  | openAt .. | close => True
  | _ => False

namespace PreviewLoop

variable {σ : Type} [FrameSource σ]

/-- The loop after its owner has done what the effect says. -/
def obey (l : PreviewLoop σ) : Effect → PreviewLoop σ
  | .loopStarted width height => l.start width height
  | .loopStopped => l.stop
  | _ => l

variable {l : PreviewLoop σ} {m : LoopStatus}

/-- A loop that nobody attaches a source to is as its owner takes it to be. -/
structure Mirrors (l : PreviewLoop σ) (m : LoopStatus) : Prop where
  commands : l.commands = []
  running : l.running = m.isRunning
  phase : match m.worker with
    | .alive => if m.running then l.phase = .waiting ∨ l.phase = .blocked else l.phase = .idle
    | .lost | .gone => l.phase = .dead

/-- A worker that waits for a command handles the start at once. -/
theorem start_of_idle (hl : l.running = false) (hcommands : l.commands = []) (hphase : l.phase = .idle)
    (width height : UInt32) : l.start width height =
      { { l with cancel := false }.handle (.start width height) with
        commands := [], running := true } := by
  simp [start, send, drain, hears, hl, hcommands, hphase]

/-- The flag ends a pull that waits, so that the worker handles the stop. -/
theorem stop_of_session (hl : l.running = true) (hcommands : l.commands = [])
    (hphase : l.phase = .waiting ∨ l.phase = .blocked) :
    l.stop = { l with phase := .idle, acks := l.acks + 1, cancel := false, running := false } := by
  rcases hphase with h | h <;>
    simp [stop, unblock, send, drain, handle, hears, hl, hcommands, h]

theorem Mirrors.start (h : l.Mirrors m) (hstill : m.running = false) (hlost : m.worker ≠ .lost)
    (width height : UInt32) : (l.start width height).Mirrors (m.start ⟨width, height⟩) := by
  obtain ⟨hcommands, hrunning, hphase⟩ := h
  have hl : l.running = false := by rw [hrunning, LoopStatus.isRunning, hstill, Bool.false_and]
  cases hworker : m.worker with
  | lost => exact absurd hworker hlost
  | gone =>
    have hdead : l.phase = .dead := by simpa [hworker] using hphase
    rw [start_of_not_hears hl (hears_of_dead hdead)]
    refine ⟨hcommands, ?_, ?_⟩ <;>
      simp [LoopStatus.start, LoopStatus.isRunning, WorkerHealth.start, hworker, hdead, hl]
  | alive =>
    have hidle : l.phase = .idle := by simpa [hworker, hstill] using hphase
    rw [start_of_idle hl hcommands hidle]
    unfold handle
    simp only [hidle]
    cases hfits : (⟨width, height⟩ : FrameSize).fits with
    | false =>
      refine ⟨rfl, ?_, ?_⟩ <;>
        simp [LoopStatus.start, LoopStatus.isRunning, WorkerHealth.start, hworker, hfits]
    | true =>
      have hsession := pull_session { l with cancel := false }
      refine ⟨rfl, ?_, ?_⟩
      · simp [LoopStatus.start, LoopStatus.isRunning, WorkerHealth.start, hworker, hfits]
      · simpa [LoopStatus.start, WorkerHealth.start, hworker, hfits, hidle] using hsession

theorem Mirrors.stop (h : l.Mirrors m) (hruns : m.running = true) : l.stop.Mirrors m.stop := by
  obtain ⟨hcommands, hrunning, hphase⟩ := h
  cases hworker : m.worker with
  | gone =>
    have hl : l.running = false := by simpa [LoopStatus.isRunning, hworker] using hrunning
    have hdead : l.phase = .dead := by simpa [hworker] using hphase
    rw [PreviewLoop.stop, hl, if_neg Bool.false_ne_true]
    refine ⟨hcommands, ?_, ?_⟩ <;>
      simp [LoopStatus.stop, LoopStatus.isRunning, WorkerHealth.stop, hworker, hl, hdead]
  | lost =>
    have hl : l.running = true := by simpa [LoopStatus.isRunning, hworker, hruns] using hrunning
    have hdead : l.phase = .dead := by simpa [hworker] using hphase
    rw [stop_of_not_hears hl (hears_of_dead hdead)]
    refine ⟨hcommands, ?_, ?_⟩ <;>
      simp [LoopStatus.stop, LoopStatus.isRunning, WorkerHealth.stop, hworker, hdead]
  | alive =>
    have hl : l.running = true := by simpa [LoopStatus.isRunning, hworker, hruns] using hrunning
    have hsession : l.phase = .waiting ∨ l.phase = .blocked := by
      simpa [hworker, hruns] using hphase
    rw [stop_of_session hl hcommands hsession]
    refine ⟨hcommands, ?_, ?_⟩ <;>
      simp [LoopStatus.stop, LoopStatus.isRunning, WorkerHealth.stop, hworker]

/-- A loop that the owner takes to have been started ignores a start. -/
theorem Mirrors.start_of_running (h : l.Mirrors m) (hruns : m.running = true) (width height : UInt32) :
    (l.start width height).Mirrors m := by
  obtain ⟨hcommands, hrunning, hphase⟩ := h
  cases hl : l.running with
  | true =>
    rw [PreviewLoop.start, hl, if_pos rfl]
    exact ⟨hcommands, hrunning, hphase⟩
  | false =>
    have hworker : m.worker = .gone := by simpa [LoopStatus.isRunning, hruns, hl] using hrunning
    have hdead : l.phase = .dead := by simpa [hworker] using hphase
    rw [start_of_not_hears hl (hears_of_dead hdead)]
    exact ⟨hcommands, hrunning, hphase⟩

/-- What is done to the loop shows in what its owner takes it to be. -/
theorem Mirrors.obey (h : l.Mirrors m) (hlost : m.worker = .lost → m.running = true) (e : Effect) :
    (l.obey e).Mirrors (m.after e) := by
  cases e with
  | loopStarted width height =>
    show (l.start width height).Mirrors (if m.running then m else m.start ⟨width, height⟩)
    cases hruns : m.running with
    | true => exact h.start_of_running hruns width height
    | false => exact h.start hruns (fun hw => by simp [hlost hw] at hruns) width height
  | loopStopped =>
    show l.stop.Mirrors (if m.running then m.stop else m)
    cases hruns : m.running with
    | true => exact h.stop hruns
    | false =>
      have hl : l.running = false := by rw [h.running, LoopStatus.isRunning, hruns, Bool.false_and]
      rw [PreviewLoop.stop, hl]
      exact h
  | _ => exact h

/-- A loop that follows a log is as the log tells. -/
theorem mirrors_foldl_obey (h : l.Mirrors .still) (log : List Effect) :
    (log.foldl PreviewLoop.obey l).Mirrors (loopTold log) := by
  induction log using List.reverseRecOn with
  | nil => exact h
  | append_singleton log e ih =>
    rw [List.foldl_append, loopTold_concat]
    exact ih.obey (workerTold log).runs e

end PreviewLoop

namespace CaptureState

variable {β : Type} {s t : CaptureState β}

/-- Between a closing and a moment at which a backend is open, a device has been opened. -/
theorem exists_opening_after_close (ht : t.custody.Sound) {before between after : List Effect}
    {i : Nat} (hlog : t.log = before ++ .called i .close :: (between ++ after))
    (hopen : ∃ j, Trace.isOpen ((before ++ .called i .close :: between).filterMap Effect.call?) j =
      true) : ∃ j c, .called j c ∈ between ∧ c.HasOpened := by
  obtain ⟨j, hj⟩ := hopen
  let calls : Trace := before.filterMap Effect.call?
  have htrace : t.trace = calls ++ (i, .close) :: (between ++ after).filterMap Effect.call? := by
    simp [trace, hlog, calls, List.filterMap_append, Effect.call?]
  -- Only the backend at `i` was open, and now none is.
  have honly : ∀ j, calls.isOpen j = true ↔ j = i := ht.disciplined _ _ _ _ htrace
  have hclosed : (calls ++ [(i, .close)] : Trace).isOpen j = false := by
    rw [Trace.isOpen_concat]
    split
    · rfl
    · rename_i hne
      exact Bool.eq_false_iff.mpr fun h => hne ((honly j).mp h).symm
  have hafter : Trace.isOpen ((calls ++ [(i, .close)]) ++ between.filterMap Effect.call?) j =
      true := by
    rw [← hj]
    simp [calls, List.filterMap_append, Effect.call?]
  obtain ⟨g, settings, hmem⟩ := Trace.exists_opening hclosed hafter
  obtain ⟨e, he, hcall⟩ := List.mem_filterMap.mp hmem
  cases e with
  | called k c =>
    obtain ⟨rfl, rfl⟩ : k = j ∧ c = .openAt g (some settings) := by simpa [Effect.call?] using hcall
    exact ⟨k, _, he, trivial⟩
  | _ => simp [Effect.call?] at hcall

/-- An operation that reads no frame, while the preview has the device to itself: when a device is
closed or opened, the loop has been stopped, and before it is started again a device has been
opened. -/
structure Reopens (s t : CaptureState β) (more : List Effect) : Prop where
  log : t.log = s.log ++ more
  stopped : ∀ before i c after, more = before ++ .called i c :: after → c.Moves →
    .loopStopped ∈ before ∧ loopSize? (s.log ++ before) = none
  started : ∀ before i between width height after,
    more = before ++ .called i .close :: (between ++ .loopStarted width height :: after) →
      ∃ j c, .called j c ∈ between ∧ c.HasOpened

theorem Turned.exists_reopens (h : Turned s t) (ht : t.Settled) (hs : s.Steady)
    (hp : s.previewOnly = true) : ∃ more, Reopens s t more := by
  obtain ⟨more, hmore, hordered⟩ := h.orderly
  obtain ⟨g, -, hsize⟩ := hs.exists_size hp
  refine ⟨more, hmore, ?_, ?_⟩
  · rintro before i c after rfl hc
    have hstill : loopSize? (s.log ++ before) = none := by
      have heffect := hordered before (.called i c) after rfl
      cases c with
      | openAt | close => exact heffect
      | _ => exact hc.elim
    have hran : loopSize? s.log ≠ none := by simp [hs.logged.size.trans hsize]
    exact ⟨loopStopped_mem hran hstill, hstill⟩
  · rintro before i between width height after rfl
    have hlog : t.log = (s.log ++ before) ++
        .called i .close :: (between ++ .loopStarted width height :: after) := by
      rw [hmore, List.append_assoc]
    refine exists_opening_after_close ht.sound hlog ?_
    have heffect := hordered (before ++ .called i .close :: between) (.loopStarted width height)
      after (by simp)
    rw [← List.append_assoc] at heffect
    exact heffect

end CaptureState

namespace ControllerBuilder

variable {β : Type} [Backend β]

/-- The preview loop runs exactly while the preview is active and the stream is not, at the size of
the open device, unless a session at a size without room for a frame has come to its end; from then on it
never runs. A loop that is started and stopped as the log says does so too. The requests know who is active. A
pull reaches a backend only while the preview has the device to itself. Whatever else closes or opens a
device at such a time stops the loop before, and does not start it again until a device is open. -/
theorem preview_loop_follows {σ : Type} [FrameSource σ] (builder : ControllerBuilder β)
    (steps : List (Step β)) :
    let s := builder.start.run steps
    (s.loop.isRunning = true ↔
        s.preview.active = true ∧ s.stream.active = false ∧ ¬ LoopLost s.log) ∧
      (s.loop.isRunning = true → ∃ g, s.opened = some g ∧
        (⟨s.loop.width, s.loop.height⟩ : FrameSize) = ⟨g.width, g.height⟩ ∧
        loopSize? s.log = some ⟨g.width, g.height⟩) ∧
      (∀ loop : PreviewLoop σ, loop.running = false → loop.phase = .idle → loop.commands = [] →
        (s.log.foldl PreviewLoop.obey loop).running = s.loop.isRunning) ∧
      (s.requests.previewActive = s.preview.active ∧
        s.requests.streamActive = s.stream.active) ∧
      ((s.operate .pull).2.trace ≠ s.trace → s.preview.active = true ∧ s.stream.active = false) ∧
      ∀ op : Operation β, op.readsFrame = false → s.previewOnly = true →
        ∃ more, CaptureState.Reopens s (s.operate op).2 more := by
  intro s
  obtain ⟨hs, hsync⟩ : s.Steady ∧ s.control.Synced := builder.steady_run steps
  have hrunning : s.loop.running = s.previewOnly := hs.running_eq
  have htold : WorkerTold (loopTold s.log) s.log := workerTold s.log
  have hisRunning : (loopTold s.log).isRunning = s.loop.isRunning := by
    rw [LoopStatus.isRunning, LoopStatus.isRunning, hs.logged.running_eq, hs.logged.worker]
  refine ⟨?_, ?_, ?_, ⟨hsync.preview, hsync.stream⟩, ?_, ?_⟩
  · have hlost : s.loop.worker = .gone ↔ LoopLost s.log := by
      rw [← hs.logged.worker]
      exact htold.lost
    simp [LoopStatus.isRunning, hrunning, CaptureState.previewOnly, hlost, and_assoc]
  · intro hrun
    have hstarted : s.loop.running = true := by
      rw [LoopStatus.isRunning, Bool.and_eq_true] at hrun
      exact hrun.1
    obtain ⟨g, ho, hsize⟩ := hs.exists_size (hrunning.symm.trans hstarted)
    refine ⟨g, ho, ?_, hs.logged.size.trans hsize⟩
    rw [LoopStatus.size?, if_pos hstarted] at hsize
    exact Option.some.inj hsize
  · intro loop hloop hphase hcommands
    have hmirrors : loop.Mirrors .still := ⟨hcommands, hloop, hphase⟩
    rw [(PreviewLoop.mirrors_foldl_obey hmirrors s.log).running, hisRunning]
  · intro hcalls
    cases hp : s.previewOnly with
    | false =>
      refine absurd ?_ hcalls
      show s.pull.trace = s.trace
      rw [CaptureState.pull_of_not_previewOnly hp]
      rfl
    | true => simpa [CaptureState.previewOnly] using hp
  · intro op hop hp
    exact (CaptureState.turned_operate hs hop).exists_reopens
      (CaptureState.settled_operate hs.settled op) hs hp

/-- A preview at a size without room for a frame, once: afterwards the preview is active again, the stream is
not, and the loop does not run. -/
theorem preview_without_loop :
    let builder : ControllerBuilder Scripted.Camera := ControllerBuilder.default
    let s := builder.start.run
      [.operation (.setPreview ⟨3037000500, 3037000500, 30⟩), .operation .startPreview,
        .operation .stopPreview, .operation .startPreview]
    s.preview.active = true ∧ s.stream.active = false ∧ s.loop.isRunning = false := by
  decide +kernel

end ControllerBuilder

end VideoCapture
