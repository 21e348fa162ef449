import Mathlib.Data.List.Induction
import VideoCapture.Proofs.Conversation
import VideoCapture.Proofs.Custody

/-!
# What the log tells of the preview loop

The log tells by itself whether the preview loop has been started, at which size, and what has become of
its worker. It also tells whether the loop was kept out of the way: a device is opened and closed only
while the loop stands still, and the loop is started only once a device is open.

## Main definitions

* `LoopStatus.after`, `loopTold` — the loop after an effect, and as a log tells of it.
* `LoopStatus.size?`, `loopSize?` — the size at which the loop runs, in the state and in the log.
* `LoopOverreached`, `LoopLost` — in a log, a session has begun without room for a frame, and has ended.
* `Effect.Orderly` — an effect that keeps the loop out of the way.
* `CaptureState.Orderly` — between two states everything kept it out of the way.
* `CaptureState.Logged` — the log and the state agree about the loop.
* `WorkerTold` — what a log tells of the worker is what has become of it.
-/

namespace VideoCapture

namespace LoopStatus

/-- The size at which the loop runs, if it runs. -/
def size? (l : LoopStatus) : Option FrameSize :=
  if l.running then some ⟨l.width, l.height⟩ else none

/-- What an effect makes of a loop. One that runs ignores a start, and one that stands still a stop. -/
def after (l : LoopStatus) : Effect → LoopStatus
  | .loopStarted width height => if l.running then l else l.start ⟨width, height⟩
  | .loopStopped => if l.running then l.stop else l
  | _ => l

theorem after_started (l : LoopStatus) (width height : UInt32) :
    l.after (.loopStarted width height) = if l.running then l else l.start ⟨width, height⟩ := rfl

theorem after_stopped (l : LoopStatus) :
    l.after .loopStopped = if l.running then l.stop else l := rfl

end LoopStatus

/-- The preview loop as a log tells of it. -/
def loopTold (log : List Effect) : LoopStatus := log.foldl LoopStatus.after .still

/-- The size at which the preview loop runs at the end of a log, if it runs: that of its last start,
unless it was stopped since. -/
def loopSize? (log : List Effect) : Option FrameSize := (loopTold log).size?

/-- In the log, a session of the loop has begun at a size without room for a frame. -/
def LoopOverreached (log : List Effect) : Prop :=
  ∃ before width height between, log = before ++ .loopStarted width height :: between ∧
    loopSize? before = none ∧ roomLimit ≤ (⟨width, height⟩ : FrameSize).byteLength

/-- In the log, such a session has come to its end. -/
def LoopLost (log : List Effect) : Prop :=
  ∃ session after, log = session ++ .loopStopped :: after ∧ LoopOverreached session

namespace Effect

/-- The effect neither starts nor stops the preview loop. -/
def SparesLoop : Effect → Prop
  | loopStarted .. | loopStopped => False
  | _ => True

/-- After `log`, the effect keeps the preview loop out of the way of the device, and it sends no
adjustment. -/
def Orderly (log : List Effect) : Effect → Prop
  | called _ (.openAt ..) | called _ .close => loopSize? log = none
  | called _ (.adjust ..) => False
  | loopStarted .. => ∃ i, Trace.isOpen (log.filterMap Effect.call?) i = true
  | _ => True

theorem Says.sparesLoop {P : Call → Prop} {e : Effect} (h : e.Says P) : e.SparesLoop := by
  cases e with
  | called | raised => trivial
  | _ => exact h.elim

/-- While the loop stands still, anything may be said that sends no adjustment. -/
theorem Says.orderly {P : Call → Prop} {e : Effect} (h : e.Says P) (hP : ∀ c, P c → ¬ c.Adjusts)
    {log : List Effect} (hlog : loopSize? log = none) : e.Orderly log := by
  cases e with
  | called _ c =>
    cases c with
    | openAt | close => exact hlog
    | adjust kind value => exact hP (.adjust kind value) h trivial
    | _ => trivial
  | raised => trivial
  | _ => exact h.elim

/-- Listing devices may go on beside a running loop. -/
theorem Says.orderly_of_lists {e : Effect} (h : e.Says Call.Lists) (log : List Effect) :
    e.Orderly log := by
  cases e with
  | called _ c =>
    cases c with
    | devices => trivial
    | _ => exact h.elim
  | raised => trivial
  | _ => exact h.elim

end Effect

/-! ## The loop told by a log -/

theorem LoopStatus.after_of_spares {e : Effect} (h : e.SparesLoop) (l : LoopStatus) :
    l.after e = l := by
  cases e with
  | loopStarted | loopStopped => exact h.elim
  | _ => rfl

@[simp] theorem loopTold_concat (log : List Effect) (e : Effect) :
    loopTold (log ++ [e]) = (loopTold log).after e := by
  rw [loopTold, List.foldl_append]
  rfl

theorem loopTold_append_of_spares {more : List Effect} (h : ∀ e ∈ more, e.SparesLoop)
    (log : List Effect) : loopTold (log ++ more) = loopTold log := by
  induction more generalizing log with
  | nil => simp
  | cons e rest ih =>
    rw [List.append_cons, ih fun f hf => h f (List.mem_cons_of_mem e hf), loopTold_concat]
    exact LoopStatus.after_of_spares (h e List.mem_cons_self) _

theorem loopSize?_append_of_spares {more : List Effect} (h : ∀ e ∈ more, e.SparesLoop)
    (log : List Effect) : loopSize? (log ++ more) = loopSize? log :=
  congrArg LoopStatus.size? (loopTold_append_of_spares h log)

theorem loopSize?_concat_of_spares {e : Effect} (h : e.SparesLoop) (log : List Effect) :
    loopSize? (log ++ [e]) = loopSize? log :=
  loopSize?_append_of_spares (by simpa using h) log

theorem LoopStatus.size?_eq_none_iff {l : LoopStatus} : l.size? = none ↔ l.running = false := by
  cases h : l.running <;> simp [size?, h]

theorem LoopStatus.size?_after_started (l : LoopStatus) (width height : UInt32) :
    (l.after (.loopStarted width height)).size? = l.size?.or (some ⟨width, height⟩) := by
  cases h : l.running <;> simp [size?, after_started, start, h]

theorem LoopStatus.size?_after_stopped (l : LoopStatus) : (l.after .loopStopped).size? = none := by
  cases h : l.running <;> simp [size?, after_stopped, stop, h]

@[simp] theorem loopSize?_concat_started (log : List Effect) (width height : UInt32) :
    loopSize? (log ++ [.loopStarted width height]) =
      (loopSize? log).or (some ⟨width, height⟩) := by
  rw [loopSize?, loopTold_concat, LoopStatus.size?_after_started]
  rfl

@[simp] theorem loopSize?_concat_stopped (log : List Effect) :
    loopSize? (log ++ [.loopStopped]) = none := by
  rw [loopSize?, loopTold_concat, LoopStatus.size?_after_stopped]

/-- A loop that ran and stands still has been stopped. -/
theorem loopStopped_mem {log more : List Effect} (h : loopSize? log ≠ none)
    (hmore : loopSize? (log ++ more) = none) : .loopStopped ∈ more := by
  induction more generalizing log with
  | nil => exact absurd (by simpa using hmore) h
  | cons e rest ih =>
    rw [List.append_cons] at hmore
    cases e with
    | loopStopped => exact List.mem_cons_self
    | loopStarted => exact List.mem_cons_of_mem _ (ih (by simp) hmore)
    | _ =>
      refine List.mem_cons_of_mem _ (ih ?_ hmore)
      rw [loopSize?_concat_of_spares]
      · exact h
      · trivial

/-! ## The worker told by a log -/

theorem not_loopOverreached_nil : ¬ LoopOverreached [] := by
  rintro ⟨before, width, height, between, hsplit, -⟩
  simp at hsplit

theorem not_loopLost_nil : ¬ LoopLost [] := by
  rintro ⟨session, after, hsplit, -⟩
  simp at hsplit

theorem loopOverreached_concat (log : List Effect) (e : Effect) :
    LoopOverreached (log ++ [e]) ↔ LoopOverreached log ∨ loopSize? log = none ∧
      ∃ width height, e = .loopStarted width height ∧
        roomLimit ≤ (⟨width, height⟩ : FrameSize).byteLength := by
  constructor
  · rintro ⟨before, width, height, between, hsplit, hstill, hlong⟩
    rcases concat_eq_append_cons hsplit with ⟨late, rfl, rfl⟩ | ⟨rfl, rfl, rfl⟩
    · exact .inl ⟨before, width, height, late, rfl, hstill, hlong⟩
    · exact .inr ⟨hstill, width, height, rfl, hlong⟩
  · rintro (⟨before, width, height, between, rfl, hstill, hlong⟩ |
      ⟨hstill, width, height, rfl, hlong⟩)
    · exact ⟨before, width, height, between ++ [e], by simp, hstill, hlong⟩
    · exact ⟨log, width, height, [], rfl, hstill, hlong⟩

theorem loopLost_concat (log : List Effect) (e : Effect) :
    LoopLost (log ++ [e]) ↔ LoopLost log ∨ e = .loopStopped ∧ LoopOverreached log := by
  constructor
  · rintro ⟨session, after, hsplit, hsession⟩
    rcases concat_eq_append_cons hsplit with ⟨late, rfl, rfl⟩ | ⟨rfl, rfl, rfl⟩
    · exact .inl ⟨session, late, rfl, hsession⟩
    · exact .inr ⟨rfl, hsession⟩
  · rintro (⟨session, after, rfl, hsession⟩ | ⟨rfl, hsession⟩)
    · exact ⟨session, after ++ [e], by simp, hsession⟩
    · exact ⟨log, [], rfl, hsession⟩

/-- A loop and the log that tells of it: the worker is gone after a session without room for a frame, and
lost during the first one. -/
structure WorkerTold (l : LoopStatus) (log : List Effect) : Prop where
  size : l.size? = loopSize? log
  overreached : l.worker ≠ .alive ↔ LoopOverreached log
  lost : l.worker = .gone ↔ LoopLost log
  runs : l.worker = .lost → l.running = true

theorem WorkerTold.started {l : LoopStatus} {log : List Effect} (h : WorkerTold l log)
    (width height : UInt32) : WorkerTold (l.after (.loopStarted width height))
      (log ++ [.loopStarted width height]) := by
  obtain ⟨hsize, hover, hlost, hruns⟩ := h
  have hfits := (⟨width, height⟩ : FrameSize).fits_iff
  refine ⟨?_, ?_, ?_, ?_⟩
  · rw [LoopStatus.size?_after_started, loopSize?_concat_started, hsize]
  · rw [loopOverreached_concat, ← hsize, LoopStatus.size?_eq_none_iff, ← hover]
    cases hrun : l.running with
    | true => simp [LoopStatus.after_started, hrun]
    | false =>
      cases hw : l.worker <;> cases hroom : (⟨width, height⟩ : FrameSize).fits <;>
        simp_all [LoopStatus.after_started, LoopStatus.start, WorkerHealth.start]
  · rw [loopLost_concat, ← hlost]
    cases hrun : l.running with
    | true => simp [LoopStatus.after_started, hrun]
    | false =>
      cases hw : l.worker <;> cases hroom : (⟨width, height⟩ : FrameSize).fits <;>
        simp_all [LoopStatus.after_started, LoopStatus.start, WorkerHealth.start]
  · intro _
    cases hrun : l.running <;> simp [LoopStatus.after_started, LoopStatus.start, hrun]

theorem WorkerTold.stopped {l : LoopStatus} {log : List Effect} (h : WorkerTold l log) :
    WorkerTold (l.after .loopStopped) (log ++ [.loopStopped]) := by
  obtain ⟨hsize, hover, hlost, hruns⟩ := h
  refine ⟨?_, ?_, ?_, ?_⟩
  · rw [LoopStatus.size?_after_stopped, loopSize?_concat_stopped]
  · rw [loopOverreached_concat, ← hover]
    cases hrun : l.running <;> cases hw : l.worker <;>
      simp_all [LoopStatus.after_stopped, LoopStatus.stop, WorkerHealth.stop]
  · rw [loopLost_concat, ← hlost, ← hover]
    cases hrun : l.running <;> cases hw : l.worker <;>
      simp_all [LoopStatus.after_stopped, LoopStatus.stop, WorkerHealth.stop]
  · cases hrun : l.running <;> cases hw : l.worker <;>
      simp_all [LoopStatus.after_stopped, LoopStatus.stop, WorkerHealth.stop]

theorem WorkerTold.spares {l : LoopStatus} {log : List Effect} (h : WorkerTold l log) {e : Effect}
    (he : e.SparesLoop) : WorkerTold (l.after e) (log ++ [e]) := by
  have hover : LoopOverreached (log ++ [e]) ↔ LoopOverreached log := by
    rw [loopOverreached_concat, or_iff_left]
    rintro ⟨-, width, height, rfl, -⟩
    exact he
  have hlost : LoopLost (log ++ [e]) ↔ LoopLost log := by
    rw [loopLost_concat, or_iff_left]
    rintro ⟨rfl, -⟩
    exact he
  rw [LoopStatus.after_of_spares he]
  exact ⟨h.size.trans (loopSize?_concat_of_spares he log).symm, h.overreached.trans hover.symm,
    h.lost.trans hlost.symm, h.runs⟩

theorem workerTold (log : List Effect) : WorkerTold (loopTold log) log := by
  induction log using List.reverseRecOn with
  | nil =>
    exact ⟨rfl, iff_of_false (fun h => h rfl) not_loopOverreached_nil,
      iff_of_false nofun not_loopLost_nil, nofun⟩
  | append_singleton log e ih =>
    rw [loopTold_concat]
    cases e with
    | loopStarted width height => exact ih.started width height
    | loopStopped => exact ih.stopped
    | _ => exact ih.spares trivial

namespace CaptureState

variable {β : Type}

/-- From one state to the other everything that was written down kept the loop out of the way. -/
def Orderly (s t : CaptureState β) : Prop :=
  ∃ more, t.log = s.log ++ more ∧
    ∀ before e after, more = before ++ e :: after → e.Orderly (s.log ++ before)

/-- The log and the state agree about the preview loop. -/
structure Logged (s : CaptureState β) : Prop where
  size : loopSize? s.log = s.loop.size?
  worker : (loopTold s.log).worker = s.loop.worker

variable {s t u : CaptureState β}

theorem orderly_of_log (h : t.log = s.log) : Orderly s t := ⟨[], by simp [h], by simp⟩

theorem Orderly.refl (s : CaptureState β) : Orderly s s := orderly_of_log rfl

theorem Orderly.trans (h : Orderly s t) (h' : Orderly t u) : Orderly s u := by
  obtain ⟨more, hmore, heach⟩ := h
  obtain ⟨rest, hrest, heach'⟩ := h'
  refine ⟨more ++ rest, by rw [hrest, hmore, List.append_assoc], ?_⟩
  intro before e after hsplit
  rcases append_eq_append_cons hsplit with ⟨between, rfl, rfl⟩ | ⟨late, rfl, -⟩
  · have hlater := heach' between e after rfl
    rwa [hmore, List.append_assoc] at hlater
  · exact heach before e late rfl

theorem orderly_note {e : Effect} (h : e.Orderly s.log) : Orderly s (s.note e) := by
  refine ⟨[e], rfl, ?_⟩
  intro before f after hsplit
  obtain ⟨rfl, hrest⟩ | ⟨late, -, hrest⟩ := List.cons_eq_append_iff.mp hsplit
  · obtain ⟨rfl, -⟩ := List.cons.inj hrest
    simpa using h
  · simp at hrest

/-- The loop stands still during all that is written down, and nothing of that sends an adjustment.
-/
theorem Converses.orderly {P : Call → Prop} {who : Option Mode} (h : Converses P who s t)
    (hP : ∀ c, P c → ¬ c.Adjusts) (hstill : loopSize? s.log = none) : Orderly s t := by
  obtain ⟨more, hmore, heach⟩ := h.adds
  refine ⟨more, hmore, ?_⟩
  rintro before e after rfl
  refine (heach e (by simp)).orderly hP ?_
  rw [loopSize?_append_of_spares, hstill]
  exact fun f hf => (heach f (by simp [hf])).sparesLoop

/-- Calls that keep to the order send no adjustment. -/
theorem Orderly.exists_calls (h : Orderly s t) :
    ∃ calls, t.trace = s.trace ++ calls ∧ ∀ c ∈ calls, ¬ c.2.Adjusts := by
  obtain ⟨more, hmore, hordered⟩ := h
  refine ⟨more.filterMap Effect.call?, by simp [CaptureState.trace, hmore], ?_⟩
  rintro ⟨i, c⟩ hc hadjusts
  obtain ⟨e, he, hcall⟩ := List.mem_filterMap.mp hc
  obtain ⟨before, after, rfl⟩ := List.append_of_mem he
  have heffect := hordered before e after rfl
  cases e with
  | called j d =>
    obtain ⟨rfl, rfl⟩ : j = i ∧ d = c := by simpa [Effect.call?] using hcall
    cases d with
    | adjust => exact heffect
    | _ => exact hadjusts
  | _ => simp [Effect.call?] at hcall

/-! ## The loop as the log has it -/

theorem Logged.of_adds {P : Effect → Prop} (h : s.Logged) (ht : Adds P s t)
    (hP : ∀ e, P e → e.SparesLoop) (hloop : t.loop = s.loop) : t.Logged := by
  obtain ⟨more, hmore, heach⟩ := ht
  have hspares (e : Effect) (he : e ∈ more) : e.SparesLoop := hP e (heach e he)
  refine ⟨?_, ?_⟩
  · rw [hmore, hloop, loopSize?_append_of_spares hspares]
    exact h.size
  · rw [hmore, hloop, loopTold_append_of_spares hspares]
    exact h.worker

theorem Logged.of_silent (h : s.Logged) (hlog : t.log = s.log) (hloop : t.loop = s.loop) : t.Logged :=
  ⟨by rw [hlog, hloop]; exact h.size, by rw [hlog, hloop]; exact h.worker⟩

theorem Logged.converses {P : Call → Prop} {who : Option Mode} (h : s.Logged)
    (ht : Converses P who s t) : t.Logged :=
  h.of_adds ht.adds (fun _ => Effect.Says.sparesLoop) ht.loop

theorem Logged.size?_eq_none (h : s.Logged) (hstill : s.loop.running = false) :
    loopSize? s.log = none := by
  rw [h.size, LoopStatus.size?, hstill]
  rfl

theorem loopSize?_stopLoop (h : s.Logged) : loopSize? s.stopLoop.log = none := by
  unfold stopLoop
  split
  · exact loopSize?_concat_stopped _
  · rename_i hstill
    exact h.size?_eq_none (Bool.eq_false_iff.mpr hstill)

theorem running_stopLoop (s : CaptureState β) : s.stopLoop.loop.running = false := by
  unfold stopLoop
  split
  · rfl
  · rename_i hstill
    exact Bool.eq_false_iff.mpr hstill

theorem startLoop_of_still (h : s.loop.running = false) {g : Geometry} (ho : s.opened = some g) :
    s.startLoop =
      { s with loop := s.loop.start g.frameSize }.note (.loopStarted g.width g.height) := by
  simp [startLoop, h, ho]

/-- The log and the state agree on whether the loop runs. -/
theorem Logged.running_eq (h : s.Logged) : (loopTold s.log).running = s.loop.running := by
  have hsize : (loopTold s.log).size?.isSome = s.loop.size?.isSome := congrArg Option.isSome h.size
  have hisSome (l : LoopStatus) : l.size?.isSome = l.running := by
    cases hl : l.running <;> simp [LoopStatus.size?, hl]
  rwa [hisSome, hisSome] at hsize

theorem Logged.stopLoop (h : s.Logged) : s.stopLoop.Logged := by
  refine ⟨?_, ?_⟩
  · rw [loopSize?_stopLoop h, LoopStatus.size?, running_stopLoop]
    rfl
  · unfold CaptureState.stopLoop
    split
    · rename_i hran
      show (loopTold (s.log ++ [.loopStopped])).worker = s.loop.worker.stop
      rw [loopTold_concat, LoopStatus.after_stopped, if_pos (h.running_eq.trans hran), ← h.worker]
      rfl
    · exact h.worker

theorem Logged.startLoop (h : s.Logged) (hstill : s.loop.running = false) {g : Geometry}
    (ho : s.opened = some g) : s.startLoop.Logged := by
  have htold : (loopTold s.log).running = false := h.running_eq.trans hstill
  rw [startLoop_of_still hstill ho]
  refine ⟨?_, ?_⟩
  · show loopSize? (s.log ++ [.loopStarted g.width g.height]) = some ⟨g.width, g.height⟩
    rw [loopSize?_concat_started, h.size?_eq_none hstill]
    rfl
  · show (loopTold (s.log ++ [.loopStarted g.width g.height])).worker =
      s.loop.worker.start g.frameSize
    rw [loopTold_concat, LoopStatus.after_started, if_neg (by simp [htold]), ← h.worker]
    rfl

end CaptureState

end VideoCapture
