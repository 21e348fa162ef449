import VideoCapture.Proofs.Preview.Accord

/-!
# The log and the state of the parties

The parties are in accord after every turn, and the log says where they stand. From this every event is
seen to be in its place.

## Main definitions

* `Coherent` — the accord, and what the log says about the state.
* `Permitted` — an event is in its place behind a log.
* `Advances` — a turn keeps the state coherent and adds at most one event, in its place.

The main statements are `Coherent.step` and `coherent_run`.
-/

namespace VideoCapture.PreviewProtocol

variable {σ : Type}

/-- The owner has set the flag and not cleared it yet. -/
def OwnerPhase.isStopping : OwnerPhase → Bool
  | cancelling _ => true
  | awaiting _ => true
  | returning _ => true
  | _ => false

namespace WorkerStage

/-- The frame that was pulled and not pushed yet. -/
def unpushed : WorkerStage → List Frame
  | pulling result => result.frame?.toList
  | pushing f => [f]
  | _ => []

theorem not_dying_of_inSession {worker : WorkerStage} (h : worker.inSession = true) : worker ≠ .dying := by
  rintro rfl
  cases h

theorem unpushed_of_isLost {worker : WorkerStage} (h : worker.isLost = true) : worker.unpushed = [] := by
  cases worker <;> first | rfl | cases h

theorem isLost_of_inSession {worker : WorkerStage} (h : worker.inSession = true) :
    worker.isLost = false := by
  cases worker <;> first | rfl | cases h

end WorkerStage

/-- What the log says about the state, over the sources `names`. -/
structure Coherent (names : List String) (p : State σ) : Prop where
  accord : ∃ unanswered, Accord p.owner p.running (bounds p.commands) p.worker p.acks unanswered ∧
    acknowledgements p.log + unanswered = starts p.log
  queue : handled p.log ++ p.commands = sent p.log
  running : running p.log = p.running
  cancel : stopping p.log = p.cancel
  stopping : stopping p.log = p.owner.isStopping
  serving : serving p.log = p.worker.inSession
  attached : attachedIn p.log = p.attached
  sources : ∀ name, name ∈ p.sources.map Prod.fst ↔ Standing names p.log name
  frames : frames p.log = (pushes p.log).map Push.frame ++ p.worker.unpushed
  own : ∀ push ∈ pushes p.log, push.isLocal = true ∧ push.active = 1
  due : ∀ source, lastWork? p.log = some (.handled (.attach source)) → p.worker.inSession = true →
    p.worker = .due ∧ p.attached = some source
  doomed : Doomed p.log ↔ p.worker = .dying
  died : .died ∈ p.log ↔ p.worker.isLost = true

/-- The event is in its place behind the log. -/
structure Permitted (names : List String) (log : List (Event σ)) (e : Event σ) : Prop where
  pulled : ∀ r, e = .pulled r → running log = true ∧ attachedIn log = some r.source ∧
    Standing names log r.source ∧ r.cancelled = stopping log
  attached : ∀ source, lastWork? log = some (.handled (.attach source)) → serving log = true →
    e.isWork = true →
      (∃ r, e = .pulled r ∧ r.source = source) ∨ e = .passed ∧ ¬ Standing names log source
  started : e.isStart = true → running log = false
  stopCalled : e = .stopCalled →
    running log = true ∧ (.died ∉ log → acknowledgements log + 1 = starts log)
  stopReturned : e = .stopReturned → .died ∉ log → acknowledgements log = starts log
  doomed : Doomed log → e.isWork = true → e = .died
  died : e = .died → Doomed log ∧ acknowledgements log + 1 = starts log
  silent : .died ∈ log → e.isWork = false

/-- One turn keeps the state coherent and adds at most one event, in its place. -/
structure Advances (names : List String) (p q : State σ) : Prop where
  coherent : Coherent names q
  log : q.log = p.log ∨ ∃ e, q.log = p.log ++ [e] ∧ Permitted names p.log e

section Steps

variable {names : List String} {p : State σ}

/-- An event of the owner, or the end of a source, is in its place wherever the worker stands. -/
theorem Permitted.of_owner {log : List (Event σ)} {e : Event σ} (hwork : e.isWork = false)
    (started : e.isStart = true → running log = false)
    (stopCalled : e = .stopCalled →
      running log = true ∧ (.died ∉ log → acknowledgements log + 1 = starts log))
    (stopReturned : e = .stopReturned → .died ∉ log → acknowledgements log = starts log) :
    Permitted names log e where
  pulled := by
    rintro r rfl
    cases hwork
  attached source _ _ he := absurd he (Bool.eq_false_iff.mp hwork)
  started := started
  stopCalled := stopCalled
  stopReturned := stopReturned
  doomed _ he := absurd he (Bool.eq_false_iff.mp hwork)
  died := by
    rintro rfl
    cases hwork
  silent _ := hwork

theorem unpushed_stageAfter (inSession : Bool) (c : LoopCommand) :
    (stageAfter inSession c).unpushed = [] := by
  cases c with
  | start w h => rcases stageAfter_start inSession w h with hnext | hnext <;> rw [hnext] <;> rfl
  | _ => cases inSession <;> rfl

@[simp] theorem standing_concat {log : List (Event σ)} {e : Event σ} {source : String} :
    Standing names (log ++ [e]) source ↔ Standing names log source ∧ e ≠ .destroyed source := by
  simp only [Standing, List.mem_append, List.mem_singleton, not_or, and_assoc]
  rw [ne_comm]

attribute [simp] WorkerStage.unpushed OwnerPhase.isStopping

namespace Coherent

/-- The worker has not died. -/
theorem not_died (h : Coherent names p) (hw : p.worker.isLost = false) : .died ∉ p.log := by
  rw [h.died, hw]
  exact Bool.false_ne_true

theorem isLost_of_not_died (h : Coherent names p) (halive : .died ∉ p.log) : p.worker.isLost = false :=
  Bool.eq_false_iff.mpr fun hw => halive (h.died.mpr hw)

/-- An event of the worker that is neither a pull nor its death is in its place, unless one of the two is
due, or the worker has died. -/
theorem permitted (h : Coherent names p) {e : Event σ} (hwork : e.isWork = true) (hpull : e.pull? = none)
    (hdied : e ≠ .died) (hdue : p.worker ≠ .due) (hdying : p.worker ≠ .dying)
    (hlost : p.worker.isLost = false) : Permitted names p.log e where
  pulled := by
    rintro r rfl
    cases hpull
  attached source hlast hserving _ := absurd (h.due source hlast (h.serving ▸ hserving)).1 hdue
  started he := by cases e <;> first | cases he | cases hwork
  stopCalled he := by cases he; cases hwork
  stopReturned he := by cases he; cases hwork
  doomed hdoomed _ := absurd (h.doomed.mp hdoomed) hdying
  died he := absurd he hdied
  silent hmem := absurd hmem (h.not_died hlost)

/-- An event of the owner leaves alone what the log says about the worker and the sources. -/
theorem of_owner (h : Coherent names p) {q : State σ} {e : Event σ} (hlog : q.log = p.log ++ [e])
    (hwork : e.isWork = false) (hend : ∀ source, e ≠ .destroyed source) (hworker : q.worker = p.worker)
    (hattached : q.attached = p.attached) (hsources : q.sources = p.sources)
    (accord : ∃ unanswered, Accord q.owner q.running (bounds q.commands) q.worker q.acks unanswered ∧
      acknowledgements q.log + unanswered = starts q.log)
    (queue : handled q.log ++ q.commands = sent q.log)
    (running : PreviewProtocol.running q.log = q.running)
    (cancel : PreviewProtocol.stopping q.log = q.cancel)
    (stopping : PreviewProtocol.stopping q.log = q.owner.isStopping) : Coherent names q where
  accord := accord
  queue := queue
  running := running
  cancel := cancel
  stopping := stopping
  serving := by
    rw [hlog, hworker, ← h.serving, serving_concat]
    cases e <;> first | rfl | cases hwork
  attached := by
    rw [hlog, hattached, ← h.attached, attachedIn_concat]
    cases e <;> first | rfl | cases hwork
  sources name := by
    rw [hlog, hsources, h.sources, standing_concat]
    exact (and_iff_left (hend name)).symm
  frames := by
    rw [hlog, hworker, frames_concat, pushes_concat]
    cases e <;> first | simpa using h.frames | cases hwork
  own := by
    rw [hlog, pushes_concat]
    cases e <;> first | simpa using h.own | cases hwork
  due source hlast hsession := by
    rw [hlog, lastWork?_concat, if_neg (Bool.eq_false_iff.mp hwork)] at hlast
    rw [hworker] at hsession ⊢
    rw [hattached]
    exact h.due source hlast hsession
  doomed := by
    rw [hlog, hworker, doomed_concat_of_not_isWork hwork]
    exact h.doomed
  died := by
    rw [hlog, hworker, ← h.died, List.mem_append, List.mem_singleton, or_iff_left]
    rintro rfl
    cases hwork

/-- An event of the worker leaves alone what the log says about the owner. -/
theorem of_work (h : Coherent names p) {q : State σ} {e : Event σ} (hlog : q.log = p.log ++ [e])
    (hwork : e.isWork = true) (howner : q.owner = p.owner) (hrunning : q.running = p.running)
    (hcancel : q.cancel = p.cancel) (hsources : q.sources.map Prod.fst = p.sources.map Prod.fst)
    (accord : ∃ unanswered, Accord q.owner q.running (bounds q.commands) q.worker q.acks unanswered ∧
      acknowledgements q.log + unanswered = starts q.log)
    (queue : handled q.log ++ q.commands = sent q.log)
    (serving : PreviewProtocol.serving q.log = q.worker.inSession)
    (attached : attachedIn q.log = q.attached)
    (frames : PreviewProtocol.frames q.log = (pushes q.log).map Push.frame ++ q.worker.unpushed)
    (own : ∀ push ∈ e.push?, push.isLocal = true ∧ push.active = 1)
    (due : ∀ source, e = .handled (.attach source) → q.worker.inSession = true →
      q.worker = .due ∧ q.attached = some source)
    (doomed : (∃ width height, e = .handled (.start width height) ∧
      roomLimit ≤ (⟨width, height⟩ : FrameSize).byteLength) ↔ q.worker = .dying)
    (died : e = .died ∨ p.worker.isLost = true ↔ q.worker.isLost = true) : Coherent names q where
  accord := accord
  queue := queue
  running := by
    rw [hlog, hrunning, ← h.running, running_concat]
    cases e <;> first | rfl | cases hwork
  cancel := by
    rw [hlog, hcancel, ← h.cancel, stopping_concat]
    cases e <;> first | rfl | cases hwork
  stopping := by
    rw [hlog, howner, ← h.stopping, stopping_concat]
    cases e <;> first | rfl | cases hwork
  serving := serving
  attached := attached
  sources name := by
    rw [hlog, hsources, h.sources, standing_concat]
    refine (and_iff_left ?_).symm
    rintro rfl
    cases hwork
  frames := frames
  own push hpush := by
    rw [hlog, pushes_concat, List.mem_append, Option.mem_toList] at hpush
    exact hpush.elim (h.own push) (own push)
  due source hlast hsession := by
    rw [hlog, lastWork?_concat, if_pos hwork] at hlast
    exact due source (Option.some.inj hlast) hsession
  doomed := by
    rw [hlog, doomed_concat_of_isWork hwork]
    exact doomed
  died := by
    rw [hlog, List.mem_append, List.mem_singleton, h.died, or_comm, eq_comm]
    exact died

/-- Nothing happens. -/
theorem refl (h : Coherent names p) : Advances names p p := ⟨h, .inl rfl⟩

/-! ## Calls and the end of a source -/

theorem attach (h : Coherent names p) (source : String) :
    Advances names p (p.send (.attach source)) := by
  cases hears : p.worker.hears with
  | false =>
    rw [State.send_of_not_hears hears]
    exact h.refl
  | true =>
    rw [State.send_of_hears hears]
    constructor
    · refine h.of_owner rfl rfl (by simp) rfl rfl rfl ?_ ?_ ?_ ?_ ?_
      · simpa using h.accord
      · simp [← h.queue]
      · simpa using h.running
      · simpa using h.cancel
      · simpa using h.stopping
    · exact .inr ⟨_, rfl, .of_owner rfl (by simp) (by simp) (by simp)⟩

theorem destroy (h : Coherent names p) (source : String) :
    Advances names p (p.destroy source) where
  coherent := {
    accord := by simpa [State.destroy] using h.accord
    queue := by simpa [State.destroy] using h.queue
    running := by simpa [State.destroy] using h.running
    cancel := by simpa [State.destroy] using h.cancel
    stopping := by simpa [State.destroy] using h.stopping
    serving := by simpa [State.destroy] using h.serving
    attached := by simpa [State.destroy] using h.attached
    sources := fun name => by
      have hname := h.sources name
      simp only [List.mem_map] at hname
      simp only [State.destroy, State.note, List.mem_map, List.mem_filter, standing_concat, ← hname]
      grind
    frames := by simpa [State.destroy] using h.frames
    own := by simpa [State.destroy] using h.own
    due := by simpa [State.destroy] using h.due
    doomed := (doomed_concat_of_not_isWork rfl).trans h.doomed
    died := by simpa [State.destroy] using h.died }
  log := .inr ⟨_, rfl, .of_owner rfl (by simp) (by simp) (by simp)⟩

/-- An effective start clears a flag that is clear. -/
theorem start (h : Coherent names p) (howner : p.owner = .ready) (hrunning : p.running = false)
    (width height : UInt32) :
    Advances names p { p with cancel := false, owner := .starting width height } where
  coherent := {
    accord := by
      obtain ⟨unanswered, haccord, hcount⟩ := h.accord
      rw [howner, hrunning] at haccord
      exact ⟨unanswered, hrunning ▸ haccord.of_stopped.2 width height, hcount⟩
    queue := h.queue
    running := h.running
    cancel := by simpa [howner] using h.stopping
    stopping := by simpa [howner] using h.stopping
    serving := h.serving
    attached := h.attached
    sources := h.sources
    frames := h.frames
    own := h.own
    due := h.due
    doomed := h.doomed
    died := h.died }
  log := .inl rfl

theorem callStop (h : Coherent names p) (howner : p.owner = .ready) (hrunning : p.running = true)
    (last : Bool) : Advances names p (p.callStop last) := by
  obtain ⟨unanswered, haccord, hcount⟩ := h.accord
  rw [howner, hrunning] at haccord
  obtain ⟨hone, hcancel⟩ := haccord.cancel last
  constructor
  · refine h.of_owner rfl rfl (by simp) rfl rfl rfl ⟨unanswered, ?_, ?_⟩ ?_ ?_ ?_ ?_
    · exact hrunning ▸ hcancel
    · simpa [State.callStop] using hcount
    · simpa [State.callStop] using h.queue
    · simpa [State.callStop] using h.running
    · simp [State.callStop]
    · simp [State.callStop]
  · refine .inr ⟨_, rfl, .of_owner rfl (by simp) (fun _ => ⟨h.running.trans hrunning, ?_⟩) (by simp)⟩
    intro halive
    rw [← hone (h.isLost_of_not_died halive)]
    exact hcount

/-- Dropping a loop that is not running. -/
theorem quit (h : Coherent names p) (howner : p.owner = .ready) (hrunning : p.running = false) :
    Advances names p { p with owner := .quitting } where
  coherent := {
    accord := by
      obtain ⟨unanswered, haccord, hcount⟩ := h.accord
      rw [howner, hrunning] at haccord
      exact ⟨unanswered, hrunning ▸ haccord.of_stopped.1, hcount⟩
    queue := h.queue
    running := h.running
    cancel := h.cancel
    stopping := by simpa [howner] using h.stopping
    serving := h.serving
    attached := h.attached
    sources := h.sources
    frames := h.frames
    own := h.own
    due := h.due
    doomed := h.doomed
    died := h.died }
  log := .inl rfl

/-! ## The owner goes on -/

theorem sendStart (h : Coherent names p) {width height : UInt32}
    (howner : p.owner = .starting width height) : Advances names p p.resume := by
  obtain ⟨unanswered, haccord, hcount⟩ := h.accord
  rw [howner] at haccord
  obtain ⟨hrunning, hunheard, hsent⟩ := haccord.sendStart
  have hstopping : PreviewProtocol.stopping p.log = false := by simpa [howner] using h.stopping
  simp only [State.resume, howner]
  cases hears : p.worker.hears with
  | false =>
    rw [State.send_of_not_hears hears]
    exact ⟨{ h with
      accord := ⟨unanswered, hunheard, hcount⟩
      running := h.running.trans hrunning
      stopping := hstopping }, .inl rfl⟩
  | true =>
    rw [State.send_of_hears hears]
    constructor
    · refine h.of_owner rfl rfl (by simp) rfl rfl rfl ⟨unanswered + 1, ?_, ?_⟩ ?_ ?_ ?_ ?_
      · simpa using hsent
      · simpa [← Nat.add_assoc] using hcount
      · simp [← h.queue]
      · simp
      · simpa using h.cancel
      · simpa using hstopping
    · exact .inr ⟨_, rfl, .of_owner rfl (fun _ => h.running.trans hrunning) (by simp) (by simp)⟩

theorem sendStop (h : Coherent names p) {last : Bool} (howner : p.owner = .cancelling last) :
    Advances names p p.resume := by
  obtain ⟨unanswered, haccord, hcount⟩ := h.accord
  rw [howner] at haccord
  simp only [State.resume, howner]
  cases hears : p.worker.hears with
  | false =>
    rw [State.send_of_not_hears hears]
    exact ⟨{ h with
      accord := ⟨unanswered, haccord.passStop hears, hcount⟩
      stopping := by simpa [howner] using h.stopping }, .inl rfl⟩
  | true =>
    rw [State.send_of_hears hears]
    constructor
    · refine h.of_owner rfl rfl (by simp) rfl rfl rfl ⟨unanswered, ?_, ?_⟩ ?_ ?_ ?_ ?_
      · simpa using haccord.sendStop
      · simpa using hcount
      · simp [← h.queue]
      · simpa using h.running
      · simpa using h.cancel
      · simpa [howner] using h.stopping
    · exact .inr ⟨_, rfl, .of_owner rfl (by simp) (by simp) (by simp)⟩

theorem sendQuit (h : Coherent names p) (howner : p.owner = .quitting) :
    Advances names p p.resume := by
  obtain ⟨unanswered, haccord, hcount⟩ := h.accord
  rw [howner] at haccord
  simp only [State.resume, howner]
  cases hears : p.worker.hears with
  | false =>
    rw [State.send_of_not_hears hears]
    exact ⟨{ h with
      accord := ⟨unanswered, haccord.passQuit hears, hcount⟩
      stopping := by simpa [howner] using h.stopping }, .inl rfl⟩
  | true =>
    rw [State.send_of_hears hears]
    constructor
    · refine h.of_owner rfl rfl (by simp) rfl rfl rfl ⟨unanswered, ?_, ?_⟩ ?_ ?_ ?_ ?_
      · simpa using haccord.sendQuit
      · simpa using hcount
      · simp [← h.queue]
      · simpa using h.running
      · simpa using h.cancel
      · simpa [howner] using h.stopping
    · exact .inr ⟨_, rfl, .of_owner rfl (by simp) (by simp) (by simp)⟩

theorem resume (h : Coherent names p) : Advances names p p.resume := by
  obtain ⟨unanswered, haccord, hcount⟩ := h.accord
  cases howner : p.owner with
  | ready => simpa [State.resume, howner] using h.refl
  | gone => simpa [State.resume, howner] using h.refl
  | starting width height => exact h.sendStart howner
  | cancelling last => exact h.sendStop howner
  | quitting => exact h.sendQuit howner
  | awaiting last =>
    rw [howner] at haccord
    have hstopping : PreviewProtocol.stopping p.log = true := by simpa [howner] using h.stopping
    simp only [State.resume, howner]
    split
    · rename_i hacks
      exact ⟨{ h with
        accord := ⟨unanswered, haccord.hear hacks, hcount⟩
        stopping := hstopping }, .inl rfl⟩
    · split
      · exact h.refl
      · rename_i hanswers
        exact ⟨{ h with
          accord := ⟨unanswered, haccord.giveUp (Bool.eq_false_iff.mpr hanswers), hcount⟩
          stopping := hstopping }, .inl rfl⟩
  | returning last =>
    rw [howner] at haccord
    obtain ⟨hzero, hreleased⟩ := haccord.release
    simp only [State.resume, howner]
    constructor
    · refine h.of_owner rfl rfl (by simp) rfl rfl rfl ⟨unanswered, ?_, ?_⟩ ?_ ?_ ?_ ?_
      · exact hreleased
      · simpa using hcount
      · simpa using h.queue
      · simp
      · simp
      · cases last <;> simp
    · refine .inr ⟨_, rfl, .of_owner rfl (by simp) (by simp) fun _ halive => ?_⟩
      rw [hzero (h.isLost_of_not_died halive)] at hcount
      exact hcount
  | joining =>
    rw [howner] at haccord
    simp only [State.resume, howner]
    split
    · exact h.refl
    · rename_i hears
      exact ⟨{ h with
        accord := ⟨unanswered, haccord.join (Bool.eq_false_iff.mpr hears), hcount⟩
        stopping := by simpa [howner] using h.stopping }, .inl rfl⟩

/-! ## The worker goes on -/

theorem map_fst_replace (name : String) (s : σ) (sources : List (String × σ)) :
    (PreviewLoop.replace name s sources).map Prod.fst = sources.map Prod.fst := by
  rw [PreviewLoop.replace, List.map_map]
  refine List.map_congr_left fun q _ => ?_
  by_cases h : q.1 = name <;> simp [h]

theorem mem_of_target? {name : String} {s : σ} (h : p.target? = some (name, s)) :
    p.attached = some name ∧ name ∈ p.sources.map Prod.fst := by
  rw [State.target?] at h
  cases hattached : p.attached with
  | none => simp [hattached] at h
  | some source =>
    simp only [hattached, Option.map_eq_some_iff] at h
    obtain ⟨s', hlookup, heq⟩ := h
    obtain ⟨rfl, rfl⟩ : source = name ∧ s' = s := by simpa using heq
    obtain ⟨before, after, hsources, -⟩ := List.lookup_eq_some_iff.mp hlookup
    exact ⟨rfl, List.mem_map.mpr ⟨(source, s'), by simp [hsources], rfl⟩⟩

theorem notMem_of_target? {source : String} (h : p.target? = none) (hattached : p.attached = some source) :
    source ∉ p.sources.map Prod.fst := by
  simp only [State.target?, hattached, Option.map_eq_none_iff, List.lookup_eq_none_iff] at h
  rintro hmem
  obtain ⟨q, hq, rfl⟩ := List.mem_map.mp hmem
  simpa using h q hq

theorem receive (h : Coherent names p) {c : LoopCommand} {rest : List LoopCommand}
    (hcommands : p.commands = c :: rest) (hw : p.worker = .idle ∨ p.worker = .pausing) :
    Advances names p (p.receive c rest) := by
  obtain ⟨unanswered, haccord, hcount⟩ := h.accord
  rw [hcommands] at haccord
  have hqueue := h.queue
  rw [hcommands] at hqueue
  have hunpushed : p.worker.unpushed = [] := by rcases hw with hw | hw <;> rw [hw] <;> rfl
  have hframes := h.frames
  rw [hunpushed] at hframes
  have halive : p.worker.isLost = false := by rcases hw with hw | hw <;> rw [hw] <;> rfl
  constructor
  · refine h.of_work rfl rfl rfl rfl rfl rfl ⟨unanswered, haccord.receive hw, ?_⟩ ?_ ?_ ?_ ?_ ?_ ?_ ?_ ?_
    · simpa [State.receive] using hcount
    · simpa [State.receive] using hqueue
    · show PreviewProtocol.serving (p.log ++ [.handled c]) = (stageAfter p.worker.inSession c).inSession
      rw [serving_concat, h.serving, servingAfter_handled]
    · simp [State.receive, h.attached]
    · show PreviewProtocol.frames (p.log ++ [.handled c]) =
        (pushes (p.log ++ [.handled c])).map Push.frame ++ (stageAfter p.worker.inSession c).unpushed
      rw [unpushed_stageAfter]
      simpa using hframes
    · simp
    · rintro source heq hsession
      obtain rfl : c = .attach source := by simpa using heq
      rcases hw with hw | hw <;>
        simp_all [State.receive, State.note, stageAfter, attachedAfter]
    · show _ ↔ stageAfter p.worker.inSession c = .dying
      rw [stageAfter_eq_dying_iff]
      constructor
      · rintro ⟨width, height, hc, hlong⟩
        obtain rfl := Event.handled.inj hc
        refine ⟨Bool.eq_false_iff.mpr fun hsession => ?_, width, height, rfl, hlong⟩
        exact Accord.not_start hsession haccord
      · rintro ⟨-, width, height, rfl, hlong⟩
        exact ⟨width, height, rfl, hlong⟩
    · show _ ↔ (stageAfter p.worker.inSession c).isLost = true
      rw [isLost_stageAfter, halive]
      exact iff_of_false (by simp) Bool.false_ne_true
  · refine .inr ⟨_, rfl, h.permitted rfl rfl (by simp) ?_ ?_ halive⟩ <;>
      rcases hw with hw | hw <;> rw [hw] <;> simp

/-- A step inside a session that the log does not tell. -/
theorem move (h : Coherent names p) {worker : WorkerStage} (hw : p.worker.inSession = true)
    (hne : p.worker ≠ .due) (hw' : worker.inSession = true)
    (hunpushed : worker.unpushed = p.worker.unpushed) :
    Advances names p { p with worker := worker } where
  coherent := { h with
    accord := by
      obtain ⟨unanswered, haccord, hcount⟩ := h.accord
      exact ⟨unanswered, haccord.move hw hw', hcount⟩
    serving := h.serving.trans (hw.trans hw'.symm)
    frames := hunpushed ▸ h.frames
    due := fun source hlast _ => absurd (h.due source hlast hw).1 hne
    doomed := h.doomed.trans
      (iff_of_false (WorkerStage.not_dying_of_inSession hw) (WorkerStage.not_dying_of_inSession hw'))
    died := by
      have hlost := h.died
      rw [WorkerStage.isLost_of_inSession hw] at hlost
      rwa [WorkerStage.isLost_of_inSession hw'] }
  log := .inl rfl

theorem push (h : Coherent names p) {f : Frame} (hw : p.worker = .pushing f) :
    Advances names p ({ p with worker := .pausing }.note (.pushed ⟨f, true, 1⟩)) where
  coherent := by
    obtain ⟨unanswered, haccord, hcount⟩ := h.accord
    rw [hw] at haccord
    have hserving := h.serving
    have hframes := h.frames
    rw [hw] at hserving hframes
    refine h.of_work rfl rfl rfl rfl rfl rfl ⟨unanswered, haccord.move rfl rfl, ?_⟩
      ?_ ?_ ?_ ?_ ?_ ?_ ?_ ?_
    · simpa using hcount
    · simpa using h.queue
    · simpa using hserving
    · simpa using h.attached
    · simpa using hframes
    · simp
    · simp
    · simp
    · simp [hw]
  log := .inr ⟨_, rfl, h.permitted rfl rfl (by simp) (by simp [hw]) (by simp [hw]) (by simp [hw])⟩

theorem acknowledge (h : Coherent names p) {last : Bool} (hw : p.worker = .acknowledging last) :
    Advances names p
      ({ p with acks := 1, worker := if last then .exited else .idle }.note .acknowledged) where
  coherent := by
    obtain ⟨unanswered, haccord, hcount⟩ := h.accord
    rw [hw] at haccord
    obtain ⟨rfl, rfl, hanswered⟩ := haccord.acknowledge
    have hserving := h.serving
    have hframes := h.frames
    rw [hw] at hserving hframes
    refine h.of_work rfl rfl rfl rfl rfl rfl ⟨0, hanswered, ?_⟩ ?_ ?_ ?_ ?_ ?_ ?_ ?_ ?_
    · simpa using hcount
    · simpa using h.queue
    · simpa using hserving
    · simpa using h.attached
    · simpa using hframes
    · simp
    · simp
    · simp
    · simp [hw]
  log := .inr ⟨_, rfl, h.permitted rfl rfl (by simp) (by simp [hw]) (by simp [hw]) (by simp [hw])⟩

/-- The worker dies of a session without room for a frame. -/
theorem die (h : Coherent names p) (hw : p.worker = .dying) :
    Advances names p ({ p with worker := .mute }.note .died) := by
  obtain ⟨unanswered, haccord, hcount⟩ := h.accord
  rw [hw] at haccord
  obtain ⟨rfl, hdied⟩ := haccord.die
  have hserving := h.serving
  have hframes := h.frames
  rw [hw] at hserving hframes
  constructor
  · refine h.of_work rfl rfl rfl rfl rfl rfl ⟨1, hdied, ?_⟩ ?_ ?_ ?_ ?_ ?_ ?_ ?_ ?_
    · simpa using hcount
    · simpa using h.queue
    · simpa using hserving
    · simpa using h.attached
    · simpa using hframes
    · simp
    · simp
    · simp
    · simp
  · refine .inr ⟨_, rfl, ⟨by simp, ?_, by simp, by simp, by simp, fun _ _ => rfl,
      fun _ => ⟨h.doomed.mpr hw, hcount⟩, ?_⟩⟩
    · intro source hlast hserving'
      rw [hserving] at hserving'
      cases hserving'
    · exact fun hlost => absurd hlost (h.not_died (by rw [hw]; rfl))

/-- A dead worker gives up the queue of commands. -/
theorem leave (h : Coherent names p) (hw : p.worker = .mute) :
    Advances names p { p with worker := .dead } where
  coherent := { h with
    accord := by
      obtain ⟨unanswered, haccord, hcount⟩ := h.accord
      rw [hw] at haccord
      exact ⟨unanswered, haccord.leave, hcount⟩
    serving := by simpa [hw] using h.serving
    frames := by simpa [hw] using h.frames
    due := by simp
    doomed := by simpa [hw] using h.doomed
    died := by simpa [hw] using h.died }
  log := .inl rfl

theorem endPull (h : Coherent names p) {result : PullResult} (hw : p.worker = .pulling result) :
    Advances names p (p.endPull result) := by
  have hsession : p.worker.inSession = true := by rw [hw]; rfl
  have hne : p.worker ≠ .due := by rw [hw]; simp
  cases result with
  | frame f => exact h.move hsession hne rfl (by rw [hw]; rfl)
  | nothing => exact h.move hsession hne rfl (by rw [hw]; rfl)
  | waits =>
    rw [State.endPull]
    split
    · exact h.move hsession hne rfl (by rw [hw]; rfl)
    · exact h.refl

section Worker

variable [FrameSource σ]

theorem beginPull (h : Coherent names p) (hw : p.worker = .due) : Advances names p p.beginPull := by
  obtain ⟨unanswered, haccord, hcount⟩ := h.accord
  rw [hw] at haccord
  have hserving := h.serving
  have hframes := h.frames
  rw [hw] at hserving hframes
  have hrunning : PreviewProtocol.running p.log = true :=
    h.running.trans (haccord.running_of_inSession rfl)
  have hdue {source : String} (hlast : lastWork? p.log = some (.handled (.attach source))) :
      p.attached = some source := (h.due source hlast (by rw [hw]; rfl)).2
  have hspared : ¬ Doomed p.log := by simp [h.doomed, hw]
  have halive : .died ∉ p.log := h.not_died (by rw [hw]; rfl)
  cases htarget : p.target? with
  | none =>
    rw [State.beginPull, htarget]
    constructor
    · refine h.of_work rfl rfl rfl rfl rfl rfl ⟨unanswered, haccord.move rfl rfl, ?_⟩
        ?_ ?_ ?_ ?_ ?_ ?_ ?_ ?_
      · simpa using hcount
      · simpa using h.queue
      · simpa using hserving
      · simpa using h.attached
      · simpa using hframes
      · simp
      · simp
      · simp
      · simp [hw]
    · refine .inr ⟨_, rfl, ?_⟩
      refine ⟨by simp, fun source hlast _ _ => .inr ⟨rfl, ?_⟩, by simp, by simp, by simp,
        fun hdoomed => absurd hdoomed hspared, by simp, fun hlost => absurd hlost halive⟩
      exact fun hstanding => notMem_of_target? htarget (hdue hlast) ((h.sources source).mpr hstanding)
  | some target =>
    obtain ⟨name, s⟩ := target
    obtain ⟨hattached, hmem⟩ := mem_of_target? htarget
    rw [State.beginPull, htarget]
    constructor
    · refine h.of_work rfl rfl rfl rfl rfl ?_ ⟨unanswered, haccord.move rfl rfl, ?_⟩
        ?_ ?_ ?_ ?_ ?_ ?_ ?_ ?_
      · exact map_fst_replace name _ p.sources
      · simpa using hcount
      · simpa using h.queue
      · simpa using hserving
      · simpa using h.attached
      · simpa using hframes
      · simp
      · simp
      · simp
      · simp [hw]
    · refine .inr ⟨_, rfl, ?_⟩
      refine ⟨?_, fun source hlast _ _ => .inl ⟨_, rfl, ?_⟩, by simp, by simp, by simp,
        fun hdoomed => absurd hdoomed hspared, by simp, fun hlost => absurd hlost halive⟩
      · rintro r heq
        obtain rfl := Event.pulled.inj heq
        exact ⟨hrunning, h.attached.trans hattached, (h.sources name).mp hmem, h.cancel.symm⟩
      · exact Option.some.inj (hattached.symm.trans (hdue hlast))

theorem work (h : Coherent names p) : Advances names p p.work := by
  cases hw : p.worker with
  | idle =>
    cases hcommands : p.commands with
    | nil => simpa [State.work, hw, hcommands] using h.refl
    | cons c rest => simpa [State.work, hw, hcommands] using h.receive hcommands (.inl hw)
  | due => simpa [State.work, hw] using h.beginPull hw
  | pulling result => simpa [State.work, hw] using h.endPull hw
  | pushing f => simpa [State.work, hw] using h.push hw
  | pausing =>
    cases hcommands : p.commands with
    | nil =>
      have hmove : Advances names p { p with worker := .due } :=
        h.move (by rw [hw]; rfl) (by rw [hw]; simp) rfl (by rw [hw]; rfl)
      simpa [State.work, hw, hcommands] using hmove
    | cons c rest => simpa [State.work, hw, hcommands] using h.receive hcommands (.inr hw)
  | acknowledging last =>
    simp only [State.work, hw]
    split
    · exact h.acknowledge hw
    · exact h.refl
  | dying => simpa [State.work, hw] using h.die hw
  | mute => simpa [State.work, hw] using h.leave hw
  | exited => simpa [State.work, hw] using h.refl
  | dead => simpa [State.work, hw] using h.refl

/-! ## Turns -/

/-- What one turn comes to. -/
theorem step (h : Coherent names p) (t : Turn) : Advances names p (p.step t) := by
  cases t with
  | attach source =>
    rw [State.step]
    split
    · exact h.refl
    · exact h.attach source
  | destroy source => exact h.destroy source
  | start width height =>
    rw [State.step]
    split
    · rename_i hready
      exact h.start hready.1 hready.2 width height
    · exact h.refl
  | stop =>
    rw [State.step]
    split
    · rename_i hready
      exact h.callStop hready.1 hready.2 false
    · exact h.refl
  | drop =>
    rw [State.step]
    split
    · rename_i hready
      split
      · exact h.callStop hready ‹_› true
      · exact h.quit hready (Bool.eq_false_iff.mpr ‹_›)
    · exact h.refl
  | resume => exact h.resume
  | work => exact h.work

end Worker

end Coherent

end Steps

theorem coherent_spawn (sources : List (String × σ)) :
    Coherent (sources.map Prod.fst) (State.spawn sources) where
  accord := ⟨0, .stopped (.inl rfl), rfl⟩
  queue := rfl
  running := rfl
  cancel := rfl
  stopping := rfl
  serving := rfl
  attached := rfl
  sources _ := (and_iff_left List.not_mem_nil).symm
  frames := rfl
  own := by simp [State.spawn, pushes]
  due := by simp [State.spawn, lastWork?]
  doomed := by simp [State.spawn, Doomed, lastWork?]
  died := by simp [State.spawn]

/-! ## Runs -/

/-- Every event of the log is in its place behind the events before it. -/
def Lawful (names : List String) (log : List (Event σ)) : Prop :=
  ∀ before e after, log = before ++ e :: after → Permitted names before e

theorem lawful_concat {names : List String} {log : List (Event σ)} {e : Event σ} (h : Lawful names log)
    (he : Permitted names log e) : Lawful names (log ++ [e]) := by
  intro before e' after heq
  rcases List.eq_nil_or_concat after with rfl | ⟨after, last, rfl⟩
  · obtain ⟨rfl, rfl⟩ : log = before ∧ e = e' := by simpa using List.append_inj' heq rfl
    exact he
  · rw [List.concat_eq_append, ← List.cons_append, ← List.append_assoc] at heq
    exact h before e' after (List.append_inj' heq rfl).1

section Runs

variable [FrameSource σ] {names : List String} {p : State σ}

/-- What a turn of the worker leaves alone. -/
theorem work_frame (p : State σ) :
    p.work.owner = p.owner ∧ p.work.cancel = p.cancel ∧ p.work.running = p.running ∧
      (p.acks ≠ 0 → p.work.acks = p.acks) := by
  cases hw : p.worker with
  | idle => cases hc : p.commands <;> simp [State.work, hw, hc, State.receive]
  | due => cases ht : p.target? <;> simp [State.work, hw, State.beginPull, ht]
  | pulling result =>
    cases result <;> cases hcancel : p.cancel <;> simp [State.work, hw, State.endPull, hcancel]
  | pushing f => simp [State.work, hw]
  | pausing => cases hc : p.commands <;> simp [State.work, hw, hc, State.receive]
  | acknowledging last => by_cases ha : p.acks = 0 <;> simp [State.work, hw, ha]
  | exited => simp [State.work, hw]
  | dying => simp [State.work, hw]
  | mute => simp [State.work, hw]
  | dead => simp [State.work, hw]

theorem run_cons (p : State σ) (t : Turn) (turns : List Turn) :
    p.run (t :: turns) = (p.step t).run turns := rfl

theorem run_append (p : State σ) (turns more : List Turn) :
    p.run (turns ++ more) = (p.run turns).run more := List.foldl_append

theorem run_concat (p : State σ) (turns : List Turn) (t : Turn) :
    p.run (turns ++ [t]) = (p.run turns).step t := by
  rw [run_append]
  rfl

theorem coherent_run (h : Coherent names p) (turns : List Turn) : Coherent names (p.run turns) := by
  induction turns generalizing p with
  | nil => exact h
  | cons t turns ih => exact ih (h.step t).coherent

theorem lawful_run (h : Coherent names p) (hlog : Lawful names p.log) (turns : List Turn) :
    Lawful names (p.run turns).log := by
  induction turns generalizing p with
  | nil => exact hlog
  | cons t turns ih =>
    obtain ⟨hcoherent, heq | ⟨e, heq, he⟩⟩ := h.step t
    · exact ih hcoherent (heq ▸ hlog)
    · exact ih hcoherent (heq ▸ lawful_concat hlog he)

end Runs

end VideoCapture.PreviewProtocol
