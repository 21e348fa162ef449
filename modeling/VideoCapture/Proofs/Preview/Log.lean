import VideoCapture.PreviewProtocol

/-!
# What a log of the preview tells

The commands sent and handled, the pulls and pushes, and how far the sessions have come, read off a log
alone.

## Main definitions

* `sent`, `handled`, `pulls`, `frames`, `pushes` — what the log lists, in order.
* `running`, `stopping`, `serving` — whether the owner has a session, waits for its end, and whether the
  worker is in one.
* `attachedIn`, `Standing` — the source handled last, and whether a source exists.
* `starts`, `acknowledgements`, `lastWork?` — sessions begun and acknowledged, and the worker's last
  event.
* `Doomed` — that event is a start without room for a frame.
-/

namespace VideoCapture

def PullResult.frame? : PullResult → Option Frame
  | frame f => some f
  | _ => none

namespace PreviewProtocol

variable {σ : Type}

namespace Event

def sent? : Event σ → Option LoopCommand
  | sent c => some c
  | _ => none

def handled? : Event σ → Option LoopCommand
  | handled c => some c
  | _ => none

def pull? : Event σ → Option (PullRecord σ)
  | pulled r => some r
  | _ => none

def push? : Event σ → Option Push
  | pushed p => some p
  | _ => none

/-- The frame that a pull yields. -/
def frame? : Event σ → Option Frame
  | pulled r => r.result.frame?
  | _ => none

/-- Begins a session of the owner. -/
def isStart : Event σ → Bool
  | sent (.start _ _) => true
  | _ => false

def isAcknowledgement : Event σ → Bool
  | acknowledged => true
  | _ => false

/-- The worker's. -/
def isWork : Event σ → Bool
  | handled _ => true
  | pulled _ => true
  | passed => true
  | pushed _ => true
  | acknowledged => true
  | died => true
  | _ => false

def runningAfter (running : Bool) : Event σ → Bool
  | sent (.start _ _) => true
  | stopReturned => false
  | _ => running

def stoppingAfter (stopping : Bool) : Event σ → Bool
  | stopCalled => true
  | stopReturned => false
  | _ => stopping

def servingAfter (serving : Bool) : Event σ → Bool
  | handled (.start width height) => serving || (⟨width, height⟩ : FrameSize).fits
  | handled .stop => false
  | handled .quit => false
  | _ => serving

def attachedAfter (attached : Option String) : Event σ → Option String
  | handled c => PreviewProtocol.attachedAfter attached c
  | _ => attached

end Event

def sent (log : List (Event σ)) : List LoopCommand := log.filterMap Event.sent?

def handled (log : List (Event σ)) : List LoopCommand := log.filterMap Event.handled?

def pulls (log : List (Event σ)) : List (PullRecord σ) := log.filterMap Event.pull?

/-- The frames that were pulled. -/
def frames (log : List (Event σ)) : List Frame := log.filterMap Event.frame?

def pushes (log : List (Event σ)) : List Push := log.filterMap Event.push?

/-- Since the last effective start no stop has returned. -/
def running (log : List (Event σ)) : Bool := log.foldl Event.runningAfter false

/-- An effective stop has been called and has not returned. -/
def stopping (log : List (Event σ)) : Bool := log.foldl Event.stoppingAfter false

/-- The worker has handled a start that it had room for, and no command since then that ends the session. -/
def serving (log : List (Event σ)) : Bool := log.foldl Event.servingAfter false

/-- The source that was attached by the command handled last. -/
def attachedIn (log : List (Event σ)) : Option String := log.foldl Event.attachedAfter none

/-- One of the sources `names`, and not destroyed. -/
def Standing (names : List String) (log : List (Event σ)) (source : String) : Prop :=
  source ∈ names ∧ .destroyed source ∉ log

/-- Effective starts. -/
def starts (log : List (Event σ)) : Nat := log.countP Event.isStart

def acknowledgements (log : List (Event σ)) : Nat := log.countP Event.isAcknowledgement

/-- The last event of the worker. -/
def lastWork? (log : List (Event σ)) : Option (Event σ) := (log.filter Event.isWork).getLast?

/-- The worker has begun a session without room for a frame, and done nothing since. -/
def Doomed (log : List (Event σ)) : Prop :=
  ∃ width height, lastWork? log = some (.handled (.start width height)) ∧
    roomLimit ≤ (⟨width, height⟩ : FrameSize).byteLength

/-! ## One more event -/

section Concat

variable (log : List (Event σ)) (e : Event σ)

@[simp] theorem sent_concat : sent (log ++ [e]) = sent log ++ e.sent?.toList := by
  cases h : e.sent? <;> simp [sent, h]

@[simp] theorem handled_concat : handled (log ++ [e]) = handled log ++ e.handled?.toList := by
  cases h : e.handled? <;> simp [handled, h]

@[simp] theorem pulls_concat : pulls (log ++ [e]) = pulls log ++ e.pull?.toList := by
  cases h : e.pull? <;> simp [pulls, h]

@[simp] theorem frames_concat : frames (log ++ [e]) = frames log ++ e.frame?.toList := by
  cases h : e.frame? <;> simp [frames, h]

@[simp] theorem pushes_concat : pushes (log ++ [e]) = pushes log ++ e.push?.toList := by
  cases h : e.push? <;> simp [pushes, h]

@[simp] theorem running_concat : running (log ++ [e]) = e.runningAfter (running log) := by
  simp [running]

@[simp] theorem stopping_concat : stopping (log ++ [e]) = e.stoppingAfter (stopping log) := by
  simp [stopping]

@[simp] theorem serving_concat : serving (log ++ [e]) = e.servingAfter (serving log) := by
  simp [serving]

@[simp] theorem attachedIn_concat :
    attachedIn (log ++ [e]) = e.attachedAfter (attachedIn log) := by
  simp [attachedIn]

@[simp] theorem starts_concat : starts (log ++ [e]) = starts log + e.isStart.toNat := by
  cases h : e.isStart <;> simp [starts, h]

@[simp] theorem acknowledgements_concat :
    acknowledgements (log ++ [e]) = acknowledgements log + e.isAcknowledgement.toNat := by
  cases h : e.isAcknowledgement <;> simp [acknowledgements, h]

@[simp] theorem lastWork?_concat :
    lastWork? (log ++ [e]) = if e.isWork then some e else lastWork? log := by
  cases h : e.isWork <;> simp [lastWork?, h]

variable {log e}

theorem doomed_concat_of_not_isWork (h : e.isWork = false) : Doomed (log ++ [e]) ↔ Doomed log := by
  rw [Doomed, lastWork?_concat, h, if_neg Bool.false_ne_true]
  rfl

theorem doomed_concat_of_isWork (h : e.isWork = true) :
    Doomed (log ++ [e]) ↔ ∃ width height, e = .handled (.start width height) ∧
      roomLimit ≤ (⟨width, height⟩ : FrameSize).byteLength := by
  rw [Doomed, lastWork?_concat, if_pos h]
  simp only [Option.some.injEq]

end Concat

attribute [simp] State.note Event.sent? Event.handled? Event.pull? Event.frame? Event.push?
  Event.isStart Event.isAcknowledgement Event.isWork Event.runningAfter Event.stoppingAfter
  Event.servingAfter Event.attachedAfter

end PreviewProtocol

end VideoCapture
