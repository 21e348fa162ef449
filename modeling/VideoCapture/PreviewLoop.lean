import VideoCapture.Frame.Length
import VideoCapture.Text.Record

/-!
# The preview loop

A long-lived worker that pulls frames from a source and pushes them to the display. Its owner talks
to it through a queue of commands and through a cancel flag that is set while a stop is under way.

The worker handles a command as soon as it is not inside a pull. A pull that waits for its source
ends only when the flag is set, so commands may queue up behind it. At the beginning of a session it makes
room for a frame; where a buffer cannot be that long it dies, and from then on nobody hears a command.

## Main definitions

* `FrameSource` — what the worker pulls from.
* `PreviewLoop` — the sources that exist, the owner's side, the commands under way and the worker.
* `PreviewLoop.attach`, `start`, `stop`, `destroy`, `tick`, `shutDown` — everything that can happen.
-/

namespace VideoCapture

/-- What a pull comes to. -/
inductive PullResult where
  | frame (f : Frame)
  | nothing
  /-- The source waits until the pull is cancelled, and then yields nothing. -/
  | waits
  deriving DecidableEq

/-- What the worker pulls from; the flag tells whether the pull begins cancelled. -/
class FrameSource (σ : Type) where
  pull : Bool → σ → PullResult × σ

/-- What the owner tells the worker. A source is referred to by its name; the reference does not keep
it in existence. -/
inductive LoopCommand where
  | attach (source : String)
  | start (width height : UInt32)
  | stop
  | quit
  deriving DecidableEq

inductive WorkerPhase where
  /-- Outside a session. -/
  | idle
  /-- In a session, between two pulls. -/
  | waiting
  /-- In a session, inside a pull that waits to be cancelled. -/
  | blocked
  /-- After the last command. -/
  | exited
  /-- After a session without room for a frame. -/
  | dead
  deriving DecidableEq

structure PullRecord (σ : Type) where
  source : String
  /-- Whether the cancel flag was set when the pull began. -/
  cancelled : Bool
  before : σ
  result : PullResult
  after : σ

/-- A frame that was pushed to the display. -/
structure Push where
  frame : Frame
  isLocal : Bool
  /-- The number of devices that feed the display. -/
  active : Nat
  deriving DecidableEq

/-- A preview loop over sources of type `σ`. -/
structure PreviewLoop (σ : Type) where
  sources : List (String × σ)
  /-- Whether the owner has started the loop and not stopped it. -/
  running : Bool
  cancel : Bool
  /-- Commands sent and not handled yet, the oldest first. -/
  commands : List LoopCommand
  attached : Option String
  phase : WorkerPhase
  /-- Stops that were acknowledged. -/
  acks : Nat
  pulls : List (PullRecord σ)
  pushes : List Push

namespace PreviewLoop

variable {σ : Type}

def spawn (sources : List (String × σ)) : PreviewLoop σ where
  sources := sources
  running := false
  cancel := false
  commands := []
  attached := none
  phase := .idle
  acks := 0
  pulls := []
  pushes := []

/-- `sources` with the named one replaced. -/
def replace (name : String) (s : σ) (sources : List (String × σ)) : List (String × σ) :=
  sources.map fun p => if p.1 = name then (name, s) else p

/-- The attached source, if it still exists. -/
def target? (l : PreviewLoop σ) : Option (String × σ) :=
  match l.attached with
  | none => none
  | some name => (l.sources.lookup name).map fun s => (name, s)

/-- A frame goes to the display as one of our own camera, the only active device. -/
def push (f : Frame) (l : PreviewLoop σ) : PreviewLoop σ :=
  { l with pushes := l.pushes ++ [⟨f, true, 1⟩] }

/-- Whether somebody hears what the owner sends. -/
def hears (l : PreviewLoop σ) : Bool := l.phase ≠ .exited && l.phase ≠ .dead

theorem hears_of_session {l : PreviewLoop σ} (h : l.phase = .waiting ∨ l.phase = .blocked) :
    l.hears = true := by
  rcases h with h | h <;> simp [hears, h]

theorem hears_of_dead {l : PreviewLoop σ} (h : l.phase = .dead) : l.hears = false := by simp [hears, h]

/-- The worker stands in a session after a pull. A cancelled pull does not wait. -/
def settle (result : PullResult) (l : PreviewLoop σ) : PreviewLoop σ :=
  match result with
  | .frame f => { l.push f with phase := .waiting }
  | .nothing => { l with phase := .waiting }
  | .waits => { l with phase := if l.cancel then .waiting else .blocked }

section Worker

variable [FrameSource σ]

/-- The worker pulls once, if there is a source. -/
def pull (l : PreviewLoop σ) : PreviewLoop σ :=
  match l.target? with
  | none => { l with phase := .waiting }
  | some (name, s) =>
    let (result, after) := FrameSource.pull l.cancel s
    settle result
      { l with
        sources := replace name after l.sources
        pulls := l.pulls ++ [⟨name, l.cancel, s, result, after⟩] }

theorem pull_of_none {l : PreviewLoop σ} (h : l.target? = none) :
    l.pull = { l with phase := .waiting } := by
  rw [pull, h]

theorem pull_of_some {l : PreviewLoop σ} {name : String} {s after : σ} {result : PullResult}
    (h : l.target? = some (name, s)) (hpull : FrameSource.pull l.cancel s = (result, after)) :
    l.pull = settle result
      { l with
        sources := replace name after l.sources
        pulls := l.pulls ++ [⟨name, l.cancel, s, result, after⟩] } := by
  rw [pull, h]
  simp only [hpull]

/-- After a pull the worker stands in a session. -/
theorem pull_session (l : PreviewLoop σ) : l.pull.phase = .waiting ∨ l.pull.phase = .blocked := by
  cases h : l.target? with
  | none =>
    rw [pull_of_none h]
    exact .inl rfl
  | some target =>
    obtain ⟨name, s⟩ := target
    cases hpull : FrameSource.pull l.cancel s with
    | mk result after =>
      rw [pull_of_some h hpull]
      cases result with
      | frame | nothing => exact .inl rfl
      | waits => cases hcancel : l.cancel <;> simp [settle]

/-- The worker handles one command. Inside a session, whatever does not end it leads to a pull. -/
def handle (c : LoopCommand) (l : PreviewLoop σ) : PreviewLoop σ :=
  match l.phase, c with
  | .idle, .attach source => { l with attached := some source }
  | .idle, .start width height =>
    if (⟨width, height⟩ : FrameSize).fits then l.pull else { l with phase := .dead }
  | .idle, .stop => { l with acks := l.acks + 1 }
  | .idle, .quit => { l with phase := .exited }
  | .waiting, .attach source => { l with attached := some source }.pull
  | .waiting, .start _ _ => l.pull
  | .waiting, .stop => { l with phase := .idle, acks := l.acks + 1 }
  | .waiting, .quit => { l with phase := .exited, acks := l.acks + 1 }
  | .blocked, _ => l
  | .exited, _ => l
  | .dead, _ => l

/-- The worker handles commands in order until it is inside a pull, or at its end. -/
def drain : List LoopCommand → PreviewLoop σ → PreviewLoop σ
  | [], l => { l with commands := [] }
  | c :: rest, l =>
    if l.phase = .blocked ∨ l.hears = false then { l with commands := c :: rest }
    else drain rest (l.handle c)

/-- A command for the worker. Without a worker it is lost. -/
def send (c : LoopCommand) (l : PreviewLoop σ) : PreviewLoop σ :=
  if l.hears then l.drain (l.commands ++ [c]) else l

/-- The owner names the source to pull from. -/
def attach (source : String) (l : PreviewLoop σ) : PreviewLoop σ := l.send (.attach source)

/-- The owner starts a session, unless one is running. The loop runs from then on, if somebody hears the
command. -/
def start (width height : UInt32) (l : PreviewLoop σ) : PreviewLoop σ :=
  if l.running then l
  else { { l with cancel := false }.send (.start width height) with running := l.hears }

/-- A pull that waits ends now that it is cancelled. -/
def unblock (l : PreviewLoop σ) : PreviewLoop σ :=
  if l.phase = .blocked then { l with phase := .waiting } else l

/-- The owner ends the session, if one is running: the cancel flag is set until the worker has
acknowledged, or has been found dead. -/
def stop (l : PreviewLoop σ) : PreviewLoop σ :=
  if l.running then
    { { l with cancel := true }.unblock.send .stop with cancel := false, running := false }
  else l

/-- The pause between two pulls is over. -/
def tick (l : PreviewLoop σ) : PreviewLoop σ :=
  if l.phase = .waiting ∧ l.commands = [] then l.pull else l

/-- The owner is done with the loop. -/
def shutDown (l : PreviewLoop σ) : PreviewLoop σ := l.stop.send .quit

/-! ## A loop that nobody hears -/

section Unheard

variable {l : PreviewLoop σ}

theorem send_of_hears (h : l.hears = true) (c : LoopCommand) :
    l.send c = l.drain (l.commands ++ [c]) := if_pos h

theorem send_of_not_hears (h : l.hears = false) (c : LoopCommand) : l.send c = l :=
  if_neg (Bool.eq_false_iff.mp h)

theorem start_of_not_hears (hl : l.running = false) (h : l.hears = false) (width height : UInt32) :
    l.start width height = { l with cancel := false } := by
  have hsame : ({ l with cancel := false } : PreviewLoop σ).hears = false := h
  rw [start, if_neg (Bool.eq_false_iff.mp hl), send_of_not_hears hsame, h, ← hl]

theorem stop_of_not_hears (hl : l.running = true) (h : l.hears = false) :
    l.stop = { l with cancel := false, running := false } := by
  have hphase : l.phase ≠ .blocked := by
    intro hblocked
    simp [hears, hblocked] at h
  have hsame : ({ l with cancel := true } : PreviewLoop σ).hears = false := h
  rw [stop, if_pos hl, unblock, if_neg hphase, send_of_not_hears hsame]

end Unheard

end Worker

def destroy (source : String) (l : PreviewLoop σ) : PreviewLoop σ :=
  { l with sources := l.sources.filter fun p => p.1 ≠ source }

def describe (l : PreviewLoop σ) : String :=
  Text.record "PreviewLoop" [("running", Text.boolean l.running)]

end PreviewLoop

end VideoCapture
