import VideoCapture.PreviewLoop

/-!
# The parties of a preview loop

The owner of a preview loop and its worker, one access to what they share at a time, so that their steps
may be taken in any order. They share a queue of commands, a queue of acknowledgements with room for one,
and the cancel flag. A list of turns says who goes on when; a party whose turn it is and that has to wait
does nothing.

A worker that has no room for a frame dies. It first gives up its end of the queue of acknowledgements, which
ends a stop that waits, and then its end of the queue of commands, after which none is sent any more.

`PreviewLoop` is the same loop under an eager worker, which does all that it can before the owner goes on.

## Main definitions

* `OwnerPhase`, `WorkerStage` — where the two stand.
* `Event` — what the log of the parties tells.
* `State`, `State.step`, `State.run` — the two parties, one turn, and a list of turns.
-/

namespace VideoCapture.PreviewProtocol

/-- Where the owner stands. `last` tells a stop that is part of dropping the loop. -/
inductive OwnerPhase where
  /-- Between two calls. -/
  | ready
  /-- In a start: the flag is clear, the command is not sent yet. -/
  | starting (width height : UInt32)
  /-- In a stop: the flag is set, the command is not sent yet. -/
  | cancelling (last : Bool)
  /-- In a stop, waiting for the acknowledgement. -/
  | awaiting (last : Bool)
  /-- At the end of a stop, acknowledged or not; the flag is still set. -/
  | returning (last : Bool)
  /-- Dropping the loop after it was stopped. -/
  | quitting
  /-- Waiting for the end of the worker. -/
  | joining
  | gone
  deriving DecidableEq

/-- The owner is done with the loop, so nobody attaches a source any more. -/
def OwnerPhase.isDropping : OwnerPhase → Bool
  | cancelling last => last
  | awaiting last => last
  | returning last => last
  | quitting => true
  | joining => true
  | gone => true
  | _ => false

/-- Where the worker stands. -/
inductive WorkerStage where
  /-- Outside a session, waiting for a command. -/
  | idle
  /-- In a session, before a pull. -/
  | due
  /-- Inside a pull, and what that comes to. -/
  | pulling (result : PullResult)
  /-- With a frame that is not pushed yet. -/
  | pushing (f : Frame)
  /-- In a session, waiting for a command or for the end of the pause. -/
  | pausing
  /-- At the end of a session, before the acknowledgement; `last` if the worker ends with it. -/
  | acknowledging (last : Bool)
  | exited
  /-- At the beginning of a session, without room for a frame. -/
  | dying
  /-- No acknowledgement will come any more; commands can still be sent. -/
  | mute
  /-- Nobody hears a command any more. -/
  | dead
  deriving DecidableEq

def WorkerStage.inSession : WorkerStage → Bool
  | due => true
  | pulling _ => true
  | pushing _ => true
  | pausing => true
  | _ => false

/-- Whether commands can be sent to the worker. -/
def WorkerStage.hears : WorkerStage → Bool
  | exited => false
  | dead => false
  | _ => true

/-- Whether an acknowledgement may still come from the worker. -/
def WorkerStage.answers : WorkerStage → Bool
  | exited => false
  | mute => false
  | dead => false
  | _ => true

/-- Where a command leads the worker. Inside a session, whatever does not end it leads to a pull. A session
begins with room for a frame, or not at all. -/
def stageAfter (inSession : Bool) : LoopCommand → WorkerStage
  | .attach _ => if inSession then .due else .idle
  | .start width height =>
    if inSession || (⟨width, height⟩ : FrameSize).fits then .due else .dying
  | .stop => .acknowledging false
  | .quit => if inSession then .acknowledging true else .exited

/-- The source to pull from, after a command. -/
def attachedAfter (attached : Option String) : LoopCommand → Option String
  | .attach source => some source
  | _ => attached

/-- What happens, in the order of the accesses to what is shared. -/
inductive Event (σ : Type) where
  | sent (c : LoopCommand)
  /-- A stop that has something to stop sets the flag. -/
  | stopCalled
  /-- That stop has cleared the flag again. -/
  | stopReturned
  | destroyed (source : String)
  | handled (c : LoopCommand)
  /-- A pull begins. -/
  | pulled (r : PullRecord σ)
  /-- A pull was due, but there is no source. -/
  | passed
  | pushed (p : Push)
  | acknowledged
  /-- The worker has died: no acknowledgement will come any more. -/
  | died

/-- The parties over sources of type `σ`. -/
structure State (σ : Type) where
  sources : List (String × σ)
  running : Bool
  cancel : Bool
  /-- Commands sent and not received yet, the oldest first. -/
  commands : List LoopCommand
  /-- Acknowledgements given and not received yet. -/
  acks : Nat
  attached : Option String
  owner : OwnerPhase
  worker : WorkerStage
  log : List (Event σ)

/-- One turn: a call of the owner, the end of a source, or the next access of either party. -/
inductive Turn where
  | attach (source : String)
  | destroy (source : String)
  | start (width height : UInt32)
  | stop
  | drop
  /-- The owner goes on with the call that it is in. -/
  | resume
  /-- The worker goes on. Between two pulls without a command, the pause is over. -/
  | work
  deriving DecidableEq

namespace State

variable {σ : Type}

def spawn (sources : List (String × σ)) : State σ where
  sources := sources
  running := false
  cancel := false
  commands := []
  acks := 0
  attached := none
  owner := .ready
  worker := .idle
  log := []

def note (e : Event σ) (p : State σ) : State σ := { p with log := p.log ++ [e] }

/-- A command is sent, if it can be. -/
def send (c : LoopCommand) (p : State σ) : State σ :=
  if p.worker.hears then { p with commands := p.commands ++ [c] }.note (.sent c) else p

theorem send_of_hears {p : State σ} (h : p.worker.hears = true) (c : LoopCommand) :
    p.send c = { p with commands := p.commands ++ [c] }.note (.sent c) := if_pos h

theorem send_of_not_hears {p : State σ} (h : p.worker.hears = false) (c : LoopCommand) :
    p.send c = p := if_neg (Bool.eq_false_iff.mp h)

/-- A source goes out of existence. A pull of it that is under way goes on. -/
def destroy (source : String) (p : State σ) : State σ :=
  { p with sources := p.sources.filter fun q => q.1 ≠ source }.note (.destroyed source)

/-! ## The owner -/

/-- A stop of a running loop begins. -/
def callStop (last : Bool) (p : State σ) : State σ :=
  { p with cancel := true, owner := .cancelling last }.note .stopCalled

/-- The owner goes on with the call that it is in. -/
def resume (p : State σ) : State σ :=
  match p.owner with
  | .starting width height =>
    { p.send (.start width height) with running := p.worker.hears, owner := .ready }
  | .cancelling last =>
    { p.send .stop with owner := if p.worker.hears then .awaiting last else .returning last }
  | .awaiting last =>
    if p.acks ≠ 0 then { p with acks := p.acks - 1, owner := .returning last }
    else if p.worker.answers then p
    else { p with owner := .returning last }
  | .returning last =>
    { p with cancel := false, running := false, owner := if last then .quitting else .ready }.note
      .stopReturned
  | .quitting => { p.send .quit with owner := .joining }
  | .joining => if p.worker.hears then p else { p with owner := .gone }
  | .ready => p
  | .gone => p

/-! ## The worker -/

/-- The worker takes a command from the queue. -/
def receive (c : LoopCommand) (rest : List LoopCommand) (p : State σ) : State σ :=
  { p with
    commands := rest
    attached := attachedAfter p.attached c
    worker := stageAfter p.worker.inSession c }.note (.handled c)

/-- The attached source, if it still exists. -/
def target? (p : State σ) : Option (String × σ) :=
  match p.attached with
  | none => none
  | some name => (p.sources.lookup name).map fun s => (name, s)

/-- A pull ends, unless it waits to be cancelled. -/
def endPull (result : PullResult) (p : State σ) : State σ :=
  match result with
  | .frame f => { p with worker := .pushing f }
  | .nothing => { p with worker := .pausing }
  | .waits => if p.cancel then { p with worker := .pausing } else p

section Worker

variable [FrameSource σ]

/-- A pull begins, if there is a source. -/
def beginPull (p : State σ) : State σ :=
  match p.target? with
  | none => { p with worker := .pausing }.note .passed
  | some (name, s) =>
    let (result, after) := FrameSource.pull p.cancel s
    { p with
      sources := PreviewLoop.replace name after p.sources
      worker := .pulling result }.note (.pulled ⟨name, p.cancel, s, result, after⟩)

/-- The worker goes on. There is room for one acknowledgement only. -/
def work (p : State σ) : State σ :=
  match p.worker with
  | .idle =>
    match p.commands with
    | [] => p
    | c :: rest => p.receive c rest
  | .due => p.beginPull
  | .pulling result => p.endPull result
  | .pushing f => { p with worker := .pausing }.note (.pushed ⟨f, true, 1⟩)
  | .pausing =>
    match p.commands with
    | [] => { p with worker := .due }
    | c :: rest => p.receive c rest
  | .acknowledging last =>
    if p.acks = 0 then
      { p with acks := 1, worker := if last then .exited else .idle }.note .acknowledged
    else p
  | .exited => p
  | .dying => { p with worker := .mute }.note .died
  | .mute => { p with worker := .dead }
  | .dead => p

/-! ## Both -/

def step (p : State σ) : Turn → State σ
  | .attach source => if p.owner.isDropping then p else p.send (.attach source)
  | .destroy source => p.destroy source
  | .start width height =>
    if p.owner = .ready ∧ p.running = false then
      { p with cancel := false, owner := .starting width height }
    else p
  | .stop => if p.owner = .ready ∧ p.running = true then p.callStop false else p
  | .drop =>
    if p.owner = .ready then
      if p.running then p.callStop true else { p with owner := .quitting }
    else p
  | .resume => p.resume
  | .work => p.work

/-- The parties take turns as listed. -/
def run (p : State σ) (turns : List Turn) : State σ := turns.foldl step p

end Worker

end State

end VideoCapture.PreviewProtocol
