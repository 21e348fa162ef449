import VideoCapture.Controller.Builder
import VideoCapture.Controller.Operation

/-!
# Handing out notifications

A controller hands every notification to its main context as soon as its lock is released. An
immediate context calls the observers at once; a queue keeps the notification until the application
drains it. Observers may ask for operations while they are being told, and these hand out what they
find in the outbox before they return.

Nested requests are followed to a given depth; a controller remembers when it had to cut one off.

## Main definitions

* `Observer` — what is told about notifications.
* `Controller` — the state with its observers, its main context and a journal of what they were told.
* `Controller.performAt` — an operation with nested requests to a depth.
* `Controller.perform` — an operation with all nested requests that the observers have in store.
* `Controller.runOne`, `Controller.runPending` — draining a queue.
-/

namespace VideoCapture

/-- What is told about notifications. Being told may change the observer and make it ask for
operations. `patience` bounds how often it will still ask. -/
class Observer (β ω : Type) where
  receive : Notification → ω → List (Operation β) × ω
  patience : ω → Nat

/-- What happened to observers, named by their positions. -/
inductive JournalEntry (β : Type) where
  | delivered (observer : Nat) (notification : Notification)
  /-- An operation that the observer asked for has returned. -/
  | returned (observer : Nat) (op : Operation β) (outcome : Outcome) (ownership : Ownership)

/-- A controller over backends of type `β` with observers of type `ω`. -/
structure Controller (β ω : Type) where
  state : CaptureState β
  /-- The observers in the order of their subscription. -/
  observers : List ω
  /-- The notifications waiting in the main context; an immediate context has no place for any. -/
  queue : Option (List Notification)
  journal : List (JournalEntry β)
  /-- Whether the preview loop pulls as soon as an operation has started it, before the notifications of
  the operation are handed out. -/
  eager : Bool
  /-- Whether observers may still ask for operations. -/
  live : Bool
  /-- Whether a request was cut off because it was nested too deep. -/
  cut : Bool

namespace Controller

variable {β ω : Type}

def build [Backend β] (builder : ControllerBuilder β) (eager queued : Bool) (observers : List ω) :
    Controller β ω where
  state := CaptureState.initial builder.preview builder.stream builder.backends
  observers := observers
  queue := if queued then some [] else none
  journal := []
  eager := eager
  live := true
  cut := false

def record (e : JournalEntry β) (c : Controller β ω) : Controller β ω :=
  { c with journal := c.journal ++ [e] }

def subscribe (o : ω) (c : Controller β ω) : Controller β ω :=
  { c with observers := c.observers ++ [o] }

def pending (c : Controller β ω) : Nat := (c.queue.getD []).length

/-! ## Delivery

What the observer at a position asks for is followed by a function from the position and the
requests. -/

section Delivery

variable [Backend β] [Observer β ω]

/-- How the requests of the observer at a position are followed. -/
abbrev Reaction (β ω : Type) := Nat → List (Operation β) → Controller β ω → Controller β ω

/-- Requests are not followed. -/
def cutOff : Reaction β ω := fun _ ops c => if ops.isEmpty then c else { c with cut := true }

/-- Each request is performed, and its return is written down. -/
def follow (perform : Operation β → Controller β ω → Outcome × Controller β ω) : Reaction β ω :=
  fun i ops c =>
    ops.foldl
      (fun c op =>
        let (outcome, c) := perform op c
        c.record (.returned i op outcome c.state.ownership))
      c

/-- The observer at position `i` is told, and what it asks for is followed while the controller
lasts. -/
def tell (react : Reaction β ω) (n : Notification) (i : Nat) (c : Controller β ω) :
    Controller β ω :=
  match c.observers[i]? with
  | none => c
  | some o =>
    let (ops, o) := Observer.receive n o
    let c := { c with observers := c.observers.set i o }.record (.delivered i n)
    if c.live then react i ops c else c

/-- Everyone who is subscribed now is told, in order of subscription. -/
def deliver (react : Reaction β ω) (n : Notification) (c : Controller β ω) : Controller β ω :=
  (List.range c.observers.length).foldl (fun c i => c.tell react n i) c

/-- The main context takes a notification. -/
def hand (react : Reaction β ω) (n : Notification) (c : Controller β ω) : Controller β ω :=
  match c.queue with
  | none => c.deliver react n
  | some waiting => { c with queue := some (waiting ++ [n]) }

/-- Hands out at most `limit` notifications of the outbox, the oldest first. -/
def flush (react : Reaction β ω) : Nat → Controller β ω → Controller β ω
  | 0, c => c
  | limit + 1, c =>
    match c.state.outbox with
    | [] => c
    | n :: rest =>
      flush react limit ({ c with state := { c.state with outbox := rest } }.hand react n)

/-- One operation; then whatever is in the outbox is handed out. A nested request empties the outbox
as well, so the notifications there now are as many as can be handed out. -/
def performWith (react : Reaction β ω) (op : Operation β) (c : Controller β ω) :
    Outcome × Controller β ω :=
  let (outcome, state) := c.state.perform c.eager op
  let c := { c with state := state, live := c.live && !op.isShutDown }
  (outcome, if op.dispatches then c.flush react c.state.outbox.length else c)

/-- One operation, with nested requests to a depth. -/
def performAt : Nat → Operation β → Controller β ω → Outcome × Controller β ω
  | 0 => performWith cutOff
  | depth + 1 => performWith (follow (performAt depth))

/-- How the requests of observers outside any operation are followed. -/
def reactAt : Nat → Reaction β ω
  | 0 => cutOff
  | depth + 1 => follow (performAt depth)

/-- The first waiting notification is delivered, if there is one. -/
def runOneAt (depth : Nat) (c : Controller β ω) : Option (Controller β ω) :=
  match c.queue with
  | some (n :: rest) => some ({ c with queue := some rest }.deliver (reactAt depth) n)
  | _ => none

/-- At most `limit` waiting notifications are delivered; also says how many were. -/
def runUpTo (depth : Nat) : Nat → Controller β ω → Nat × Controller β ω
  | 0, c => (0, c)
  | limit + 1, c =>
    match c.runOneAt depth with
    | none => (0, c)
    | some next =>
      let (count, c) := runUpTo depth limit next
      (count + 1, c)

/-- Rounds of deliveries: each round delivers what waits at its beginning. -/
def runRounds (depth : Nat) : Nat → Controller β ω → Nat × Controller β ω
  | 0, c => (0, c)
  | rounds + 1, c =>
    if c.pending = 0 then (0, c)
    else
      let (count, c) := c.runUpTo depth c.pending
      let (more, c) := runRounds depth rounds c
      (count + more, c)

/-! ## Everyday use -/

/-- How often the observers together will still ask for operations. -/
def patience (c : Controller β ω) : Nat :=
  c.observers.foldl (fun n o => n + Observer.patience β o) 0

/-- One operation, with every nested request. -/
def perform (op : Operation β) (c : Controller β ω) : Outcome × Controller β ω :=
  performAt c.patience op c

def performAll (ops : List (Operation β)) (c : Controller β ω) : Controller β ω :=
  ops.foldl (fun c op => (c.perform op).2) c

def runOne (c : Controller β ω) : Option (Controller β ω) := c.runOneAt c.patience

/-- Every waiting notification is delivered, and every one raised by this; also says how many. Only a
round in which an observer asks for something leads to another one. -/
def runPending (c : Controller β ω) : Nat × Controller β ω :=
  c.runRounds c.patience (c.patience + 1)

end Delivery

def describe (c : Controller β ω) : String :=
  Text.record "VideoInputController"
    [("mode", c.state.ownership.label), ("current_device", c.state.current.describe)]

end Controller

end VideoCapture
