import VideoCapture.Logo.Painting
import VideoCapture.Mode

/-!
# The state of the controller

Everything the controller knows while it holds its lock: the registered backends, the device that is
open, what the two consumers ask for, and the notifications that are still to be handed out. The
first backend is the synthetic device, which the controller falls back to.

Everything that reaches a backend, the preview loop or the display is also written down in order,
and so is every change of who is active.

## Main definitions

* `Source` — a registered backend: the synthetic device or one of a caller's type.
* `Call`, `Notification`, `Effect` — what is written down.
* `CaptureState` — the state.
* `CaptureState.select`, `openFor`, `close`, `release` — choosing, opening and closing the device.
* `CaptureState.readActive` — one frame for the active consumer, from the fallback if need be.
-/

namespace VideoCapture

/-- A registered backend. -/
inductive Source (β : Type) where
  | logo (l : Logo)
  | device (b : β)

namespace Source

variable {β : Type} [Backend β]

/-- Does something to a backend of either kind. -/
def run {α : Type} (onLogo : Logo → Reply Logo α) (onDevice : β → Reply β α) :
    Source β → Reply (Source β) α
  | logo l => (onLogo l).mapBackend logo
  | device b => (onDevice b).mapBackend device

instance : Backend (Source β) where
  framework
    | logo l => Backend.framework l
    | device b => Backend.framework b
  devices := run Backend.devices Backend.devices
  select d channel format := run (Backend.select d channel format) (Backend.select d channel format)
  openAt g := run (Backend.openAt g) (Backend.openAt g)
  close := run Backend.close Backend.close
  read := run Backend.read Backend.read
  adjust kind value := run (Backend.adjust kind value) (Backend.adjust kind value)
  resolve
    | logo l => Backend.resolve l
    | device b => Backend.resolve b

/-- Whether there is room for the picture that the synthetic device paints next. What a caller's device needs
is the caller's affair. -/
def hasRoom : Source β → Bool
  | logo l => l.hasRoom
  | device _ => true

end Source

/-- A call to a backend, with what matters of the answer. -/
inductive Call where
  | devices
  | setDevice (device : Descriptor) (channel : UInt32) (format : VideoFormat) (accepted : Bool)
  | openAt (geometry : Geometry) (settings : Option AdjustmentSet)
  | close
  | read (frame : Option Frame)
  | adjust (kind : Adjustment) (value : UInt32)
  deriving DecidableEq

inductive Notification where
  | opened (framework : String) (device : Descriptor) (config : DeviceConfig)
  | closed (framework : String) (device : Descriptor)
  | error (framework : String) (device : Descriptor) (code : DeviceErrorCode)
  /-- A device was plugged in; the flag tells whether it is the desired one. -/
  | added (device : Descriptor) (isDesired : Bool)
  /-- A device was unplugged; the flag tells whether it was open. -/
  | removed (device : Descriptor) (wasCurrent : Bool)
  deriving DecidableEq

namespace Notification

/-- The notification of a signal from a backend of the given framework. -/
def ofSignal (framework : String) : Signal → Notification
  | .opened device config => opened framework device config
  | .closed device => closed framework device
  | .error device code => error framework device code

end Notification

/-- What the controller does to the world, written down in order. -/
inductive Effect where
  | called (backend : Nat) (call : Call)
  | raised (notification : Notification)
  /-- A consumer became active or inactive. -/
  | switched (consumer : Mode) (active : Bool)
  | loopStarted (width height : UInt32)
  | loopStopped
  | displayed (frame : Frame)
  deriving DecidableEq

/-- A backend and the name under which its signals are passed on. -/
structure Registered (β : Type) where
  framework : String
  backend : Source β

/-- What has become of the worker of the preview loop. -/
inductive WorkerHealth where
  | alive
  /-- It was started at a size without room for a frame, and the loop has not been stopped since. -/
  | lost
  /-- It has ended, and nobody hears a start any more. -/
  | gone
  deriving DecidableEq

namespace WorkerHealth

/-- A worker that is started needs room for a frame of the size. -/
def start (size : FrameSize) : WorkerHealth → WorkerHealth
  | alive => if size.fits then alive else lost
  | worker => worker

/-- A worker that was lost is gone by the time a stop returns. -/
def stop : WorkerHealth → WorkerHealth
  | lost => gone
  | worker => worker

end WorkerHealth

/-- The preview loop as its owner sees it. -/
structure LoopStatus where
  /-- Whether the loop has been started and has not been stopped since. -/
  running : Bool
  /-- The size given at the latest start. -/
  width : UInt32
  height : UInt32
  worker : WorkerHealth
  /-- Whether a worker has been started and has not pulled since. -/
  due : Bool
  deriving DecidableEq

namespace LoopStatus

def still : LoopStatus := ⟨false, 0, 0, .alive, false⟩

/-- Whether the owner takes the loop to be running: it has been started, and somebody heard it. -/
def isRunning (l : LoopStatus) : Bool := l.running && l.worker ≠ .gone

def start (size : FrameSize) (l : LoopStatus) : LoopStatus where
  running := true
  width := size.width
  height := size.height
  worker := l.worker.start size
  due := l.worker.start size = .alive

def stop (l : LoopStatus) : LoopStatus :=
  { l with running := false, worker := l.worker.stop, due := false }

end LoopStatus

/-- What the controller knows while it holds its lock. -/
structure CaptureState (β : Type) where
  /-- The backends in the order of their registration, the synthetic device first. -/
  backends : List (Registered β)
  /-- The position of the backend that serves the current device. -/
  manager : Option Nat
  /-- The geometry at which the manager's device is open. -/
  opened : Option Geometry
  current : Descriptor
  desired : Descriptor
  channel : UInt32
  format : VideoFormat
  preview : ModeConfig
  stream : ModeConfig
  /-- The stream geometry at the latest start of a stream; it holds until the next one. -/
  liveStream : Geometry
  requests : Requests
  loop : LoopStatus
  /-- Notifications raised and not handed out yet. -/
  outbox : List Notification
  /-- Everything done so far. -/
  log : List Effect

namespace CaptureState

variable {β : Type}

/-! ## Looking at the state -/

def mode (s : CaptureState β) : Mode → ModeConfig
  | .preview => s.preview
  | .stream => s.stream

/-- The geometry at which a consumer opens the device. -/
def openGeometry (s : CaptureState β) : Mode → Geometry
  | .preview => s.preview.geometry
  | .stream => s.liveStream

/-- The consumer that decides how the device is opened. -/
def activeMode (s : CaptureState β) : Option Mode :=
  if s.stream.active then some .stream
  else if s.preview.active then some .preview
  else none

/-- Whether the preview has the device to itself. -/
def previewOnly (s : CaptureState β) : Bool := s.preview.active && !s.stream.active

/-- Whether the device is in use. -/
def anyActive (s : CaptureState β) : Bool := s.preview.active || s.stream.active

/-- Whether a device is open. -/
def isOpen (s : CaptureState β) : Bool := s.manager.isSome && s.opened.isSome

/-- Which consumer the device serves. -/
def ownership (s : CaptureState β) : Ownership :=
  match s.activeMode with
  | none => .idle
  | some .preview => .previewOnly
  | some .stream => .stream

/-! ## Changing parts of it -/

/-- Writes an effect down. -/
def note (e : Effect) (s : CaptureState β) : CaptureState β := { s with log := s.log ++ [e] }

def raise (n : Notification) (s : CaptureState β) : CaptureState β :=
  { s with outbox := s.outbox ++ [n] }.note (.raised n)

def raiseAll (ns : List Notification) (s : CaptureState β) : CaptureState β :=
  ns.foldl (fun s n => s.raise n) s

def updateMode (m : Mode) (f : ModeConfig → ModeConfig) (s : CaptureState β) : CaptureState β :=
  match m with
  | .preview => { s with preview := f s.preview }
  | .stream => { s with stream := f s.stream }

/-- Makes a consumer active or inactive. -/
def setActive (m : Mode) (active : Bool) (s : CaptureState β) : CaptureState β :=
  (s.updateMode m fun c => { c with active := active }).note (.switched m active)

def setGeometry (m : Mode) (g : Geometry) (s : CaptureState β) : CaptureState β :=
  s.updateMode m fun c => { c with geometry := g }

/-- Records the adjustments of a consumer. -/
def setSettings (m : Mode) (settings : AdjustmentSet) (s : CaptureState β) : CaptureState β :=
  s.updateMode m fun c => { c with settings := settings }

/-- Copies who is active to the adjustment requests. -/
def syncModes (s : CaptureState β) : CaptureState β :=
  { s with
    requests :=
      { s.requests with previewActive := s.preview.active, streamActive := s.stream.active } }

/-- Starts the preview loop at the size of the open device, unless it has been started. -/
def startLoop (s : CaptureState β) : CaptureState β :=
  if s.loop.running then s
  else
    let g := s.opened.getD s.preview.geometry
    { s with loop := s.loop.start g.frameSize }.note (.loopStarted g.width g.height)

/-- Stops the preview loop, if it has been started. No pull is under way afterwards. -/
def stopLoop (s : CaptureState β) : CaptureState β :=
  if s.loop.running then
    { s with loop := s.loop.stop }.note .loopStopped
  else s

/-- Puts a backend behind the others. -/
def register (b : Source β) (framework : String) (s : CaptureState β) : CaptureState β :=
  { s with backends := s.backends ++ [⟨framework, b⟩] }

/-! ## Talking to backends -/

section Calls

variable [Backend β]

/-- Calls the backend at position `i`: the call is written down, and the signals raised during it go
into the outbox. -/
def call {α : Type} (i : Nat) (act : Source β → Reply (Source β) α) (describe : α → Call)
    (s : CaptureState β) : Option α × CaptureState β :=
  match s.backends[i]? with
  | none => (none, s)
  | some r =>
    let reply := act r.backend
    let s := { s with backends := s.backends.set i { r with backend := reply.backend } }
    let s := s.note (.called i (describe reply.value))
    (some reply.value, s.raiseAll (reply.signals.map (Notification.ofSignal r.framework)))

/-- Offers a device to `count` backends from position `i` on, until one accepts it. -/
def offer (device : Descriptor) : Nat → Nat → CaptureState β → Option Nat × CaptureState β
  | 0, _, s => (none, s)
  | count + 1, i, s =>
    match s.call i (Backend.select device s.channel s.format)
        (Call.setDevice device s.channel s.format) with
    | (some true, s) => (some i, s)
    | (_, s) => offer device count (i + 1) s

/-- Makes the first backend that accepts a device the manager; without one there is no manager. -/
def trySelect (device : Descriptor) (s : CaptureState β) : Bool × CaptureState β :=
  let s := { s with manager := none }
  match s.offer device s.backends.length 0 with
  | (some i, s) => (true, { s with manager := some i, current := device })
  | (none, s) => (false, s)

def selectFallback (s : CaptureState β) : CaptureState β := (s.trySelect Descriptor.fallback).2

/-- Chooses a device, or the synthetic one if no backend accepts it. -/
def select (device : Descriptor) (s : CaptureState β) : CaptureState β :=
  match s.trySelect device with
  | (true, s) => s
  | (false, s) => s.selectFallback

/-- Chooses the desired device unless one is chosen. -/
def selectDesiredIfNeeded (s : CaptureState β) : CaptureState β :=
  if s.manager.isNone then s.select s.desired else s

/-- Opens the chosen device for a consumer; says whether it opened. -/
def tryOpen (m : Mode) (s : CaptureState β) : Bool × CaptureState β :=
  match s.manager with
  | none => (false, s)
  | some i =>
    let g := s.openGeometry m
    match s.call i (Backend.openAt g) (fun r => Call.openAt g r.toOption) with
    | (some (.ok settings), s) => (true, { s with opened := some g }.setSettings m settings)
    | (_, s) => (false, s)

/-- Opens the chosen device for a consumer, or the synthetic one if it refuses. -/
def openFor (m : Mode) (s : CaptureState β) : CaptureState β :=
  match s.tryOpen m with
  | (true, s) => s
  | (false, s) => (s.selectFallback.tryOpen m).2

/-- Closes the open device; it stays chosen. -/
def close (s : CaptureState β) : CaptureState β :=
  match s.manager, s.opened with
  | some i, some _ => ({ s with opened := none }.call i Backend.close fun _ => Call.close).2
  | _, _ => { s with opened := none }

/-- Closes the open device and forgets the choice; the desired device is chosen anew next time. -/
def release (s : CaptureState β) : CaptureState β :=
  let s := s.close
  { s with manager := none, current := s.desired }

def read (s : CaptureState β) : Option Frame × CaptureState β :=
  match s.manager, s.opened with
  | some i, some _ =>
    match s.call i Backend.read (fun r => Call.read r.toOption) with
    | (some (.ok frame), s) => (some frame, s)
    | (_, s) => (none, s)
  | _, _ => (none, s)

/-- Sends one adjustment to the backend at position `i` and records it for a consumer, whatever the
backend answers. -/
def applyAdjustment (i : Nat) (m : Mode) (kind : Adjustment) (value : UInt32)
    (s : CaptureState β) : CaptureState β :=
  let s := (s.call i (Backend.adjust kind value) fun _ => Call.adjust kind value).2
  s.setSettings m ((s.mode m).settings.set kind value)

/-- Sends the requests of the consumer that has the device to itself, as far as they are new. -/
def flushAdjustments (s : CaptureState β) : CaptureState β :=
  match s.manager, s.requests.exclusiveMode with
  | some i, some m =>
    ((s.requests.pending m).diff (s.mode m).settings).foldl
      (fun s change => s.applyAdjustment i m change.1 change.2) s
  | _, _ => s

/-- The frame of the synthetic device after the open one failed; a black one should it fail too. -/
def readFallback (m : Mode) (s : CaptureState β) : Frame × CaptureState β :=
  match (s.close.selectFallback.openFor m).read with
  | (some frame, s) => (frame, s)
  | (none, s) => (Frame.blank (s.openGeometry m), s)

/-- One frame for the active consumer, if there is one. -/
def readActive (s : CaptureState β) : Option Frame × CaptureState β :=
  match s.activeMode with
  | none => (none, s)
  | some m =>
    match s.read with
    | (some frame, s) => (some frame, s.flushAdjustments)
    | (none, s) =>
      let (frame, s) := s.readFallback m
      (some frame, s.flushAdjustments)

/-- Whether there is room for what the open device paints next. -/
def readHasRoom (s : CaptureState β) : Bool :=
  match s.manager, s.opened with
  | some i, some _ => s.backends[i]?.all fun r => r.backend.hasRoom
  | _, _ => true

/-- Whether there is room for all that is painted until the active consumer has a frame: by the open
device, by the synthetic one should it fail, and for a black frame should that fail too. -/
def frameHasRoom (s : CaptureState β) : Bool :=
  match s.activeMode with
  | none => true
  | some m =>
    s.readHasRoom &&
      (s.read.1.isSome ||
        let t := s.read.2.close.selectFallback.openFor m
        t.readHasRoom && (t.read.1.isSome || (t.read.2.openGeometry m).frameSize.fits))

/-- One pull of the preview loop: it reaches the device only while the preview has it to itself. A worker
that is alive was started at a size with room for a frame. One that was lost pulls nothing any more; here
it may, so that a run has more pulls than the loop makes, never fewer. -/
def pull (s : CaptureState β) : CaptureState β :=
  let s := { s with loop := { s.loop with due := false } }
  if s.loop.running && s.previewOnly then
    match s.readActive with
    | (some frame, s) => s.note (.displayed frame)
    | (none, s) => s
  else s

/-- Moves the active consumers to a device, or to the synthetic one if no backend accepts it. -/
def swap (device : Descriptor) (s : CaptureState β) : CaptureState β :=
  let previewOnly := s.previewOnly
  let s := if previewOnly then s.stopLoop else s
  let s := if s.anyActive then s.close else s
  let s := s.select device
  let s := if previewOnly then (s.openFor .preview).startLoop else s
  if s.stream.active then s.openFor .stream else s

/-- The devices that the backends recognise in a plugged-in device, in order of registration. -/
def resolve (framework name : String) (capabilities : Capabilities) (s : CaptureState β) :
    List Descriptor :=
  s.backends.filterMap fun r => Backend.resolve r.backend framework name capabilities

/-- The devices that all backends list, in order of registration, from position `i` on. A backend
that fails to list any is passed over. -/
def enumerate : Nat → Nat → CaptureState β → List Descriptor × CaptureState β
  | 0, _, s => ([], s)
  | count + 1, i, s =>
    let (listed, s) := s.call i Backend.devices fun _ => Call.devices
    let found :=
      match listed with
      | some (.ok devices) => devices
      | _ => []
    let (more, s) := enumerate count (i + 1) s
    (found ++ more, s)

end Calls

/-! ## The state at the beginning -/

/-- The state before any backend is registered. -/
def blank (preview stream : Geometry) : CaptureState β where
  backends := []
  manager := none
  opened := none
  current := Descriptor.fallback
  desired := Descriptor.fallback
  channel := 0
  format := .auto
  preview := ModeConfig.initial preview
  stream := ModeConfig.initial stream
  liveStream := stream
  requests := Requests.empty
  loop := .still
  outbox := []
  log := []

/-- The state with the synthetic device and the given backends. -/
def initial [Backend β] (preview stream : Geometry) (backends : List β) : CaptureState β :=
  let start := (blank preview stream).register (.logo Logo.initial) Descriptor.fallbackName
  backends.foldl (fun s b => s.register (.device b) (Backend.framework b)) start

/-- A backend of the caller's type changes on its own. -/
def alter (i : Nat) (f : β → β) (s : CaptureState β) : CaptureState β :=
  { s with
    backends := s.backends.modify i fun r =>
      match r.backend with
      | .device b => { r with backend := .device (f b) }
      | .logo _ => r }

end CaptureState

end VideoCapture
