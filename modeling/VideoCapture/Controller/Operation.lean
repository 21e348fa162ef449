import VideoCapture.Controller.State

/-!
# Operations on the controller

Everything that can be asked of the controller, as values, and what each does to its state.

## Main definitions

* `Operation` — what can be asked, `Outcome` — what is answered.
* `CaptureState.operate` — one operation, from taking the lock to releasing it.
* `CaptureState.frameInto?` — a frame for a caller's buffer, if there is room for it.
* `CaptureState.perform` — one operation and, where this comes at once, the pull of a preview loop that it
  started.
-/

namespace VideoCapture

/-- What can be asked of a controller over backends of type `β`. -/
inductive Operation (β : Type) where
  | setDevice (device : Descriptor) (channel : UInt32) (format : VideoFormat)
  | setPreview (geometry : Geometry)
  | setStream (geometry : Geometry)
  | startPreview
  | stopPreview
  | startStream
  | stopStream
  | frame
  | pull
  | adjust (kind : Adjustment) (value : UInt32)
  | addDevice (framework name : String) (capabilities : Capabilities)
  | removeDevice (framework name : String) (capabilities : Capabilities)
  | addBackend (backend : β)
  | enumerate
  | mode
  /-- The end of the controller. -/
  | shutDown

/-- What an operation answers. -/
inductive Outcome where
  | done
  | frame (f : Option Frame)
  | devices (ds : List Descriptor)
  | mode (o : Ownership)
  deriving DecidableEq

namespace Operation

variable {β : Type}

/-- Whether notifications are handed out after the operation. The two that only look at the state, or
only record a request, leave them alone. -/
def dispatches : Operation β → Bool
  | adjust _ _ => false
  | mode => false
  | _ => true

def isShutDown : Operation β → Bool
  | shutDown => true
  | _ => false

end Operation

namespace CaptureState

variable {β : Type} [Backend β]

/-- Records the desired device and moves the active consumers to it. -/
def setDevice (device : Descriptor) (channel : UInt32) (format : VideoFormat)
    (s : CaptureState β) : CaptureState β :=
  let s := { s with desired := device, channel := channel, format := format }
  if s.anyActive then s.swap device else s

/-- Records the preview geometry, and opens the device anew if the preview has it to itself. -/
def setPreview (g : Geometry) (s : CaptureState β) : CaptureState β :=
  if s.previewOnly && s.preview.geometry ≠ g then
    ((s.stopLoop.close.setGeometry .preview g).openFor .preview).startLoop
  else s.setGeometry .preview g

/-- Makes the preview active; beside a stream it uses what the stream opened. -/
def startPreview (s : CaptureState β) : CaptureState β :=
  if s.preview.active then s
  else
    let s := s.setActive .preview true
    let s :=
      if s.stream.active then s
      else (s.selectDesiredIfNeeded.openFor .preview).startLoop
    s.syncModes

/-- Makes the preview inactive; without a stream the device is released. -/
def stopPreview (s : CaptureState β) : CaptureState β :=
  if s.preview.active then
    let s := s.setActive .preview false
    let s := if s.stream.active then s else s.stopLoop.release
    s.syncModes
  else s

/-- Makes the stream active at the geometry recorded for it. A device that the preview holds open at
the very same geometry stays open. -/
def startStream (s : CaptureState β) : CaptureState β :=
  if s.stream.active then s
  else
    let s := { s with liveStream := s.stream.geometry }
    let s :=
      if s.preview.active then
        let s := s.stopLoop.setActive .stream true
        if s.opened = some s.liveStream then s.setSettings .stream s.preview.settings
        else s.close.openFor .stream
      else (s.setActive .stream true).selectDesiredIfNeeded.openFor .stream
    s.syncModes

/-- Makes the stream inactive and gives the device back to the preview, or releases it. -/
def stopStream (s : CaptureState β) : CaptureState β :=
  if s.stream.active then
    let s := s.setActive .stream false
    let s :=
      if s.preview.active then
        let s :=
          if s.opened = some s.preview.geometry then s.setSettings .preview s.stream.settings
          else s.close.openFor .preview
        s.startLoop
      else s.release
    s.syncModes
  else s

/-- A device was plugged in. If it is the desired one and not open yet, the active consumers move to
it. -/
def addDevice (s : CaptureState β) (device : Descriptor) : CaptureState β :=
  let isDesired := device = s.desired
  let alreadyOpen := s.isOpen && s.current = device
  let s := if isDesired && s.anyActive && !alreadyOpen then s.swap device else s
  s.raise (.added device isDesired)

/-- A device was unplugged. If it is open, the active consumers move to the synthetic one. -/
def removeDevice (s : CaptureState β) (device : Descriptor) : CaptureState β :=
  let wasCurrent := s.isOpen && s.current = device
  let s := if wasCurrent then s.swap Descriptor.fallback else s
  s.raise (.removed device wasCurrent)

/-- The end: the loop stops, nobody is active and the device is released. -/
def shutDown (s : CaptureState β) : CaptureState β :=
  ((s.stopLoop.setActive .preview false).setActive .stream false).release.syncModes

/-- One frame for a caller's buffer: its size, if there is one, and what the buffer holds afterwards. -/
def frameInto (buffer : Array UInt8) (s : CaptureState β) :
    (Option FrameSize × Array UInt8) × CaptureState β :=
  match s.readActive with
  | (some f, s) => ((some f.size, f.data), s)
  | (none, s) => ((none, buffer), s)

/-- One frame for a caller's buffer, if there is room for what is painted on the way. Without room there is
no answer at all, not even that there is no frame. -/
def frameInto? (buffer : Array UInt8) (s : CaptureState β) :
    Option ((Option FrameSize × Array UInt8) × CaptureState β) :=
  if s.frameHasRoom then some (s.frameInto buffer) else none

/-- One operation, from taking the lock to releasing it. -/
def operate (op : Operation β) (s : CaptureState β) : Outcome × CaptureState β :=
  match op with
  | .setDevice device channel format => (.done, s.setDevice device channel format)
  | .setPreview g => (.done, s.setPreview g)
  | .setStream g => (.done, s.setGeometry .stream g)
  | .startPreview => (.done, s.startPreview)
  | .stopPreview => (.done, s.stopPreview)
  | .startStream => (.done, s.startStream)
  | .stopStream => (.done, s.stopStream)
  | .frame =>
    let (f, s) := s.readActive
    (.frame f, s)
  | .pull => (.done, s.pull)
  | .adjust kind value => (.done, { s with requests := s.requests.request kind value })
  | .addDevice framework name caps =>
    (.done, (s.resolve framework name caps).foldl addDevice s)
  | .removeDevice framework name caps =>
    (.done, (s.resolve framework name caps).foldl removeDevice s)
  | .addBackend b => (.done, s.register (.device b) (Backend.framework b))
  | .enumerate =>
    let (ds, s) := s.enumerate s.backends.length 0
    (.devices ds, s)
  | .mode => (.mode s.ownership, s)
  | .shutDown => (.done, s.shutDown)

/-- One operation. If it started an `eager` preview loop, the first pull comes with it; otherwise this pull
is an operation of its own, as all others are. -/
def perform (eager : Bool) (op : Operation β) (s : CaptureState β) : Outcome × CaptureState β :=
  let (outcome, s) := s.operate op
  (outcome, if eager && s.loop.due then s.pull else s)

theorem perform_cases (eager : Bool) (op : Operation β) (s : CaptureState β) :
    (s.perform eager op).2 = (s.operate op).2 ∨ (s.perform eager op).2 = (s.operate op).2.pull := by
  cases hdue : eager && (s.operate op).2.loop.due with
  | false => exact .inl (by simp [perform, hdue])
  | true => exact .inr (by simp [perform, hdue])

end CaptureState

end VideoCapture
