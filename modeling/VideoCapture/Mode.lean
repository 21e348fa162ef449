import VideoCapture.Adjustment
import VideoCapture.Geometry

/-!
# Consumers of the device

Two consumers share the open device: the local preview and the stream of a call. While both are
active the stream decides how the device is opened.

## Main definitions

* `Mode` — one consumer, `Ownership` — which one the device serves.
* `ModeConfig` — what a consumer asks for.
* `Requests` — the adjustments requested by each consumer, beside a copy of who is active.
-/

namespace VideoCapture

/-- A consumer of the device. -/
inductive Mode where
  | preview
  | stream
  deriving DecidableEq

/-- Which consumer the open device serves. -/
inductive Ownership where
  | idle
  | previewOnly
  /-- Also while the preview is active beside the stream. -/
  | stream
  deriving DecidableEq

namespace Ownership

def label : Ownership → String
  | idle => "Idle"
  | previewOnly => "PreviewOnly"
  | stream => "StreamOnly"

end Ownership

/-- What a consumer asks for. -/
structure ModeConfig where
  active : Bool
  geometry : Geometry
  /-- The adjustments that the hardware reported or received last in this mode. -/
  settings : AdjustmentSet
  deriving DecidableEq

namespace ModeConfig

def initial (geometry : Geometry) : ModeConfig := ⟨false, geometry, AdjustmentSet.neutral⟩

end ModeConfig

/-- The adjustments requested by each consumer. They are guarded by a lock of their own, so they come
with a copy of who is active. -/
structure Requests where
  previewActive : Bool
  streamActive : Bool
  preview : AdjustmentRequests
  stream : AdjustmentRequests
  deriving DecidableEq

namespace Requests

def empty : Requests := ⟨false, false, AdjustmentRequests.empty, AdjustmentRequests.empty⟩

/-- The consumer that has the device to itself, if any. -/
def exclusiveMode (r : Requests) : Option Mode :=
  match r.previewActive, r.streamActive with
  | true, false => some .preview
  | false, true => some .stream
  | _, _ => none

def pending (r : Requests) : Mode → AdjustmentRequests
  | .preview => r.preview
  | .stream => r.stream

/-- Records a request of the consumer that has the device to itself; without one it is dropped. -/
def request (kind : Adjustment) (value : UInt32) (r : Requests) : Requests :=
  match r.exclusiveMode with
  | some .preview => { r with preview := r.preview.request kind value }
  | some .stream => { r with stream := r.stream.request kind value }
  | none => r

end Requests

end VideoCapture
