import VideoCapture.Error
import VideoCapture.Frame

/-!
# Backends

A backend offers the devices of one capture framework: it lists them, opens one at a time and
delivers its frames. Everything it does may change its own state and may raise signals about its
device.

## Main definitions

* `Signal` — what a backend tells about its own device.
* `Reply` — the answer to a call, the signals raised during it and the backend after it.
* `Backend` — the calls that every backend answers.
-/

namespace VideoCapture

/-- How a device was opened. -/
structure DeviceConfig where
  geometry : Geometry
  settings : AdjustmentSet
  /-- Whether the device has picture adjustments at all. -/
  modifiable : Bool
  deriving DecidableEq

/-- What a backend tells about its own device. -/
inductive Signal where
  | opened (device : Descriptor) (config : DeviceConfig)
  | closed (device : Descriptor)
  | error (device : Descriptor) (code : DeviceErrorCode)
  deriving DecidableEq

/-- The outcome of one call to a backend of type `β`. -/
structure Reply (β α : Type) where
  value : α
  /-- The signals raised during the call, in order. -/
  signals : List Signal
  backend : β

namespace Reply

variable {β γ α : Type}

/-- The same outcome with the backend seen as a part of something larger. -/
def mapBackend (f : β → γ) (r : Reply β α) : Reply γ α := ⟨r.value, r.signals, f r.backend⟩

end Reply

/-- The capability implemented once for each capture framework. Whether a device is open is the
backend's own business: it answers every call in every state. -/
class Backend (β : Type) where
  framework : β → String
  /-- Lists the devices that can be opened now. -/
  devices : β → Reply β (Except CaptureError (List Descriptor))
  /-- Selects a device for the next opening, or refuses it. -/
  select : Descriptor → UInt32 → VideoFormat → β → Reply β Bool
  /-- Opens the selected device and reports its adjustments. -/
  openAt : Geometry → β → Reply β (Except CaptureError AdjustmentSet)
  close : β → Reply β Unit
  read : β → Reply β (Except CaptureError Frame)
  adjust : Adjustment → UInt32 → β → Reply β (Except CaptureError Unit)
  /-- The device of this backend that a plugged-in device is, if it is one. -/
  resolve : β → String → String → Capabilities → Option Descriptor

end VideoCapture
