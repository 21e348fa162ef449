import VideoCapture.Backend

/-!
# A camera that follows a script

A backend for trials of the controller: which devices it has, which calls fail and what its frames
look like is all set beforehand.
-/

namespace VideoCapture.Scripted

/-- A scripted backend. A count of failures that is positive goes down with each failure; a negative
one never ends. -/
structure Camera where
  framework : String
  /-- The subsystem whose plugged-in devices it recognises. -/
  subsystem : String
  /-- The interfaces such a device must offer. -/
  caps : Capabilities
  devices : List Descriptor
  present : Bool
  /-- Whether it accepts devices that it does not list. -/
  acceptAll : Bool
  failOpen : Int
  failRead : Int
  failDevices : Bool
  failAdjust : Bool
  settings : AdjustmentSet
  modifiable : Bool
  /-- The value of every byte of its frames. -/
  mark : UInt8
  /-- The size of its frames, if it is not the size it was opened at. -/
  readSize : Option FrameSize
  /-- What it complains about at every opening. -/
  openErrors : List DeviceErrorCode
  selected : Descriptor
  /-- The geometry it is open at, and the device it was opened for. -/
  opened : Option (Geometry × Descriptor)
  deriving DecidableEq

namespace Camera

/-- A camera of a framework without any devices. -/
def plain (framework : String) : Camera where
  framework := framework
  subsystem := framework
  caps := Capabilities.none
  devices := []
  present := true
  acceptAll := false
  failOpen := 0
  failRead := 0
  failDevices := false
  failAdjust := false
  settings := AdjustmentSet.neutral
  modifiable := true
  mark := 171
  readSize := none
  openErrors := []
  selected := Descriptor.empty
  opened := none

/-- A count of failures after one more. -/
def countDown (failures : Int) : Int := if 0 < failures then failures - 1 else failures

/-- The reason given for a failure. -/
def reason : String := "scripted failure"

def list (c : Camera) : Except CaptureError (List Descriptor) :=
  if c.failDevices then .error (.enumerationFailure reason)
  else .ok (if c.present then c.devices else [])

/-- Selecting a device. A refusal keeps the earlier choice. -/
def select (device : Descriptor) (c : Camera) : Reply Camera Bool :=
  if c.present && (c.acceptAll || c.devices.contains device) then
    ⟨true, [], { c with selected := device }⟩
  else ⟨false, [], c⟩

/-- Opening: complaints first, then failure or success. -/
def openAt (g : Geometry) (c : Camera) : Reply Camera (Except CaptureError AdjustmentSet) :=
  let complaints := c.openErrors.map fun code => Signal.error c.selected code
  if c.failOpen ≠ 0 then
    ⟨.error (.openFailure c.selected.display g reason), complaints,
      { c with failOpen := countDown c.failOpen }⟩
  else
    ⟨.ok c.settings, complaints ++ [.opened c.selected ⟨g, c.settings, c.modifiable⟩],
      { c with opened := some (g, c.selected) }⟩

/-- Closing, for the device it was opened for. -/
def close (c : Camera) : Reply Camera Unit :=
  match c.opened with
  | some (_, device) => ⟨(), [.closed device], { c with opened := none }⟩
  | none => ⟨(), [], c⟩

def read (c : Camera) : Reply Camera (Except CaptureError Frame) :=
  match c.opened with
  | none => ⟨.error .notOpen, [], c⟩
  | some (g, _) =>
    if c.failRead ≠ 0 then
      ⟨.error (.readFailure c.selected.display reason), [],
        { c with failRead := countDown c.failRead }⟩
    else ⟨.ok (Frame.uniform (c.readSize.getD g.frameSize) c.mark), [], c⟩

/-- The device of the given name, for devices of the right subsystem with the right interfaces. -/
def resolve (c : Camera) (framework name : String) (caps : Capabilities) : Option Descriptor :=
  if framework = c.subsystem && caps.contains c.caps then
    c.devices.find? fun d => d.name = name
  else none

instance : Backend Camera where
  framework := Camera.framework
  devices c := ⟨c.list, [], c⟩
  select device _ _ := select device
  openAt := openAt
  close := close
  read := read
  adjust _ _ c := ⟨if c.failAdjust then .error (.io reason) else .ok (), [], c⟩
  resolve := resolve

end Camera

end VideoCapture.Scripted
