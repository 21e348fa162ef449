import VideoCapture.Device

/-!
# Hot-plug events

What the operating system tells about devices that come and go, and what is made of it.
-/

namespace VideoCapture.Hotplug

inductive Action where
  | add
  | remove
  /-- Anything else; it is ignored. -/
  | other
  deriving DecidableEq

namespace Action

def parse (name : String) : Action :=
  if name = "add" then add else if name = "remove" then remove else other

end Action

/-- A device as the operating system describes it. -/
structure RawDevice where
  node : String
  /-- The name of the product, where it is known. -/
  name : Option String
  /-- The name of the capture interface, where there is one. -/
  api : Option String
  /-- What the device says it can do. -/
  capabilities : List String
  deriving DecidableEq

/-- A notification of the operating system: what happened to a device of a subsystem. -/
structure Report where
  action : Action
  subsystem : String
  raw : RawDevice
  deriving DecidableEq

/-- A device that came or went. -/
structure Event where
  deviceClass : DeviceClass
  /-- The subsystem the device was seen on. -/
  framework : String
  name : String
  capabilities : Capabilities
  deriving DecidableEq

/-- An event and its direction. -/
structure Notice where
  added : Bool
  event : Event
  deriving DecidableEq

end VideoCapture.Hotplug
