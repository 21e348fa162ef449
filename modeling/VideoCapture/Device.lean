import VideoCapture.Text.Record

/-!
# Capture devices

What identifies a capture device, what it advertises when it is plugged in, and how it is asked to
deliver pictures.

## Main definitions

* `Descriptor` — framework, source and name of one device; two descriptors are the same device
  only if all three agree.
* `Descriptor.fallback` — the synthetic device that is always there.
* `Capabilities` — the capture interfaces a plugged-in device offers.
* `VideoFormat`, `DeviceErrorCode`, `DeviceClass` — the remaining vocabulary on devices.
-/

namespace VideoCapture

/-- Identifies one capture device. The same camera offered by two frameworks is two devices. -/
structure Descriptor where
  framework : String
  source : String
  name : String
  deriving DecidableEq

namespace Descriptor

/-- Framework, source and name of the synthetic device. -/
def fallbackName : String := "Moving Logo"

/-- The synthetic device, which is always there. -/
def fallback : Descriptor := ⟨fallbackName, fallbackName, fallbackName⟩

def empty : Descriptor := ⟨"", "", ""⟩

/-- Whether `d` is the synthetic device. -/
def isFallback (d : Descriptor) : Bool := d = fallback

/-- The text shown for a device: its name, then where it comes from. -/
def display (d : Descriptor) : String := d.name ++ " (" ++ d.framework ++ "/" ++ d.source ++ ")"

def describe (d : Descriptor) : String :=
  Text.record "DeviceDescriptor"
    [("framework", Text.quoted d.framework), ("source", Text.quoted d.source),
      ("name", Text.quoted d.name)]

@[simp] theorem isFallback_iff (d : Descriptor) : d.isFallback = true ↔ d = fallback := by
  simp [isFallback]

end Descriptor

/-- Capture interfaces a device offers: the legacy one and its successor. -/
structure Capabilities where
  v4l1 : Bool
  v4l2 : Bool
  deriving DecidableEq

namespace Capabilities

def none : Capabilities := ⟨false, false⟩

def legacy : Capabilities := ⟨true, false⟩

def second : Capabilities := ⟨false, true⟩

/-- Whether `c` offers every interface of `wanted`. -/
def contains (c wanted : Capabilities) : Bool :=
  (!wanted.v4l1 || c.v4l1) && (!wanted.v4l2 || c.v4l2)

@[simp] theorem contains_self (c : Capabilities) : c.contains c = true := by
  simp [contains]

end Capabilities

/-- Hardware class a plugged-in device belongs to. -/
inductive DeviceClass where
  | video
  | audio
  deriving DecidableEq

/-- Analogue video standard requested from the capture input. -/
inductive VideoFormat where
  | pal
  | ntsc
  | secam
  | auto
  deriving DecidableEq

namespace VideoFormat

/-- Every standard, in the order in which they are listed to the user. -/
def all : List VideoFormat := [pal, ntsc, secam, auto]

def key : VideoFormat → String
  | pal => "pal"
  | ntsc => "ntsc"
  | secam => "secam"
  | auto => "auto"

def ofKey? (name : String) : Option VideoFormat := all.find? fun f => f.key = name

def label : VideoFormat → String
  | pal => "Pal"
  | ntsc => "Ntsc"
  | secam => "Secam"
  | auto => "Auto"

theorem ofKey?_key (f : VideoFormat) : ofKey? f.key = some f := by
  cases f <;> decide

end VideoFormat

/-- What a backend complains about while it works with a device. -/
inductive DeviceErrorCode where
  | device
  | format
  | channel
  | colour
  | frameRate
  | scale
  deriving DecidableEq

end VideoCapture
