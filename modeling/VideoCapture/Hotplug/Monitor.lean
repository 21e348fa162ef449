import VideoCapture.Hotplug.Event

/-!
# The hot-plug monitor

The monitor turns what the operating system tells into events on capture and audio devices. Capture
devices are described well enough to be passed on one by one. Audio devices are not: the monitor
lists them again and compares with the list it kept.

## Main definitions

* `Monitor` — the audio devices of the latest successful listing.
* `Monitor.handle` — one notification of the operating system.
-/

namespace VideoCapture.Hotplug

/-- What a device must say it can do to count as a capture device. -/
def captureCapability : String := "video_capture"

def videoSubsystem : String := "video4linux"

/-- The class of the devices of a subsystem, if it is watched. -/
def classify (subsystem : String) : Option DeviceClass :=
  if subsystem = videoSubsystem then some .video
  else if subsystem ∈ ["alsa", "oss", "sound"] then some .audio
  else none

/-- The capture interface of a given name. -/
def levelOf (api : Option String) : Option Capabilities :=
  if api = some "video4linux" then some Capabilities.legacy
  else if api = some "video4linux2" then some Capabilities.second
  else none

/-- The audio devices as they were listed last. -/
structure Monitor where
  audio : List String
  deriving DecidableEq

namespace Monitor

/-- A monitor that starts with a listing; none is an empty one. -/
def start (listing : Option (List String)) : Monitor := ⟨listing.getD []⟩

/-- The event of a capture device, unless it lacks an interface or does not capture. -/
def captureEvent? (subsystem : String) (raw : RawDevice) : Option Event :=
  match levelOf raw.api with
  | none => none
  | some level =>
    if captureCapability ∈ raw.capabilities then
      some ⟨.video, subsystem, raw.name.getD raw.node, level⟩
    else none

def appeared (cached fresh : List String) : List String :=
  fresh.filter fun name => !cached.contains name

/-- The first name of `cached` that is not in `fresh`. -/
def vanished? (cached fresh : List String) : Option String :=
  cached.find? fun name => !fresh.contains name

/-- The events of an audio subsystem after a new listing. A removal is reported for the first
missing name only. -/
def audioNotices (removing : Bool) (subsystem : String) (cached fresh : List String) :
    List Notice :=
  let event (name : String) : Event := ⟨.audio, subsystem, name, Capabilities.none⟩
  let added := (appeared cached fresh).map fun name => ⟨true, event name⟩
  let removed := if removing then (vanished? cached fresh).toList else []
  added ++ removed.map fun name => ⟨false, event name⟩

/-- One notification of the operating system. `listing` is what listing the audio devices yields at
that moment; without one the monitor keeps its list. -/
def handle (action : Action) (subsystem : String) (raw : RawDevice)
    (listing : Option (List String)) (m : Monitor) : List Notice × Monitor :=
  if action = .other then ([], m)
  else
    match classify subsystem with
    | none => ([], m)
    | some .video =>
      match captureEvent? subsystem raw with
      | some event => ([⟨action = .add, event⟩], m)
      | none => ([], m)
    | some .audio =>
      match listing with
      | none => ([], m)
      | some fresh => (audioNotices (action = .remove) subsystem m.audio fresh, ⟨fresh⟩)

def describe (m : Monitor) : String :=
  Text.record "HotplugMonitor" [("audio_devices", Text.sequence (m.audio.map Text.quoted))]

end Monitor

end VideoCapture.Hotplug
