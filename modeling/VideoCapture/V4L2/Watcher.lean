import VideoCapture.Error
import VideoCapture.Text.Path
import VideoCapture.V4L2.Hardware

/-!
# Watching device directories

The watcher follows two directories: the one where video nodes appear, and the one of the sound
devices. It tells the hot-plug monitor what appears and what vanishes. A vanished node cannot be
asked any more, so the watcher remembers what each node was.

## Main definitions

* `DirEvent` — something happened to a name in a directory.
* `Watcher` — the watcher with the hardware and the monitor it serves.
* `Watcher.observe` — what one event is reported as.
* `Watcher.spawn` — the start, `Watcher.handleBatch` — events read in one go.
-/

namespace VideoCapture.V4L2

def deviceDir : String := "/dev"

def soundDir : String := "/dev/snd"

/-- The subsystem under which changes of sound devices are passed on. -/
def audioSubsystem : String := "sound"

/-- The bit of a created name in an event's mask. -/
def createdMask : UInt32 := 0x100

/-- How often a new node is probed, since its permissions may come late. -/
def probeAttempts : Nat := 5

/-- Something happened in a watched directory. -/
structure DirEvent where
  dir : String
  mask : UInt32
  /-- The name it happened to, in bytes, unless it happened to the directory. -/
  name : Option (List UInt8)
  deriving DecidableEq

inductive NodeKind where
  | video
  | audio
  deriving DecidableEq

/-- The kind of a node by its directory and the beginning of its name. -/
def nodeKind? (dir name : String) : Option NodeKind :=
  if dir = deviceDir && "video".toList.isPrefixOf name.toList then some .video
  else if dir = soundDir && "pcm".toList.isPrefixOf name.toList then some .audio
  else none

/-- The text of a name, if its bytes are one. -/
def nameText? (bytes : List UInt8) : Option String := String.fromUTF8? ⟨bytes.toArray⟩

namespace DirEvent

/-- Whether the name was created; a name that was not counts as deleted. -/
def created (e : DirEvent) : Bool := e.mask &&& createdMask != 0

/-- The kind and the path of the node that an event is about, if it is about one. -/
def subject? (e : DirEvent) : Option (NodeKind × String) :=
  match e.name.bind nameText? with
  | none => none
  | some name => (nodeKind? e.dir name).map fun kind => (kind, e.dir ++ "/" ++ name)

end DirEvent

/-- What is known about nodes, by the parts of their paths. -/
abbrev KnownNodes := List (List (List Char) × Hotplug.RawDevice)

namespace KnownNodes

def find? (path : String) (known : KnownNodes) : Option Hotplug.RawDevice :=
  known.lookup (Text.pathParts path)

def erase (path : String) (known : KnownNodes) : KnownNodes :=
  known.filter fun p => p.1 ≠ Text.pathParts path

/-- Remembers the node at a path in place of what was known about it. -/
def insert (path : String) (raw : Hotplug.RawDevice) (known : KnownNodes) : KnownNodes :=
  (Text.pathParts path, raw) :: erase path known

def ofNodes (nodes : List CaptureNode) : KnownNodes :=
  nodes.foldl (fun known n => insert n.path n.raw known) []

end KnownNodes

/-- The watcher with the hardware and the monitor it serves. -/
structure Watcher (H : Type) where
  hardware : H
  monitor : Hotplug.Monitor
  /-- The directories that can be watched. -/
  watched : List String
  known : KnownNodes
  /-- Whether it still reads events. -/
  reading : Bool
  /-- Whether it has been told to stop. -/
  stopped : Bool

namespace Watcher

variable {H : Type}

/-- The directories it tries to watch, in order. -/
def directories : List String := [deviceDir, soundDir]

section Events

variable [Hardware H]

/-- The start: `source` is the error of the operating system if there is no event source at all, and
`canWatch` tells which directories can be watched. -/
def spawn (source : Except String Unit) (canWatch : String → Bool) (monitor : Hotplug.Monitor)
    (hardware : H) : Except CaptureError (Watcher H) :=
  match source with
  | .error text => .error (.io text)
  | .ok () =>
    let (nodes, h) := listNodes hardware
    .ok
      { hardware := h
        monitor := monitor
        watched := directories.filter canWatch
        known := KnownNodes.ofNodes nodes
        reading := true
        stopped := false }

/-- A video node appeared: it is reported and remembered if a probe succeeds. -/
def videoCreated (path : String) (w : Watcher H) : Option Hotplug.Report × Watcher H :=
  match probeUpTo path probeAttempts w.hardware with
  | (none, h) => (none, { w with hardware := h })
  | (some node, h) =>
    (some ⟨.add, Hotplug.videoSubsystem, node.raw⟩,
      { w with hardware := h, known := w.known.insert path node.raw })

/-- A video node vanished: what it was is reported and forgotten. -/
def videoDeleted (path : String) (w : Watcher H) : Option Hotplug.Report × Watcher H :=
  match w.known.find? path with
  | none => (none, w)
  | some raw =>
    (some ⟨.remove, Hotplug.videoSubsystem, raw⟩, { w with known := w.known.erase path })

/-- What one event is reported as, if it is. -/
def observe (e : DirEvent) (w : Watcher H) : Option Hotplug.Report × Watcher H :=
  if e.dir ∉ w.watched then (none, w)
  else
    match e.subject? with
    | none => (none, w)
    | some (.video, path) => if e.created then w.videoCreated path else w.videoDeleted path
    | some (.audio, path) =>
      (some ⟨if e.created then .add else .remove, audioSubsystem, ⟨path, none, none, []⟩⟩, w)

/-- A report goes to the monitor. `listing` is what listing the audio devices yields at that
moment. -/
def tell (r : Hotplug.Report) (listing : Option (List String)) (w : Watcher H) :
    List Hotplug.Notice × Watcher H :=
  let (notices, m) := w.monitor.handle r.action r.subsystem r.raw listing
  (notices, { w with monitor := m })

/-- One event, and what the monitor makes of the report on it. -/
def handleEvent (e : DirEvent) (listing : Option (List String)) (w : Watcher H) :
    List Hotplug.Notice × Watcher H :=
  match w.observe e with
  | (none, w) => ([], w)
  | (some report, w) => w.tell report listing

/-- Events read in one go, in order. -/
def handleEvents (listing : Option (List String)) : List DirEvent → Watcher H →
    List Hotplug.Notice × Watcher H
  | [], w => ([], w)
  | e :: rest, w =>
    let (notices, w) := w.handleEvent e listing
    let (more, w) := handleEvents listing rest w
    (notices ++ more, w)

/-- Events read in one go; a watcher that reads no more drops them. -/
def handleBatch (events : List DirEvent) (listing : Option (List String)) (w : Watcher H) :
    List Hotplug.Notice × Watcher H :=
  if w.reading then w.handleEvents listing events else ([], w)

end Events

/-- Reading events failed: it tries again if there just were none, and ends otherwise. -/
def readFailed (noneYet : Bool) (w : Watcher H) : Watcher H :=
  if noneYet then w else { w with reading := false }

def stop (w : Watcher H) : Watcher H := { w with reading := false, stopped := true }

def describe (w : Watcher H) : String :=
  Text.record "DevWatcher" [("running", Text.boolean (!w.stopped))]

end Watcher

end VideoCapture.V4L2
