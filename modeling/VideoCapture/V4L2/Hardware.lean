import VideoCapture.Device
import VideoCapture.Frame
import VideoCapture.Hotplug.Monitor
import VideoCapture.Frame.PixelFormat

/-!
# Video4Linux2 hardware

The device nodes of the kernel's capture interface, and the calls made on them. A call may change the
hardware, and the hardware decides how it is answered; an error comes with the text of the operating
system.

## Main definitions

* `Hardware` — the calls.
* `CaptureNode` — a node that can capture, `probe` — finding out whether one can.
* `listNodes` — all nodes that can capture.
-/

namespace VideoCapture.V4L2

def framework : String := "V4L2"

/-- Where the devices of this framework come from. -/
def source : String := "video4linux2"

/-- What a node says about itself. -/
structure Card where
  name : String
  captures : Bool
  deriving DecidableEq

structure StreamFormat where
  width : UInt32
  height : UInt32
  pixels : PixelFormat
  deriving DecidableEq

def StreamFormat.frameSize (native : StreamFormat) : FrameSize := ⟨native.width, native.height⟩

structure ControlInfo where
  id : UInt32
  min : Int
  max : Int
  deriving DecidableEq

inductive ControlValue where
  | integer (n : Int)
  | boolean (b : Bool)
  deriving DecidableEq

/-- A filled buffer, and how many of its bytes are in use. -/
structure Buffer where
  data : Array UInt8
  used : Nat
  deriving DecidableEq

/-- The bytes of a filled buffer that are in use. -/
def Buffer.inUse (buffer : Buffer) : Array UInt8 :=
  buffer.data.extract 0 (min buffer.used buffer.data.size)

/-- The calls on device nodes. An open node is referred to by a number. -/
class Hardware (H : Type) where
  /-- The paths of the nodes that exist, in order. -/
  paths : H → List String × H
  openNode : String → H → Except String Nat × H
  card : Nat → H → Except String Card × H
  /-- Asks for a format; the driver says which one it chose. -/
  setFormat : Nat → StreamFormat → H → Except String StreamFormat × H
  setRate : Nat → UInt32 → H → Except String Unit × H
  controls : Nat → H → Except String (List ControlInfo) × H
  readControl : Nat → UInt32 → H → Except String ControlValue × H
  writeControl : Nat → UInt32 → Int → H → Except String Unit × H
  mapBuffers : Nat → Nat → H → Except String Unit × H
  streamOn : Nat → H → Except String Unit × H
  streamOff : Nat → H → Except String Unit × H
  dequeue : Nat → H → Except String Buffer × H

/-- A node that can capture. -/
structure CaptureNode where
  path : String
  card : String
  deriving DecidableEq

namespace CaptureNode

/-- The device that a node is. -/
def descriptor (n : CaptureNode) : Descriptor := ⟨framework, source, n.card⟩

/-- A node as the operating system would describe it when it is plugged in. -/
def raw (n : CaptureNode) : Hotplug.RawDevice :=
  ⟨n.path, some n.card, some source, [Hotplug.captureCapability]⟩

end CaptureNode

section Probing

variable {H : Type} [Hardware H]

/-- The node at a path, if it opens, says what it is, and captures. -/
def probe (path : String) (h : H) : Option CaptureNode × H :=
  match Hardware.openNode path h with
  | (.error _, h) => (none, h)
  | (.ok node, h) =>
    match Hardware.card node h with
    | (.ok card, h) => (if card.captures then some ⟨path, card.name⟩ else none, h)
    | (.error _, h) => (none, h)

/-- The nodes at the given paths that can capture. -/
def probeAll : List String → H → List CaptureNode × H
  | [], h => ([], h)
  | path :: rest, h =>
    let (found, h) := probe path h
    let (more, h) := probeAll rest h
    (found.toList ++ more, h)

/-- All nodes that can capture, in order. -/
def listNodes (h : H) : List CaptureNode × H :=
  let (paths, h) := Hardware.paths h
  probeAll paths h

/-- The first success of at most `attempts` probes of a path. -/
def probeUpTo (path : String) : Nat → H → Option CaptureNode × H
  | 0, h => (none, h)
  | attempts + 1, h =>
    match probe path h with
    | (some node, h) => (some node, h)
    | (none, h) => probeUpTo path attempts h

end Probing

end VideoCapture.V4L2
