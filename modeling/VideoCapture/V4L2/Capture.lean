import VideoCapture.Backend
import VideoCapture.Frame.Packed
import VideoCapture.Frame.Resize
import VideoCapture.V4L2.Control

/-!
# The Video4Linux2 backend

Devices are selected by the name of their card. An open device streams in a format of its own choice;
its frames are brought to planar layout and to the size that was asked for.

## Main definitions

* `Capture` — the backend: the hardware, the selected device and the session of an open one.
* `configure` — opening a node and agreeing on a format.
* `Session.normalise` — a buffer of the node as a frame of the wanted size.
* `Session.deliver` — the same in place, in the caller's buffer and a scratch buffer.
* `Session.hasRoom` — whether there is room for the frames of a session.
* `Capture.readInto` — a frame for a caller's buffer, which may hold anything.

The main statement is `Capture.readInto_eq`: where there is room, no access fails, and what the caller's
buffer held makes no difference.
-/

namespace VideoCapture.V4L2

/-- The device chosen for the next opening. -/
structure Selection where
  descriptor : Descriptor
  path : String
  channel : UInt32
  format : VideoFormat
  deriving DecidableEq

/-- An open device that streams. -/
structure Session where
  node : Nat
  native : StreamFormat
  size : FrameSize
  controls : PictureControls
  deriving DecidableEq

/-- A node configured for capture. -/
structure Configured where
  node : Nat
  native : StreamFormat
  /-- Whether the driver accepted the frame rate. -/
  rateApplied : Bool
  deriving DecidableEq

/-- The number of buffers shared with the driver. -/
def bufferCount : Nat := 4

/-- The first `n` bytes, with grey in place of those that are missing. -/
def fitBytes (n : Nat) (bytes : Array UInt8) : Array UInt8 :=
  bytes.extract 0 n ++ Array.replicate (n - bytes.size) Frame.neutralChroma

namespace Session

/-- A buffer of the node as a planar frame of the native size. -/
def nativeFrame (s : Session) (buffer : Buffer) : Array UInt8 :=
  let data := buffer.data.extract 0 (min buffer.used buffer.data.size)
  let width := s.native.width.toNat
  let height := s.native.height.toNat
  if s.native.pixels = PixelFormat.packedCode then planarOfPacked data width height
  else fitBytes (planarLength width height) data

/-- A buffer of the node as a frame of the wanted size. -/
def normalise (s : Session) (buffer : Buffer) : Frame where
  size := s.size
  data :=
    if s.native.width = s.size.width ∧ s.native.height = s.size.height then s.nativeFrame buffer
    else
      resizePlanar (s.nativeFrame buffer) s.native.width.toNat s.native.height.toNat
        s.size.width.toNat s.size.height.toNat

/-- Writes bytes of the node as a planar frame of the native size into a buffer, whatever the buffer
holds. -/
def nativeInto (s : Session) (data buffer : Array UInt8) : Option (Array UInt8) :=
  let width := s.native.width.toNat
  let height := s.native.height.toNat
  if s.native.pixels = PixelFormat.packedCode then unpackInto data width height buffer
  else do return fitBytes (← s.native.frameSize.bufferLength?) (buffer.shrink 0 ++ data)

/-- Writes a buffer of the node as a frame of the wanted size into the caller's buffer `target`. If the
native size is another one, the native frame is written to `scratch` before. Both are answered as they
are afterwards, `scratch` first. -/
def deliver (s : Session) (dequeued : Buffer) (scratch target : Array UInt8) :
    Option (Array UInt8 × Array UInt8) := do
  if s.native.width = s.size.width ∧ s.native.height = s.size.height then
    return (scratch, ← s.nativeInto dequeued.inUse target)
  else
    let scratch ← s.nativeInto dequeued.inUse scratch
    return (scratch, ← resizeInto scratch s.native.width.toNat s.native.height.toNat target
      s.size.width.toNat s.size.height.toNat)

/-- Whether there is room for a frame of the native size and for one of the wanted size. -/
def hasRoom (s : Session) : Bool := s.native.frameSize.fits && s.size.fits

theorem nativeInto_eq (s : Session) (dequeued : Buffer) (buffer : Array UInt8) :
    s.nativeInto dequeued.inUse buffer =
      if s.native.frameSize.fits then some (s.nativeFrame dequeued) else none := by
  unfold nativeInto nativeFrame
  split
  · have hstride : 2 * s.native.width.toNat < longLimit := by
      have hwidth := s.native.width.toNat_lt
      unfold longLimit
      omega
    have hroom : planarLength s.native.width.toNat s.native.height.toNat < roomLimit ↔
        s.native.frameSize.fits = true := s.native.frameSize.fits_iff.symm
    simp only [unpackInto_eq, hstride, true_and, hroom, Buffer.inUse]
  · cases hfits : s.native.frameSize.fits with
    | true =>
      have hempty : buffer.shrink 0 ++ dequeued.inUse = dequeued.inUse := by simp
      rw [FrameSize.bufferLength?_of_fits hfits, hempty]
      rfl
    | false =>
      rw [FrameSize.bufferLength?_of_not_fits hfits]
      rfl

/-- What the scratch buffer holds after a frame. -/
def scratchAfter (s : Session) (dequeued : Buffer) (scratch : Array UInt8) : Array UInt8 :=
  if s.native.width = s.size.width ∧ s.native.height = s.size.height then scratch
  else s.nativeFrame dequeued

/-- Delivering succeeds if there is room, and the caller's buffer ends up with the frame, whatever the two
buffers held. -/
theorem deliver_eq (s : Session) (dequeued : Buffer) (scratch target : Array UInt8) :
    s.deliver dequeued scratch target =
      if s.hasRoom then some (s.scratchAfter dequeued scratch, (s.normalise dequeued).data)
      else none := by
  unfold deliver scratchAfter normalise hasRoom
  split
  · rename_i hsame
    have hsize : s.native.frameSize = s.size := by
      rw [StreamFormat.frameSize, hsame.1, hsame.2]
    rw [nativeInto_eq, hsize, Bool.and_self]
    cases s.size.fits <;> simp
  · rw [nativeInto_eq]
    cases hnative : s.native.frameSize.fits with
    | false => simp
    | true =>
      have hiff : Resizable (s.nativeFrame dequeued).size s.native.width.toNat
          s.native.height.toNat s.size.width.toNat s.size.height.toNat ↔ s.size.fits = true :=
        FrameSize.resizable_iff s.size hnative _
      cases hfits : s.size.fits with
      | true => simp [resizeInto_eq (hiff.mpr hfits)]
      | false => simp [resizeInto_eq_none (mt hiff.mp (Bool.eq_false_iff.mp hfits))]

end Session

/-- The backend over hardware of type `H`. -/
structure Capture (H : Type) where
  hardware : H
  selected : Option Selection
  session : Option Session
  /-- Where the session converts frames before it resizes them. It is kept from frame to frame. -/
  scratch : Array UInt8

section Opening

variable {H : Type} [Hardware H]

/-- The first of the given formats that the driver takes up with one that can be turned into planar
frames. -/
def negotiate (node : Nat) (g : Geometry) : List PixelFormat → H → Option StreamFormat × H
  | [], h => (none, h)
  | wanted :: rest, h =>
    match Hardware.setFormat node ⟨g.width, g.height, wanted⟩ h with
    | (.ok native, h) =>
      if native.pixels.isSupported then (some native, h) else negotiate node g rest h
    | (.error _, h) => negotiate node g rest h

/-- Sets the frame rate, unless none is wanted; says whether it is as wanted. -/
def applyRate (node : Nat) (fps : UInt32) (h : H) : Bool × H :=
  if fps = 0 then (true, h)
  else
    match Hardware.setRate node fps h with
    | (.ok (), h) => (true, h)
    | (.error _, h) => (false, h)

/-- Opens the node at a path and agrees on a format as close to a geometry as the driver allows. -/
def configure (path : String) (g : Geometry) (h : H) : Except CaptureError Configured × H :=
  match Hardware.openNode path h with
  | (.error text, h) => (.error (.openFailure path g text), h)
  | (.ok node, h) =>
    match negotiate node g PixelFormat.preferred h with
    | (none, h) => (.error (.openFailure path g "no YUV capture format"), h)
    | (some native, h) =>
      let (rateApplied, h) := applyRate node g.fps h
      (.ok ⟨node, native, rateApplied⟩, h)

/-- Maps buffers and starts the stream of a node. -/
def startStream (node : Nat) (h : H) : Except CaptureError Unit × H :=
  match Hardware.mapBuffers node bufferCount h with
  | (.error text, h) => (.error (.io text), h)
  | (.ok (), h) =>
    match Hardware.streamOn node h with
    | (.error text, h) => (.error (.io text), h)
    | (.ok (), h) => (.ok (), h)

/-- What there is to complain about a configured node that will not be used quite as wanted. -/
def complaints (sel : Selection) (g : Geometry) (c : Configured) : List Signal :=
  let report (when : Bool) (code : DeviceErrorCode) : List Signal :=
    if when then [.error sel.descriptor code] else []
  report (sel.channel ≠ 0) .channel ++ report (sel.format ≠ .auto) .format
    ++ report (!c.rateApplied) .frameRate
    ++ report (c.native.width ≠ g.width ∨ c.native.height ≠ g.height) .scale

end Opening

namespace Capture

variable {H : Type}

def initial (hardware : H) : Capture H := ⟨hardware, none, none, #[]⟩

variable [Hardware H]

/-- The devices of all nodes that can capture. -/
def devices (c : Capture H) : Reply (Capture H) (Except CaptureError (List Descriptor)) :=
  let (nodes, h) := listNodes c.hardware
  ⟨.ok (nodes.map CaptureNode.descriptor), [], { c with hardware := h }⟩

/-- Selects the first node whose device is the given one. A refusal keeps the earlier choice. -/
def select (device : Descriptor) (channel : UInt32) (format : VideoFormat) (c : Capture H) :
    Reply (Capture H) Bool :=
  if device.framework ≠ framework then ⟨false, [], c⟩
  else
    let (nodes, h) := listNodes c.hardware
    match nodes.find? fun n => n.descriptor = device with
    | some n =>
      ⟨true, [], { c with hardware := h, selected := some ⟨device, n.path, channel, format⟩ }⟩
    | none => ⟨false, [], { c with hardware := h }⟩

/-- Ends the session, if there is one. The signal names the device selected at that moment. -/
def close (c : Capture H) : Reply (Capture H) Unit :=
  match c.session with
  | none => ⟨(), [], c⟩
  | some s =>
    let (_, h) := Hardware.streamOff s.node c.hardware
    let signals := c.selected.toList.map fun sel => Signal.closed sel.descriptor
    ⟨(), signals, { c with hardware := h, session := none }⟩

/-- Opens the selected device, which has been configured, and streams from it. -/
def stream (sel : Selection) (g : Geometry) (configured : Configured) (c : Capture H) :
    Reply (Capture H) (Except CaptureError AdjustmentSet) :=
  match startStream configured.node c.hardware with
  | (.error e, h) => ⟨.error e, [.error sel.descriptor .device], { c with hardware := h }⟩
  | (.ok (), h) =>
    let (controls, h) := PictureControls.query configured.node h
    let (settings, h) := controls.read configured.node h
    let session : Session := ⟨configured.node, configured.native, g.frameSize, controls⟩
    let config : DeviceConfig := ⟨g, settings, !controls.ranges.isEmpty⟩
    ⟨.ok settings, [.opened sel.descriptor config],
      { c with hardware := h, session := some session, scratch := #[] }⟩

/-- Opens the selected device anew. -/
def openSelected (sel : Selection) (g : Geometry) (c : Capture H) :
    Reply (Capture H) (Except CaptureError AdjustmentSet) :=
  match configure sel.path g c.hardware with
  | (.error e, h) => ⟨.error e, [.error sel.descriptor .device], { c with hardware := h }⟩
  | (.ok configured, h) =>
    let r := stream sel g configured { c with hardware := h }
    { r with signals := complaints sel g configured ++ r.signals }

/-- Opens the selected device; an open one is closed first. -/
def openAt (g : Geometry) (c : Capture H) :
    Reply (Capture H) (Except CaptureError AdjustmentSet) :=
  let closed := c.close
  match closed.backend.selected with
  | none => ⟨.error .notOpen, closed.signals, closed.backend⟩
  | some sel =>
    let r := closed.backend.openSelected sel g
    { r with signals := closed.signals ++ r.signals }

/-- Reads a frame into the caller's buffer, and answers what the buffer holds afterwards. A failure
names the device selected at that moment and leaves the buffer alone. -/
def readInto (buffer : Array UInt8) (c : Capture H) :
    Option (Reply (Capture H) (Except CaptureError FrameSize) × Array UInt8) :=
  match c.session with
  | none => some (⟨.error .notOpen, [], c⟩, buffer)
  | some s =>
    match Hardware.dequeue s.node c.hardware with
    | (.ok dequeued, h) => do
      let (scratch, target) ← s.deliver dequeued c.scratch buffer
      return (⟨.ok s.size, [], { c with hardware := h, scratch := scratch }⟩, target)
    | (.error text, h) =>
      let device := (c.selected.map fun sel => sel.descriptor.display).getD ""
      some (⟨.error (.readFailure device text), [], { c with hardware := h }⟩, buffer)

/-- What a read of a frame into a new buffer comes to, where there is room for the frame. -/
def read (c : Capture H) : Reply (Capture H) (Except CaptureError Frame) :=
  match c.session with
  | none => ⟨.error .notOpen, [], c⟩
  | some s =>
    match Hardware.dequeue s.node c.hardware with
    | (.ok dequeued, h) =>
      ⟨.ok (s.normalise dequeued), [],
        { c with hardware := h, scratch := s.scratchAfter dequeued c.scratch }⟩
    | (.error text, h) =>
      let device := (c.selected.map fun sel => sel.descriptor.display).getD ""
      ⟨.error (.readFailure device text), [], { c with hardware := h }⟩

section Reading

variable {c : Capture H} {s : Session} {h : H}

theorem readInto_of_closed (hs : c.session = none) (buffer : Array UInt8) :
    c.readInto buffer = some (⟨.error .notOpen, [], c⟩, buffer) := by
  rw [readInto, hs]

theorem readInto_of_dequeued {dequeued : Buffer} (hs : c.session = some s)
    (hd : Hardware.dequeue s.node c.hardware = (.ok dequeued, h)) (buffer : Array UInt8) :
    c.readInto buffer =
      if s.hasRoom then
        some (⟨.ok s.size, [],
          { c with hardware := h, scratch := s.scratchAfter dequeued c.scratch }⟩,
          (s.normalise dequeued).data)
      else none := by
  rw [readInto, hs]
  simp only [hd, Session.deliver_eq]
  split <;> rfl

theorem readInto_of_failed {text : String} (hs : c.session = some s)
    (hd : Hardware.dequeue s.node c.hardware = (.error text, h)) (buffer : Array UInt8) :
    c.readInto buffer =
      some (⟨.error (.readFailure ((c.selected.map fun sel => sel.descriptor.display).getD "") text),
        [], { c with hardware := h }⟩, buffer) := by
  simp [readInto, hs, hd]

theorem read_of_closed (hs : c.session = none) : c.read = ⟨.error .notOpen, [], c⟩ := by
  rw [read, hs]

theorem read_of_dequeued {dequeued : Buffer} (hs : c.session = some s)
    (hd : Hardware.dequeue s.node c.hardware = (.ok dequeued, h)) :
    c.read =
      ⟨.ok (s.normalise dequeued), [],
        { c with hardware := h, scratch := s.scratchAfter dequeued c.scratch }⟩ := by
  simp [read, hs, hd]

theorem read_of_failed {text : String} (hs : c.session = some s)
    (hd : Hardware.dequeue s.node c.hardware = (.error text, h)) :
    c.read =
      ⟨.error (.readFailure ((c.selected.map fun sel => sel.descriptor.display).getD "") text),
        [], { c with hardware := h }⟩ := by
  simp [read, hs, hd]

/-- A read ends in one of three ways. -/
theorem read_cases (c : Capture H) :
    (c.session = none ∧ c.read = ⟨.error .notOpen, [], c⟩) ∨
    (∃ s dequeued h, c.session = some s ∧ Hardware.dequeue s.node c.hardware = (.ok dequeued, h) ∧
      c.read = ⟨.ok (s.normalise dequeued), [],
        { c with hardware := h, scratch := s.scratchAfter dequeued c.scratch }⟩) ∨
    ∃ s text h, c.session = some s ∧ Hardware.dequeue s.node c.hardware = (.error text, h) ∧
      c.read =
        ⟨.error (.readFailure ((c.selected.map fun sel => sel.descriptor.display).getD "") text),
          [], { c with hardware := h }⟩ := by
  rcases Option.eq_none_or_eq_some c.session with hs | ⟨s, hs⟩
  · exact .inl ⟨hs, read_of_closed hs⟩
  · match hd : Hardware.dequeue s.node c.hardware with
    | (.ok dequeued, h) => exact .inr (.inl ⟨s, dequeued, h, hs, hd, read_of_dequeued hs hd⟩)
    | (.error text, h) => exact .inr (.inr ⟨s, text, h, hs, hd, read_of_failed hs hd⟩)

/-- Where there is room for the frames of the session, no access fails, and what the caller's buffer
holds before makes no difference, except that a failure leaves it as it is. -/
theorem readInto_eq (hroom : c.session.all Session.hasRoom = true) (buffer : Array UInt8) :
    c.readInto buffer =
      some (⟨c.read.value.map Frame.size, c.read.signals, c.read.backend⟩,
        match c.read.value with
        | .ok f => f.data
        | .error _ => buffer) := by
  rcases read_cases c with ⟨hs, hread⟩ | ⟨s, dequeued, h, hs, hd, hread⟩ |
    ⟨s, text, h, hs, hd, hread⟩
  · rw [readInto_of_closed hs, hread]
    rfl
  · rw [hs, Option.all_some] at hroom
    rw [readInto_of_dequeued hs hd, hread, if_pos hroom]
    rfl
  · rw [readInto_of_failed hs hd, hread]
    rfl

/-- Where there is none, a read fails as soon as the driver has a buffer. -/
theorem readInto_eq_none_iff (hs : c.session = some s) (buffer : Array UInt8) :
    c.readInto buffer = none ↔
      s.hasRoom = false ∧ ∃ dequeued h, Hardware.dequeue s.node c.hardware = (.ok dequeued, h) := by
  match hd : Hardware.dequeue s.node c.hardware with
  | (.ok dequeued, h) =>
    rw [readInto_of_dequeued hs hd]
    simp
  | (.error text, h) =>
    rw [readInto_of_failed hs hd]
    simp

end Reading

def adjust (kind : Adjustment) (value : UInt32) (c : Capture H) :
    Reply (Capture H) (Except CaptureError Unit) :=
  match c.session with
  | none => ⟨.error .notOpen, [], c⟩
  | some s =>
    let (outcome, h) := s.controls.write s.node kind value c.hardware
    ⟨outcome, [], { c with hardware := h }⟩

/-- The device of a plugged-in device, if it has this interface. -/
def resolve (subsystem name : String) (capabilities : Capabilities) : Option Descriptor :=
  if subsystem = Hotplug.videoSubsystem && capabilities.contains Capabilities.second then
    some ⟨V4L2.framework, V4L2.source, name⟩
  else none

instance : Backend (Capture H) where
  framework _ := V4L2.framework
  devices := devices
  select := select
  openAt := openAt
  close := close
  read := read
  adjust := adjust
  resolve _ := resolve

end Capture

def Selection.describe (sel : Selection) : String :=
  Text.record "Selection"
    [("descriptor", sel.descriptor.describe), ("path", Text.quoted sel.path),
      ("channel", toString sel.channel), ("format", sel.format.label)]

def Capture.describe {H : Type} (c : Capture H) : String :=
  Text.record "V4l2Backend"
    [("selected", Text.optional Selection.describe c.selected),
      ("open", Text.boolean c.session.isSome)]

end VideoCapture.V4L2
