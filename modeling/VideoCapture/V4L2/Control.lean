import VideoCapture.Error
import VideoCapture.V4L2.Hardware

/-!
# Picture controls

Adjustments on a scale from 0 to 255, and the controls of a node behind them, each with a range of
its own.

## Main definitions

* `ControlRange.toDevice`, `ControlRange.fromDevice` — the two directions between scale and range.
* `PictureControls` — the controls that a node has.
-/

namespace VideoCapture.V4L2

/-- The number of the control behind an adjustment. -/
def controlId : Adjustment → UInt32
  | .colour => 0x00980902
  | .brightness => 0x00980900
  | .whiteness => 0x00980910
  | .contrast => 0x00980901

/-- The upper end of the scale. -/
def scaleMax : Int := 255

structure ControlRange where
  min : Int
  max : Int
  deriving DecidableEq

namespace ControlRange

/-- The value in the range for a value on the scale; beyond the scale it is the upper end. -/
def toDevice (r : ControlRange) (value : UInt32) : Int :=
  let v : Int := Min.min (value.toNat : Int) scaleMax
  r.min + Int.tdiv (v * (r.max - r.min)) scaleMax

/-- The value on the scale for a value in the range; a range without extent gives the middle. -/
def fromDevice (r : ControlRange) (raw : Int) : UInt32 :=
  if r.max ≤ r.min then AdjustmentSet.neutralValue
  else
    let clamped := Max.max r.min (Min.min raw r.max)
    UInt32.ofNat (Int.tdiv ((clamped - r.min) * scaleMax) (r.max - r.min)).toNat

end ControlRange

/-- The controls that a node has, in the order of the adjustments. -/
structure PictureControls where
  ranges : List (Adjustment × ControlRange)
  deriving DecidableEq

namespace PictureControls

/-- The picture controls among all controls of a node. -/
def ofInfos (infos : List ControlInfo) : PictureControls :=
  ⟨Adjustment.all.filterMap fun kind =>
    (infos.find? fun i => i.id = controlId kind).map fun i => (kind, ⟨i.min, i.max⟩)⟩

def range? (c : PictureControls) (kind : Adjustment) : Option ControlRange :=
  (c.ranges.find? fun r => r.1 = kind).map fun r => r.2

section Access

variable {H : Type} [Hardware H]

/-- The picture controls of an open node; a node that does not list them has none. -/
def query (node : Nat) (h : H) : PictureControls × H :=
  match Hardware.controls node h with
  | (.ok infos, h) => (ofInfos infos, h)
  | (.error _, h) => (⟨[]⟩, h)

/-- `settings` with the values of the given controls; what cannot be read stays as it is. -/
def readRanges (node : Nat) : List (Adjustment × ControlRange) → AdjustmentSet → H →
    AdjustmentSet × H
  | [], settings, h => (settings, h)
  | (kind, range) :: rest, settings, h =>
    match Hardware.readControl node (controlId kind) h with
    | (.ok (.integer raw), h) =>
      readRanges node rest (settings.set kind (range.fromDevice raw)) h
    | (_, h) => readRanges node rest settings h

/-- The values of all controls; those that are missing are in the middle of the scale. -/
def read (node : Nat) (c : PictureControls) (h : H) : AdjustmentSet × H :=
  readRanges node c.ranges AdjustmentSet.neutral h

/-- Sends one adjustment to an open node. -/
def write (node : Nat) (kind : Adjustment) (value : UInt32) (c : PictureControls) (h : H) :
    Except CaptureError Unit × H :=
  match c.range? kind with
  | none => (.error (.controlNotSupported kind), h)
  | some range =>
    match Hardware.writeControl node (controlId kind) (range.toDevice value) h with
    | (.ok (), h) => (.ok (), h)
    | (.error text, h) => (.error (.io text), h)

end Access

end PictureControls

end VideoCapture.V4L2
