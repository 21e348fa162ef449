import VideoCapture.Device
import VideoCapture.Geometry
import VideoCapture.Adjustment

/-!
# Settings of the video input

What a user configures: the wanted device, how it is opened for the preview and for a call, and
optionally the picture adjustments.
-/

namespace VideoCapture

/-- The configuration of the video input. -/
structure Settings where
  /-- The device the user asked for. -/
  device : Descriptor
  channel : UInt32
  format : VideoFormat
  preview : Geometry
  stream : Geometry
  /-- The adjustments sent while one consumer alone uses the device, if any. -/
  adjustments : Option AdjustmentSet
  deriving DecidableEq

namespace Settings

/-- The settings in force when nothing is configured. -/
def default : Settings where
  device := Descriptor.fallback
  channel := 0
  format := .auto
  preview := Geometry.previewDefault
  stream := Geometry.streamDefault
  adjustments := none

end Settings

end VideoCapture
