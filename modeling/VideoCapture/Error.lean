import VideoCapture.Device
import VideoCapture.Adjustment
import VideoCapture.Geometry

/-!
# Errors of a capture

Everything that can go wrong between the controller and a device, by cause, and the message shown
for each cause.
-/

namespace VideoCapture

/-- Why a capture request failed. -/
inductive CaptureError where
  /-- No backend accepted the device. -/
  | deviceUnavailable (device : Descriptor)
  /-- The device refused to open at the geometry. -/
  | openFailure (device : String) (geometry : Geometry) (reason : String)
  | readFailure (device : String) (reason : String)
  | enumerationFailure (reason : String)
  /-- The request needs an open device. -/
  | notOpen
  /-- The device lacks the control behind an adjustment. -/
  | controlNotSupported (kind : Adjustment)
  | invalidSettings (reason : String)
  /-- The operating system refused; the text is its own. -/
  | io (text : String)
  deriving DecidableEq

namespace CaptureError

def message : CaptureError → String
  | deviceUnavailable device => "No registered backend offers device " ++ device.display
  | openFailure device g reason =>
    "Failed to open " ++ device ++ " at " ++ toString g.width ++ "x" ++ toString g.height ++ "@"
      ++ toString g.fps ++ ": " ++ reason
  | readFailure device reason => "Frame read failed on " ++ device ++ ": " ++ reason
  | enumerationFailure reason => "Device enumeration failed: " ++ reason
  | notOpen => "Device is not open"
  | controlNotSupported kind => "Control not supported by device: " ++ kind.label
  | invalidSettings reason => "Invalid settings: " ++ reason
  | io text => text

end CaptureError

end VideoCapture
