import VideoCapture.Text.Record

/-!
# Capture geometry

Resolution and frame rate of a capture, and the two geometries in use when nobody asks for others.
-/

namespace VideoCapture

/-- Width and height in pixels, and frames per second. -/
structure Geometry where
  width : UInt32
  height : UInt32
  fps : UInt32
  deriving DecidableEq

namespace Geometry

/-- What the local preview starts with. -/
def previewDefault : Geometry := ⟨176, 144, 30⟩

/-- What a call starts with. -/
def streamDefault : Geometry := ⟨352, 288, 30⟩

def describe (g : Geometry) : String :=
  Text.record "Geometry"
    [("width", toString g.width), ("height", toString g.height), ("fps", toString g.fps)]

end Geometry

end VideoCapture
