import VideoCapture.Geometry
import VideoCapture.Text.Record

/-!
# Building a controller

What is chosen before a controller exists: the geometries it starts with, the pause between preview
pulls, and the backends besides the synthetic device.
-/

namespace VideoCapture

/-- The pause between two preview pulls, in milliseconds, when nothing is chosen. -/
def defaultInterval : Nat := 5

/-- The choices for a controller over backends of type `β`. -/
structure ControllerBuilder (β : Type) where
  preview : Geometry
  stream : Geometry
  /-- The pause between two preview pulls, in milliseconds. -/
  interval : Nat
  /-- The backends behind the synthetic device, in order. -/
  backends : List β

namespace ControllerBuilder

variable {β : Type}

/-- The choices in force when nothing is chosen. -/
def default : ControllerBuilder β :=
  ⟨Geometry.previewDefault, Geometry.streamDefault, defaultInterval, []⟩

def describe (b : ControllerBuilder β) : String :=
  Text.record "ControllerBuilder"
    [("preview", b.preview.describe), ("stream", b.stream.describe),
      ("interval", Text.duration b.interval), ("backends", toString b.backends.length)]

end ControllerBuilder

end VideoCapture
