import VideoCapture.Controller.Delivery
import VideoCapture.Hotplug.Hub

/-!
# The controller as a hot-plug listener

A controller that listens to a hot-plug hub takes video events as devices that come and go; it does
not care for audio events.
-/

namespace VideoCapture

namespace Controller

variable {β ω : Type}

/-- What a hot-plug event asks of the controller. -/
def hotplugOperation? (notice : Hotplug.Notice) : Option (Operation β) :=
  match notice.event.deviceClass with
  | .audio => none
  | .video =>
    let e := notice.event
    if notice.added then some (.addDevice e.framework e.name e.capabilities)
    else some (.removeDevice e.framework e.name e.capabilities)

def hear [Backend β] [Observer β ω] (notice : Hotplug.Notice) (c : Controller β ω) :
    Controller β ω :=
  match hotplugOperation? notice with
  | none => c
  | some op => (c.perform op).2

end Controller

instance {β ω : Type} [Backend β] [Observer β ω] : Hotplug.Listener (Controller β ω) where
  hear notice _ c := (c.hear notice, [])

end VideoCapture
