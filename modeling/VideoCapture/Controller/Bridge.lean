import VideoCapture.Controller.Delivery
import VideoCapture.Settings.Reader

/-!
# From settings to operations

The bridge receives whole settings whenever any of them change, and asks the controller only for what
differs from the settings it applied last.

## Main definitions

* `ConfigBridge.operations` — what has to be asked for.
* `Controller.configure` — settings applied to a controller.
* `Controller.load` — a settings document applied to a controller.
-/

namespace VideoCapture

/-- The settings applied last, if any. -/
structure ConfigBridge where
  applied : Option Settings
  deriving DecidableEq

namespace ConfigBridge

variable {β : Type}

def initial : ConfigBridge := ⟨none⟩

def devicePart (s : Settings) : Descriptor × UInt32 × VideoFormat := (s.device, s.channel, s.format)

/-- The adjustments of `wanted` that differ from those applied last. -/
def adjustmentOperations (before : Option AdjustmentSet) (wanted : AdjustmentSet) :
    List (Operation β) :=
  Adjustment.all.filterMap fun kind =>
    if before.map (fun b => b.get kind) = some (wanted.get kind) then none
    else some (.adjust kind (wanted.get kind))

/-- What has to be asked for when the settings become `s`. -/
def operations (b : ConfigBridge) (s : Settings) : List (Operation β) :=
  let device :=
    if b.applied.map devicePart = some (devicePart s) then []
    else [.setDevice s.device s.channel s.format]
  let preview :=
    if b.applied.map (fun p => p.preview) = some s.preview then [] else [.setPreview s.preview]
  let stream :=
    if b.applied.map (fun p => p.stream) = some s.stream then [] else [.setStream s.stream]
  let adjustments :=
    match s.adjustments with
    | none => []
    | some wanted => adjustmentOperations (b.applied.bind fun p => p.adjustments) wanted
  device ++ preview ++ stream ++ adjustments

end ConfigBridge

namespace Controller

variable {β ω : Type} [Backend β] [Observer β ω]

def configure (s : Settings) (b : ConfigBridge) (c : Controller β ω) :
    ConfigBridge × Controller β ω :=
  (⟨some s⟩, c.performAll (b.operations s))

/-- A settings document applied to a controller; one that cannot be read changes nothing. -/
def load (text : String) (b : ConfigBridge) (c : Controller β ω) :
    Except ReadError (ConfigBridge × Controller β ω) :=
  match Settings.parse text with
  | .ok s => .ok (c.configure s b)
  | .error e => .error e

end Controller

end VideoCapture
