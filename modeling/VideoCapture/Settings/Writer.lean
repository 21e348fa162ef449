import VideoCapture.Settings
import VideoCapture.Json.Printer

/-!
# Writing settings

Settings as a JSON document with every field present, in the order of their declaration.
-/

namespace VideoCapture

open Json

/-- A record whose fields are all present. -/
def jsonRecord (fields : List (String × Value)) : Value :=
  .record (fields.map fun f => (some f.1, f.2)) .closed

def jsonWord (n : UInt32) : Value := .numeral (Numeral.ofNat n.toNat)

def Descriptor.toJson (d : Descriptor) : Value :=
  jsonRecord
    [("framework", .text (some d.framework)), ("source", .text (some d.source)),
      ("name", .text (some d.name))]

def Geometry.toJson (g : Geometry) : Value :=
  jsonRecord [("width", jsonWord g.width), ("height", jsonWord g.height), ("fps", jsonWord g.fps)]

def AdjustmentSet.toJson (s : AdjustmentSet) : Value :=
  jsonRecord
    [("colour", jsonWord s.colour), ("brightness", jsonWord s.brightness),
      ("whiteness", jsonWord s.whiteness), ("contrast", jsonWord s.contrast)]

namespace Settings

def toJson (s : Settings) : Value :=
  jsonRecord
    [("device", s.device.toJson), ("channel", jsonWord s.channel),
      ("format", .text (some s.format.key)), ("preview", s.preview.toJson),
      ("stream", s.stream.toJson),
      ("adjustments", s.adjustments.elim .null AdjustmentSet.toJson)]

def render (s : Settings) : String := String.ofList (s.toJson.pretty 0)

end Settings

end VideoCapture
