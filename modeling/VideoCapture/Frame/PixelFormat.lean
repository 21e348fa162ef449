/-!
# Pixel formats

A capture device names its pixel formats by four characters. Two of them can be turned into planar
frames.
-/

namespace VideoCapture

/-- The four-character code of a pixel format. -/
structure PixelFormat where
  code : String
  deriving DecidableEq

namespace PixelFormat

/-- Planar frames, as they are handed on. -/
def planarCode : PixelFormat := ⟨"YU12"⟩

def packedCode : PixelFormat := ⟨"YUYV"⟩

/-- The formats that can be turned into planar frames, best first. -/
def preferred : List PixelFormat := [planarCode, packedCode]

def isSupported (format : PixelFormat) : Bool := preferred.contains format

end PixelFormat

end VideoCapture
