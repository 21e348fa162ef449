import VideoCapture.Geometry

/-!
# Planar frames

A frame holds a luma plane at full resolution and then two chroma planes at half resolution, rounded
up in both directions.

## Main definitions

* `planarLength` — the number of bytes of such a frame.
* `raster` — the plane whose sample at each row and column is given by a function.
* `planar` — the three planes of a frame, each given by such a function.
* `Frame.blank` — the black frame.
-/

namespace VideoCapture

/-- Half of `n`, rounded up: the extent of a chroma plane beside a luma extent of `n`. -/
def halfUp (n : Nat) : Nat := (n + 1) / 2

/-- The number of bytes of a planar frame of the given size. -/
def planarLength (width height : Nat) : Nat :=
  width * height + 2 * (halfUp width * halfUp height)

/-- Dimensions of a delivered frame. -/
structure FrameSize where
  width : UInt32
  height : UInt32
  deriving DecidableEq

namespace FrameSize

/-- How many bytes a planar frame of this size has. Not every size has a frame in memory; see
`FrameSize.fits`. -/
def byteLength (size : FrameSize) : Nat := planarLength size.width.toNat size.height.toNat

end FrameSize

namespace Geometry

def frameSize (g : Geometry) : FrameSize := ⟨g.width, g.height⟩

end Geometry

/-- The plane of `width` by `height` samples that `sample row column` describes, row by row. -/
def raster (width height : Nat) (sample : Nat → Nat → UInt8) : Array UInt8 :=
  Array.ofFn fun i : Fin (width * height) => sample (i.val / width) (i.val % width)

/-- The planar frame with the given luma and chroma samples. -/
def planar (width height : Nat) (luma u v : Nat → Nat → UInt8) : Array UInt8 :=
  raster width height luma ++ raster (halfUp width) (halfUp height) u
    ++ raster (halfUp width) (halfUp height) v

@[simp] theorem size_raster (width height : Nat) (sample : Nat → Nat → UInt8) :
    (raster width height sample).size = width * height := by
  simp [raster]

@[simp] theorem size_planar (width height : Nat) (luma u v : Nat → Nat → UInt8) :
    (planar width height luma u v).size = planarLength width height := by
  simp [planar, planarLength]
  omega

/-- A frame as it is handed to the display: luma, then the two chroma planes. -/
structure Frame where
  size : FrameSize
  data : Array UInt8
  deriving DecidableEq

namespace Frame

def blackLuma : UInt8 := 16

def neutralChroma : UInt8 := 128

def blank (g : Geometry) : Frame where
  size := g.frameSize
  data := planar g.width.toNat g.height.toNat (fun _ _ => blackLuma) (fun _ _ => neutralChroma)
    (fun _ _ => neutralChroma)

/-- The frame of a size whose bytes are all `value`. -/
def uniform (size : FrameSize) (value : UInt8) : Frame where
  size := size
  data := Array.replicate size.byteLength value

end Frame

end VideoCapture
