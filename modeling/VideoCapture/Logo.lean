import VideoCapture.Backend

/-!
# The moving logo

A synthetic device that is always there, always opens and never fails to deliver while it is open.
Its picture is a square that moves over a plain background and bounces off the borders.

## Main definitions

* `Track` — position and velocity of the square along one axis.
* `Logo` — the device.
* `Logo.draw` — the picture for a position of the square.
-/

namespace VideoCapture

/-- Position and velocity along one axis. -/
structure Track where
  position : Int
  velocity : Int
  deriving DecidableEq

namespace Track

/-- One step: a track that reaches a border stops there and turns around. -/
def step (limit : Int) (t : Track) : Track :=
  let next := t.position + t.velocity
  if next ≤ 0 ∨ limit ≤ next then ⟨max 0 (min limit next), -t.velocity⟩
  else ⟨next, t.velocity⟩

end Track

/-- The synthetic device. -/
structure Logo where
  selected : Bool
  opened : Option Geometry
  horizontal : Track
  vertical : Track
  deriving DecidableEq

namespace Logo

def initial : Logo := ⟨false, none, ⟨0, 3⟩, ⟨0, 2⟩⟩

def backgroundLuma : UInt8 := 40

def squareLuma : UInt8 := 210

def squareU : UInt8 := 170

def squareV : UInt8 := 90

/-- The side of the square: a quarter of the shorter side of the picture, at least one pixel. -/
def side (width height : Nat) : Nat := max (min width height / 4) 1

/-- Whether pixel `i` along an axis is covered by the square that starts at `start`. -/
def covers (start side i : Nat) : Bool := start ≤ i && i < start + side

/-- Whether chroma sample `i` along an axis belongs to a pixel covered by that square. -/
def coversHalf (start side i : Nat) : Bool := start / 2 ≤ i && i < halfUp (start + side)

/-- The picture with the square's corner at column `x` and row `y`. -/
def draw (width height x y side : Nat) : Array UInt8 :=
  let chroma (value : UInt8) (row col : Nat) : UInt8 :=
    if coversHalf y side row && coversHalf x side col then value else Frame.neutralChroma
  planar width height
    (fun row col =>
      if covers y side row && covers x side col then squareLuma else backgroundLuma)
    (chroma squareU) (chroma squareV)

/-- The device after one step of the square in a picture of the given size. -/
def advance (width height : Nat) (l : Logo) : Logo :=
  let side := Logo.side width height
  { l with
    horizontal := l.horizontal.step (width - side : Nat)
    vertical := l.vertical.step (height - side : Nat) }

/-- The picture of the device as it stands. -/
def picture (g : Geometry) (l : Logo) : Frame where
  size := g.frameSize
  data :=
    draw g.width.toNat g.height.toNat l.horizontal.position.toNat l.vertical.position.toNat
      (side g.width.toNat g.height.toNat)

/-- Opening puts the square back into the corner; it keeps its direction. -/
def openAt (g : Geometry) (l : Logo) : Logo :=
  { l with
    opened := some g
    horizontal := { l.horizontal with position := 0 }
    vertical := { l.vertical with position := 0 } }

/-- Reading moves the square and delivers its picture. -/
def read (l : Logo) : Reply Logo (Except CaptureError Frame) :=
  match l.opened with
  | none => ⟨.error .notOpen, [], l⟩
  | some g =>
    let next := l.advance g.width.toNat g.height.toNat
    ⟨.ok (next.picture g), [], next⟩

instance : Backend Logo where
  framework _ := Descriptor.fallbackName
  devices l := ⟨.ok [Descriptor.fallback], [], l⟩
  select device _ _ l := ⟨device.isFallback, [], { l with selected := device.isFallback }⟩
  openAt g l :=
    ⟨.ok AdjustmentSet.neutral,
      [.opened Descriptor.fallback ⟨g, AdjustmentSet.neutral, false⟩], l.openAt g⟩
  close l :=
    ⟨(), if l.opened.isSome then [.closed Descriptor.fallback] else [], { l with opened := none }⟩
  read := read
  adjust _ _ l := ⟨.ok (), [], l⟩
  resolve _ _ _ _ := none

def describe (l : Logo) : String :=
  Text.record "MovingLogoBackend"
    [("selected", Text.boolean l.selected), ("opened", Text.optional Geometry.describe l.opened),
      ("position", Text.tuple [toString l.horizontal.position, toString l.vertical.position])]

end Logo

end VideoCapture
