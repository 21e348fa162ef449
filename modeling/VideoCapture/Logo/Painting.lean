import VideoCapture.Frame.Fill
import VideoCapture.Logo

/-!
# Painting the logo

The picture of the moving logo is painted into a buffer: first background and grey, and then the square,
row by row on each plane.

## Main definitions

* `Logo.drawInto` — painting the picture for a position of the square.
* `Logo.readInto` — a picture for a caller's buffer, which may hold anything.
* `Logo.hasRoom` — whether there is room for the picture that is read next.

The main statement is `Logo.readInto_eq`: if there is room for the picture, no range that is painted lies
outside the buffer, and the buffer ends up with the picture, whatever it held.
-/

namespace VideoCapture

/-- A step ends between the borders, wherever it begins. -/
theorem Track.step_between (limit : Nat) (t : Track) :
    0 ≤ (t.step limit).position ∧ (t.step limit).position ≤ limit := by
  unfold step
  grind

namespace Logo

/-- Empties a buffer, whatever it holds, and fills it up with a frame of plain background. It fails where
there is no room for the frame. -/
def plainInto (size : FrameSize) (buffer : Array UInt8) : Option (Array UInt8) := do
  let luma ← room? (← long? (size.width.toNat * size.height.toNat))
  let whole ← size.bufferLength?
  return fit whole Frame.neutralChroma (fit luma backgroundLuma (buffer.shrink 0))

/-- Paints the luma rows of a square from `x` up to `right` and from `y` up to `bottom`. -/
def paintLuma (width x right y bottom : Nat) (buffer : Array UInt8) : Option (Array UInt8) :=
  (List.range' y (bottom - y)).foldlM
    (fun buffer row => paintRow 0 width x right squareLuma row buffer) buffer

/-- Paints the chroma rows of such an area, on the two planes that begin at `bases`. -/
def paintChroma (bases : Nat × Nat) (width x right y bottom : Nat) (buffer : Array UInt8) :
    Option (Array UInt8) :=
  (List.range' y (bottom - y)).foldlM (fun buffer row => do
    let buffer ← paintRow bases.1 (halfUp width) x right squareU row buffer
    paintRow bases.2 (halfUp width) x right squareV row buffer) buffer

/-- Paints the picture with the square's corner at column `x` and row `y` into a buffer, whatever the
buffer holds. Nothing is painted for a corner above or left of the picture. -/
def drawInto (size : FrameSize) (x y : Int) (side : Nat) (buffer : Array UInt8) :
    Option (Array UInt8) := do
  let width := size.width.toNat
  let height := size.height.toNat
  let plain ← plainInto size buffer
  let x ← x.toNat?
  let y ← y.toNat?
  let right := min (x + side) width
  let bottom := min (y + side) height
  let bases ← chromaBases? width height
  let painted ← paintLuma width x right y bottom plain
  paintChroma bases width (x / 2) (min (halfUp right) (halfUp width)) (y / 2)
    (min (halfUp bottom) (halfUp height)) painted

/-- Moves the square and paints its picture into the caller's buffer, and answers what the buffer holds
afterwards. -/
def readInto (buffer : Array UInt8) (l : Logo) :
    Option (Reply Logo (Except CaptureError FrameSize) × Array UInt8) :=
  match l.opened with
  | none => some (⟨.error .notOpen, [], l⟩, buffer)
  | some g => do
    let width := g.width.toNat
    let height := g.height.toNat
    let next := l.advance width height
    let painted ← drawInto g.frameSize next.horizontal.position next.vertical.position
      (side width height) buffer
    return (⟨.ok g.frameSize, [], next⟩, painted)

/-- Whether there is room for the picture that is read next. A device that is not open has none to
paint. -/
def hasRoom (l : Logo) : Bool := l.opened.all fun g => g.frameSize.fits

/-! ## What is painted -/

/-- Samples with an area of one value in them: columns from `x` up to `right` and rows from `y` up to
`bottom`. -/
def withArea (x right y bottom : Nat) (b : UInt8) (f : Nat → Nat → UInt8) (r c : Nat) : UInt8 :=
  if y ≤ r ∧ r < bottom ∧ x ≤ c ∧ c < right then b else f r c

variable {width height x right y bottom : Nat} {b : UInt8} {f luma u v : Nat → Nat → UInt8}

theorem withArea_of_le (h : bottom ≤ y) : withArea x right y bottom b f = f := by
  funext r c
  exact if_neg (by omega)

/-- An area grows by a row. -/
theorem withArea_succ (k r c : Nat) :
    (if r = y + k ∧ x ≤ c ∧ c < right then b else withArea x right y (y + k) b f r c) =
      withArea x right y (y + (k + 1)) b f r c := by
  unfold withArea
  grind

/-- The rows of an area are painted one by one. -/
theorem withArea_rows : withArea x right y (y + (bottom - y)) b f = withArea x right y bottom b f := by
  rcases Nat.le_total y bottom with h | h
  · rw [Nat.add_sub_cancel' h]
  · rw [withArea_of_le h, withArea_of_le (by omega)]

theorem plainInto_eq {size : FrameSize} (h : size.fits = true) (buffer : Array UInt8) :
    plainInto size buffer =
      some (planar size.width.toNat size.height.toNat (fun _ _ => backgroundLuma)
        (fun _ _ => Frame.neutralChroma) (fun _ _ => Frame.neutralChroma)) := by
  have hlength := size.fits_iff.mp h
  unfold FrameSize.byteLength planarLength at hlength
  have hluma : size.width.toNat * size.height.toNat < roomLimit := by omega
  have hlong := long?_of_lt (Nat.lt_trans hluma roomLimit_lt_longLimit)
  simp [plainInto, hlong, room?_of_lt hluma, FrameSize.bufferLength?_of_fits h, FrameSize.byteLength,
    fit, planar, raster_const, planarLength, Nat.two_mul]

theorem plainInto_of_not_fits {size : FrameSize} (h : size.fits = false) (buffer : Array UInt8) :
    plainInto size buffer = none := by
  rw [plainInto, FrameSize.bufferLength?_of_not_fits h]
  cases long? (size.width.toNat * size.height.toNat) <;> simp

theorem paintLuma_eq (hleft : x ≤ right) (hright : right ≤ width) (hbottom : bottom ≤ height) :
    paintLuma width x right y bottom (planar width height luma u v) =
      some (planar width height (withArea x right y bottom squareLuma luma) u v) := by
  have hloop : (List.range' y (bottom - y)).foldlM
      (fun buffer row => paintRow 0 width x right squareLuma row buffer)
      (planar width height (withArea x right y (y + 0) squareLuma luma) u v) =
      some (planar width height (withArea x right y (y + (bottom - y)) squareLuma luma) u v) := by
    apply foldlM_range' fun k =>
      planar width height (withArea x right y (y + k) squareLuma luma) u v
    intro k hk
    rw [paintRow_luma (by omega) hleft hright]
    simp only [withArea_succ]
  rwa [withArea_of_le (by omega), withArea_rows] at hloop

theorem paintChroma_eq (hleft : x ≤ right) (hright : right ≤ halfUp width)
    (hbottom : bottom ≤ halfUp height) :
    paintChroma (width * height, width * height + halfUp width * halfUp height) width x right y bottom
        (planar width height luma u v) =
      some (planar width height luma (withArea x right y bottom squareU u)
        (withArea x right y bottom squareV v)) := by
  have hloop : (List.range' y (bottom - y)).foldlM
      (fun buffer row => do
        let buffer ← paintRow (width * height) (halfUp width) x right squareU row buffer
        paintRow (width * height + halfUp width * halfUp height) (halfUp width) x right squareV row
          buffer)
      (planar width height luma (withArea x right y (y + 0) squareU u)
        (withArea x right y (y + 0) squareV v)) =
      some (planar width height luma (withArea x right y (y + (bottom - y)) squareU u)
        (withArea x right y (y + (bottom - y)) squareV v)) := by
    apply foldlM_range' fun k =>
      planar width height luma (withArea x right y (y + k) squareU u)
        (withArea x right y (y + k) squareV v)
    intro k hk
    rw [paintRow_u (by omega) hleft hright, Option.bind_eq_bind, Option.bind_some,
      paintRow_v (by omega) hleft hright]
    simp only [withArea_succ]
  rw [withArea_of_le (by omega), withArea_of_le (by omega), withArea_rows, withArea_rows] at hloop
  exact hloop

/-- Painting succeeds for a corner that is not right of the picture, if there is room, and leaves the
picture. -/
theorem drawInto_eq {size : FrameSize} (hfits : size.fits = true) (hx : x ≤ size.width.toNat)
    (y side : Nat) (buffer : Array UInt8) :
    drawInto size x y side buffer =
      some (draw size.width.toNat size.height.toNat x y side) := by
  have hindex (n : Nat) : (n : Int).toNat? = some n := rfl
  have hlength : planarLength size.width.toNat size.height.toNat < longLimit :=
    Nat.lt_trans (size.fits_iff.mp hfits) roomLimit_lt_longLimit
  have hright : x ≤ min (x + side) size.width.toNat := by omega
  have hhalf :
      x / 2 ≤ min (halfUp (min (x + side) size.width.toNat)) (halfUp size.width.toNat) := by
    unfold halfUp
    omega
  simp only [drawInto, hindex, Option.bind_eq_bind, Option.bind_some, plainInto_eq hfits,
    chromaBases?_of_lt hlength,
    paintLuma_eq hright (Nat.min_le_right _ _) (Nat.min_le_right (y + side) size.height.toNat),
    paintChroma_eq hhalf (Nat.min_le_right _ _) (Nat.min_le_right _ (halfUp size.height.toNat))]
  apply congrArg some
  apply planar_congr
  · intro r hr c hc
    simp only [withArea, covers]
    grind
  · intro r hr c hc
    simp only [withArea, coversHalf, halfUp] at *
    grind
  · intro r hr c hc
    simp only [withArea, coversHalf, halfUp] at *
    grind

theorem drawInto_of_not_fits {size : FrameSize} (h : size.fits = false) (x y : Int) (side : Nat)
    (buffer : Array UInt8) : drawInto size x y side buffer = none := by
  rw [drawInto, plainInto_of_not_fits h]
  rfl

/-- After a step the corner lies in the picture, so that painting succeeds if there is room. -/
theorem drawInto_advance {g : Geometry} (hfits : g.frameSize.fits = true) (l : Logo)
    (buffer : Array UInt8) :
    let next := l.advance g.width.toNat g.height.toNat
    drawInto g.frameSize next.horizontal.position next.vertical.position
      (side g.width.toNat g.height.toNat) buffer = some (next.picture g).data := by
  intro next
  have hhorizontal : 0 ≤ next.horizontal.position ∧ next.horizontal.position ≤ _ :=
    Track.step_between (g.width.toNat - side g.width.toNat g.height.toNat) l.horizontal
  have hvertical : 0 ≤ next.vertical.position ∧ next.vertical.position ≤ _ :=
    Track.step_between (g.height.toNat - side g.width.toNat g.height.toNat) l.vertical
  obtain ⟨x, hx⟩ := Int.eq_ofNat_of_zero_le hhorizontal.1
  obtain ⟨y, hy⟩ := Int.eq_ofNat_of_zero_le hvertical.1
  rw [picture, hx, hy]
  exact drawInto_eq hfits (show x ≤ g.width.toNat by omega) y _ buffer

/-! ## Reading -/

section Reading

variable {l : Logo} {g : Geometry}

theorem hasRoom_of_opened (h : l.opened = some g) : l.hasRoom = g.frameSize.fits := by
  simp [hasRoom, h]

theorem readInto_of_closed (h : l.opened = none) (buffer : Array UInt8) :
    l.readInto buffer = some (⟨.error .notOpen, [], l⟩, buffer) := by
  rw [readInto, h]

theorem readInto_of_opened (h : l.opened = some g) (hfits : g.frameSize.fits = true)
    (buffer : Array UInt8) :
    l.readInto buffer =
      some (⟨.ok g.frameSize, [], l.advance g.width.toNat g.height.toNat⟩,
        ((l.advance g.width.toNat g.height.toNat).picture g).data) := by
  simp [readInto, h, drawInto_advance hfits]

theorem readInto_of_not_fits (h : l.opened = some g) (hfits : g.frameSize.fits = false)
    (buffer : Array UInt8) : l.readInto buffer = none := by
  simp [readInto, h, drawInto_of_not_fits hfits]

/-- Reading succeeds if there is room for the picture, and leaves the picture, whatever the buffer held. A
device that is not open leaves the buffer alone. -/
theorem readInto_eq (buffer : Array UInt8) (l : Logo) :
    l.readInto buffer =
      if l.hasRoom then
        some (⟨l.read.value.map Frame.size, l.read.signals, l.read.backend⟩,
          match l.read.value with
          | .ok f => f.data
          | .error _ => buffer)
      else none := by
  cases h : l.opened with
  | none => simp [readInto_of_closed h, hasRoom, read, h, Except.map]
  | some g =>
    rw [hasRoom_of_opened h]
    cases hfits : g.frameSize.fits with
    | true => simp [readInto_of_opened h hfits, read, h, Except.map, picture]
    | false => simp [readInto_of_not_fits h hfits]

end Reading

end Logo

end VideoCapture
