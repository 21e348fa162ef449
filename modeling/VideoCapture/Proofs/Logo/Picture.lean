import VideoCapture.Proofs.Logo.Uses

/-!
# What a frame of the logo shows

Every frame shows a square on a plain background: its luma on the pixels of the square and on no others,
its chroma on the samples whose pixels meet the square and on no others. The square lies inside the
picture, whatever was opened, closed and read before. A geometry may be too large for any buffer; then
there is no frame.

## Main definitions

* `InSquare`, `MeetsSquare` — the pixels of a square, and the chroma samples that belong to one of them.
* `Shows` — a frame that shows a square.

The main statement is `Logo.frames_exact`.
-/

namespace VideoCapture

/-- The pixel belongs to the square with its corner at column `x` and row `y`. -/
def InSquare (x y side row col : Nat) : Prop := (x ≤ col ∧ col < x + side) ∧ y ≤ row ∧ row < y + side

instance (x y side row col : Nat) : Decidable (InSquare x y side row col) :=
  inferInstanceAs (Decidable (_ ∧ _))

/-- One of the pixels of the chroma sample belongs to the square. A sample has a block of two by two
pixels, as far as these are in the picture. -/
def MeetsSquare (width height x y side row col : Nat) : Prop :=
  ∃ r < height, ∃ c < width, r / 2 = row ∧ c / 2 = col ∧ InSquare x y side r c

instance (width height x y side row col : Nat) :
    Decidable (MeetsSquare width height x y side row col) :=
  inferInstanceAs (Decidable (∃ r < height, ∃ c < width, _))

/-- The frame shows a square with its corner at column `x` and row `y`, and nothing else. -/
structure Shows (width height x y side : Nat) (frame : Array UInt8) : Prop where
  length : frame.size = planarLength width height
  inside : 0 < width → 0 < height → x + side ≤ width ∧ y + side ≤ height
  luma : ∀ row < height, ∀ col < width,
    frame[row * width + col]? = some (if InSquare x y side row col then 210 else 40)
  u : ∀ row < halfUp height, ∀ col < halfUp width,
    frame[width * height + (row * halfUp width + col)]? =
      some (if MeetsSquare width height x y side row col then 170 else 128)
  v : ∀ row < halfUp height, ∀ col < halfUp width,
    frame[width * height + halfUp width * halfUp height + (row * halfUp width + col)]? =
      some (if MeetsSquare width height x y side row col then 90 else 128)

namespace Logo

variable {width height x y side : Nat}

theorem covers_iff {row col : Nat} :
    (covers y side row && covers x side col) = true ↔ InSquare x y side row col := by
  simp only [covers, InSquare, Bool.and_eq_true, decide_eq_true_eq]
  omega

/-- Along one axis, a chroma sample is covered by half exactly if one of its pixels is covered. -/
theorem coversHalf_iff {start extent i : Nat} (hside : 0 < side) (hinside : start + side ≤ extent) :
    coversHalf start side i = true ↔ ∃ p < extent, p / 2 = i ∧ start ≤ p ∧ p < start + side := by
  simp only [coversHalf, Bool.and_eq_true, decide_eq_true_eq]
  unfold halfUp
  constructor
  · intro h
    -- the first of the two pixels, or the second one if the square begins there
    refine ⟨max start (2 * i), ?_, ?_, ?_, ?_⟩ <;> omega
  · rintro ⟨p, -, rfl, hstart, hend⟩
    omega

theorem meets_iff {row col : Nat} (hside : 0 < side) (hx : x + side ≤ width)
    (hy : y + side ≤ height) :
    (coversHalf y side row && coversHalf x side col) = true ↔
      MeetsSquare width height x y side row col := by
  rw [Bool.and_eq_true, coversHalf_iff hside hx, coversHalf_iff hside hy]
  constructor
  · rintro ⟨⟨r, hr, hrow, hr'⟩, c, hc, hcol, hc'⟩
    exact ⟨r, hr, c, hc, hrow, hcol, hc', hr'⟩
  · rintro ⟨r, hr, c, hc, hrow, hcol, hc', hr'⟩
    exact ⟨⟨r, hr, hrow, hr'⟩, c, hc, hcol, hc'⟩

/-- The picture shows the square. -/
theorem shows_draw (hside : 0 < side)
    (hinside : 0 < width → 0 < height → x + side ≤ width ∧ y + side ≤ height) :
    Shows width height x y side (draw width height x y side) where
  length := by simp [draw]
  inside := hinside
  luma row hrow col hcol := by
    rw [draw, getElem?_planar_luma hrow hcol]
    simp only [covers_iff]
    rfl
  u row hrow col hcol := by
    have hwidth : 0 < width := by unfold halfUp at hcol; omega
    have hheight : 0 < height := by unfold halfUp at hrow; omega
    obtain ⟨hx, hy⟩ := hinside hwidth hheight
    rw [draw, getElem?_planar_u hrow hcol]
    simp only [meets_iff hside hx hy]
    rfl
  v row hrow col hcol := by
    have hwidth : 0 < width := by unfold halfUp at hcol; omega
    have hheight : 0 < height := by unfold halfUp at hrow; omega
    obtain ⟨hx, hy⟩ := hinside hwidth hheight
    rw [draw, getElem?_planar_v hrow hcol]
    simp only [meets_iff hside hx hy]
    rfl

theorem side_pos (width height : Nat) : 0 < Logo.side width height := by
  unfold Logo.side
  omega

/-- The square fits into a picture that has pixels. -/
theorem side_le (hwidth : 0 < width) (hheight : 0 < height) :
    Logo.side width height ≤ width ∧ Logo.side width height ≤ height := by
  unfold Logo.side
  omega

/-- After a step the square has its corner somewhere, lies in the picture, and is what the picture is
drawn with. -/
theorem exists_corner (g : Geometry) (l : Logo) :
    ∃ x y : Nat, (l.advance g.width.toNat g.height.toNat).horizontal.position = x ∧
      (l.advance g.width.toNat g.height.toNat).vertical.position = y ∧
      (0 < g.width.toNat → 0 < g.height.toNat →
        x + Logo.side g.width.toNat g.height.toNat ≤ g.width.toNat ∧
          y + Logo.side g.width.toNat g.height.toNat ≤ g.height.toNat) ∧
      ((l.advance g.width.toNat g.height.toNat).picture g).data =
        draw g.width.toNat g.height.toNat x y (Logo.side g.width.toNat g.height.toNat) := by
  obtain ⟨hx0, hx⟩ := Track.step_between (horizontalRoom g) l.horizontal
  obtain ⟨hy0, hy⟩ := Track.step_between (verticalRoom g) l.vertical
  obtain ⟨x, hposition⟩ := Int.eq_ofNat_of_zero_le hx0
  obtain ⟨y, hposition'⟩ := Int.eq_ofNat_of_zero_le hy0
  refine ⟨x, y, hposition, hposition', ?_, ?_⟩
  · intro hwidth hheight
    have hfits := side_le hwidth hheight
    unfold horizontalRoom at hx hposition
    unfold verticalRoom at hy hposition'
    omega
  · have hpicture : (l.advance g.width.toNat g.height.toNat).picture g =
        ⟨g.frameSize, draw g.width.toNat g.height.toNat
          (l.horizontal.step (horizontalRoom g)).position.toNat
          (l.vertical.step (verticalRoom g)).position.toNat
          (Logo.side g.width.toNat g.height.toNat)⟩ := rfl
    rw [hpicture, hposition, hposition']
    rfl

/-- Calls with whatever buffers come to an end before their time only at a read of a picture for which no
buffer has room. Otherwise a read of the device they leave open fails exactly if its picture has no room;
if it has, no range that is painted lies outside the buffer, and the frame that is delivered has the size
the device was opened at last and shows the square where it stands after the step. -/
theorem frames_exact (uses : List Use) :
    (initial.after uses = none ↔ Overlong uses) ∧
      ∀ l, initial.after uses = some l → l.opened = sessionAfter uses ∧
        ∀ g, sessionAfter uses = some g → ∀ buffer,
          (l.readInto buffer = none ↔ roomLimit ≤ g.frameSize.byteLength) ∧
          (g.frameSize.byteLength < roomLimit →
            ∃ (next : Logo) (x y : Nat) (frame : Array UInt8),
              l.readInto buffer = some (⟨.ok g.frameSize, [], next⟩, frame) ∧
              next = l.advance g.width.toNat g.height.toNat ∧
              next.horizontal.position = x ∧ next.vertical.position = y ∧
              frame.size = g.frameSize.byteLength ∧
              Shows g.width.toNat g.height.toNat x y (max (min g.width.toNat g.height.toNat / 4) 1)
                frame) := by
  refine ⟨after_eq_none_iff uses, fun l hafter => ?_⟩
  obtain ⟨hopened, -⟩ := kept_after hafter
  refine ⟨hopened, fun g hsession buffer => ?_⟩
  have hopen : l.opened = some g := hopened.trans hsession
  refine ⟨?_, fun hlength => ?_⟩
  · rw [← Nat.not_lt, ← g.frameSize.fits_iff, readInto_eq, hasRoom_of_opened hopen]
    simp
  · obtain ⟨x, y, hx, hy, hinside, hpicture⟩ := exists_corner g l
    have hread := readInto_of_opened hopen (g.frameSize.fits_iff.mpr hlength) buffer
    rw [hpicture] at hread
    have hshows := shows_draw (side_pos g.width.toNat g.height.toNat) hinside
    exact ⟨_, x, y, _, hread, rfl, hx, hy, hshows.length, hshows⟩

/-- A square geometry whose picture is just too long for any buffer can be opened, and not be read. -/
theorem read_fails_at_long_side :
    let g : Geometry := ⟨3037000500, 3037000500, 30⟩
    let opened := initial.after [.openAt g]
    opened.isSome = true ∧ opened.bind Logo.opened = some g ∧
      opened.bind (fun l => l.readInto #[]) = none ∧
      g.frameSize.byteLength = 13835058055500375000 := by
  decide

end Logo

end VideoCapture
