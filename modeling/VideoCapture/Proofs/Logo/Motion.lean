import VideoCapture.Proofs.Logo.Picture

/-!
# The logo never rests

The moving logo stands in for a camera, and a picture that stands still looks like a camera that hangs. So
no frame of a session repeats the one before it, unless the picture has a single pixel, in which the square
has nowhere to go. That depends on the past: an opening puts the square back and keeps its direction, and
the room on an axis can be shorter than a step.

## Main definitions

* `Logo.Replaces` — the next frame of a session is another one.

The main statement is `Logo.never_rests`. It rests on two facts: after a read the square heads inwards, so
that the next step takes it elsewhere, and a picture shows where its square is (`Shows.corner_unique`).
-/

namespace VideoCapture

namespace Shows

variable {width height x y x' y' side : Nat} {frame : Array UInt8}

/-- A picture with pixels has the corner of its square in it, in the colour of the square. -/
theorem luma_corner (h : Shows width height x y side frame) (hwidth : 0 < width)
    (hheight : 0 < height) (hside : 0 < side) :
    x < width ∧ y < height ∧ frame[y * width + x]? = some 210 := by
  obtain ⟨hright, hbottom⟩ := h.inside hwidth hheight
  have hrow : y < height := by omega
  have hcol : x < width := by omega
  have hcorner : InSquare x y side y x := ⟨by omega, by omega⟩
  refine ⟨hcol, hrow, ?_⟩
  rw [h.luma y hrow x hcol, if_pos hcorner]

/-- The corner of one square lies in every square that the picture shows. -/
theorem inSquare_corner (h : Shows width height x y side frame)
    (h' : Shows width height x' y' side frame) (hwidth : 0 < width) (hheight : 0 < height)
    (hside : 0 < side) : InSquare x' y' side y x := by
  obtain ⟨hcol, hrow, hcorner⟩ := h.luma_corner hwidth hheight hside
  by_contra hout
  have hplain := h'.luma y hrow x hcol
  rw [if_neg hout, hcorner] at hplain
  exact absurd hplain (by decide)

/-- A picture shows where its square is. -/
theorem corner_unique (h : Shows width height x y side frame)
    (h' : Shows width height x' y' side frame) (hwidth : 0 < width) (hheight : 0 < height)
    (hside : 0 < side) : x = x' ∧ y = y' := by
  obtain ⟨⟨hx, -⟩, hy, -⟩ := h.inSquare_corner h' hwidth hheight hside
  obtain ⟨⟨hx', -⟩, hy', -⟩ := h'.inSquare_corner h hwidth hheight hside
  omega

end Shows

namespace Logo

variable {l : Logo} {g : Geometry}

/-- Where there is more than one pixel, there is room on one of the axes. -/
theorem room_pos (hwidth : 0 < g.width.toNat) (hheight : 0 < g.height.toNat)
    (hlarge : ¬(g.width.toNat = 1 ∧ g.height.toNat = 1)) :
    0 < horizontalRoom g ∨ 0 < verticalRoom g := by
  unfold horizontalRoom verticalRoom side
  omega

/-- The square is never at rest. -/
theorem Kept.moves (h : l.Kept) : l.horizontal.velocity ≠ 0 ∧ l.vertical.velocity ≠ 0 := by
  have hspeed := h.horizontalSpeed
  have hspeed' := h.verticalSpeed
  omega

/-- After a step the square heads inwards on both axes. -/
theorem Kept.inward_advance (h : l.Kept) (hopened : l.opened = some g) :
    (l.advance g.width.toNat g.height.toNat).horizontal.Inward (horizontalRoom g) ∧
      (l.advance g.width.toNat g.height.toNat).vertical.Inward (verticalRoom g) := by
  obtain ⟨hhorizontal, hvertical⟩ := h.within g hopened
  obtain ⟨hmoves, hmoves'⟩ := h.moves
  exact ⟨Track.inward_step hhorizontal hmoves, Track.inward_step hvertical hmoves'⟩

/-- A step that is made from the inside changes the picture. -/
theorem picture_advance_ne (hwidth : 0 < g.width.toNat) (hheight : 0 < g.height.toNat)
    (hlarge : ¬(g.width.toNat = 1 ∧ g.height.toNat = 1)) (h : l.Kept) (hopened : l.opened = some g) :
    let first := l.advance g.width.toNat g.height.toNat
    ((first.advance g.width.toNat g.height.toNat).picture g).data ≠ (first.picture g).data := by
  intro first hsame
  have hside := side_pos g.width.toNat g.height.toNat
  obtain ⟨x, y, hx, hy, hinside, hdrawn⟩ := exists_corner g l
  obtain ⟨x', y', hx', hy', hinside', hdrawn'⟩ := exists_corner g first
  have hshows := shows_draw hside hinside
  have hshows' := shows_draw hside hinside'
  rw [← hdrawn] at hshows
  rw [← hdrawn', hsame] at hshows'
  obtain ⟨rfl, rfl⟩ := hshows.corner_unique hshows' hwidth hheight hside
  -- so the square would not have moved, but it moves along the axis with room
  obtain ⟨hhorizontal, hvertical⟩ := h.inward_advance hopened
  obtain ⟨hmoves, hmoves'⟩ := (h.advance hopened).moves
  rcases room_pos hwidth hheight hlarge with hroom | hroom
  · exact hhorizontal.position_step_ne hroom hmoves (hx'.trans hx.symm)
  · exact hvertical.position_step_ne hroom hmoves' (hy'.trans hy.symm)

/-- Whatever is called that has nothing to do with the picture, the next frame of the session is
another one. -/
def Replaces (frame : Array UInt8) (g : Geometry) (l : Logo) : Prop :=
  ∀ between : List Use, (∀ u ∈ between, u.isIdle = true) → ∃ l', l.after between = some l' ∧
    ∀ buffer, ∃ (next : Logo) (newer : Array UInt8),
      l'.readInto buffer = some (⟨.ok g.frameSize, [], next⟩, newer) ∧ newer ≠ frame

theorem Kept.replaces (h : l.Kept) (hopened : l.opened = some g) (hfits : g.frameSize.fits = true)
    (hwidth : 0 < g.width.toNat) (hheight : 0 < g.height.toNat)
    (hlarge : ¬(g.width.toNat = 1 ∧ g.height.toNat = 1)) :
    (l.advance g.width.toNat g.height.toNat).Replaces
      ((l.advance g.width.toNat g.height.toNat).picture g).data g := by
  intro between hidle
  obtain ⟨l', hafter, hopened', hhorizontal, hvertical⟩ :=
    exists_after_of_isIdle hidle (l.advance g.width.toNat g.height.toNat)
  refine ⟨l', hafter, ?_⟩
  intro buffer
  refine ⟨_, _, readInto_of_opened (hopened'.trans hopened) hfits buffer, ?_⟩
  have hmoved := picture_advance_ne hwidth hheight hlarge h hopened
  simpa only [picture, Logo.advance, hhorizontal, hvertical] using hmoved

/-- On any sequence of calls the square keeps its speed on both axes. A device that is open then reads a
frame, if there is room for it, after which the square lies in the picture and heads inwards from every
border with room, and unless the picture has a single pixel, the next frame of the session is another
one. -/
theorem never_rests (uses : List Use) :
    (initial.after uses = none ↔ Overlong uses) ∧
      ∀ l, initial.after uses = some l → l.opened = sessionAfter uses ∧
        l.horizontal.velocity.natAbs = 3 ∧ l.vertical.velocity.natAbs = 2 ∧
        ∀ g, sessionAfter uses = some g → ∀ buffer,
          (g.frameSize.fits = false → l.readInto buffer = none) ∧
          (g.frameSize.fits = true →
            ∃ (next : Logo) (frame : Array UInt8),
              l.readInto buffer = some (⟨.ok g.frameSize, [], next⟩, frame) ∧
              next.horizontal.Inward (horizontalRoom g) ∧ next.vertical.Inward (verticalRoom g) ∧
              (0 < g.width.toNat → 0 < g.height.toNat →
                ¬(g.width.toNat = 1 ∧ g.height.toNat = 1) → next.Replaces frame g)) := by
  refine ⟨after_eq_none_iff uses, fun l hafter => ?_⟩
  obtain ⟨hopened, hkept⟩ := kept_after hafter
  refine ⟨hopened, hkept.horizontalSpeed, hkept.verticalSpeed, ?_⟩
  intro g hsession buffer
  have hopen : l.opened = some g := hopened.trans hsession
  refine ⟨fun hfits => readInto_of_not_fits hopen hfits buffer, fun hfits => ?_⟩
  obtain ⟨hhorizontal, hvertical⟩ := hkept.inward_advance hopen
  refine ⟨_, _, readInto_of_opened hopen hfits buffer, hhorizontal, hvertical, ?_⟩
  intro hwidth hheight hlarge
  exact hkept.replaces hopen hfits hwidth hheight hlarge

end Logo

end VideoCapture
