import Mathlib.Tactic.Common
import VideoCapture.Frame.Resize

/-!
# Resized frames, plane by plane

Every sample of a resized frame comes from the same plane of the source, from the place that has the
same relative position, rounded towards the first row and column. This is so for every pair of sizes
between which a frame is `Resizable`; a frame that keeps its size stays what it is, and one that is empty
or cut short turns grey.

## Main definitions

* `Planes.ofFrame` — the three planes of a frame at the beginning of some bytes.
* `Resampled` — a plane whose samples all come from their places in another one.

The main statement is `resizeInto_exact`.
-/

namespace VideoCapture

/-- The planes of a frame of `width` by `height` pixels at the beginning of some bytes. -/
def Planes.ofFrame (bytes : Array UInt8) (width height : Nat) : Planes :=
  let luma := width * height
  let chroma := halfUp width * halfUp height
  ⟨bytes.extract 0 luma, bytes.extract luma (luma + chroma),
    bytes.extract (luma + chroma) (luma + chroma + chroma)⟩

/-- The plane `target` of `dw` by `dh` samples takes every sample from its place in the plane `source`
of `sw` by `sh` samples, and `source` has that place. -/
def Resampled (source : Array UInt8) (sw sh : Nat) (target : Array UInt8) (dw dh : Nat) : Prop :=
  ∀ row < dh, ∀ col < dw, row * sh / dh < sh ∧ col * sw / dw < sw ∧
    ∃ sample, source[row * sh / dh * sw + col * sw / dw]? = some sample ∧
      target[row * dw + col]? = some sample

variable {bytes : Array UInt8} {base width height sw sh dw dh : Nat}

theorem Planes.ofFrame_planar (luma u v : Nat → Nat → UInt8) :
    Planes.ofFrame (planar width height luma u v) width height =
      ⟨raster width height luma, raster (halfUp width) (halfUp height) u,
        raster (halfUp width) (halfUp height) v⟩ := by
  unfold Planes.ofFrame planar
  simp [Array.extract_append, Array.extract_empty_of_size_le_start]
  omega

/-- The nearest samples make up a resampled plane. -/
theorem resampled_nearestSample (hsw : 0 < sw) (hsh : 0 < sh)
    (hend : base + sw * sh ≤ bytes.size) :
    Resampled (bytes.extract base (base + sw * sh)) sw sh
      (raster dw dh (nearestSample bytes base sw sh dw dh)) dw dh := by
  intro row hrow col hcol
  have hplace := nearest_lt hsw hsh hrow hcol
  have hrow' : row * sh / dh < sh := by
    apply Nat.div_lt_of_lt_mul
    exact Nat.mul_lt_mul_of_pos_right hrow hsh
  have hcol' : col * sw / dw < sw := by
    apply Nat.div_lt_of_lt_mul
    exact Nat.mul_lt_mul_of_pos_right hcol hsw
  refine ⟨hrow', hcol', nearestSample bytes base sw sh dw dh row col, ?_, getElem?_raster hrow hcol⟩
  exact getElem?_extract_of_lt bytes (by omega) hend

theorem resizePlanar_of_enough (hsw : 0 < sw) (hsh : 0 < sh)
    (henough : planarLength sw sh ≤ bytes.size) :
    resizePlanar bytes sw sh dw dh =
      planar dw dh (nearestSample bytes 0 sw sh dw dh)
        (nearestSample bytes (sw * sh) (halfUp sw) (halfUp sh) (halfUp dw) (halfUp dh))
        (nearestSample bytes (sw * sh + halfUp sw * halfUp sh) (halfUp sw) (halfUp sh) (halfUp dw)
          (halfUp dh)) :=
  if_neg (by omega)

/-- At its own size a plane stays what it is. -/
theorem raster_nearestSample_self (hend : base + sw * sh ≤ bytes.size) :
    raster sw sh (nearestSample bytes base sw sh sw sh) =
      bytes.extract base (base + sw * sh) := by
  apply Array.ext
  · simp
    omega
  · intro i hi _
    rw [size_raster] at hi
    have hsw : 0 < sw := Nat.pos_of_mul_pos_right (Nat.zero_lt_of_lt hi)
    have hsh : 0 < sh := Nat.pos_of_mul_pos_left (Nat.zero_lt_of_lt hi)
    have hplace : i / sw * sw + i % sw = i := Nat.div_add_mod' i sw
    have hlt : base + i < bytes.size := by omega
    simp [raster, nearestSample, Nat.mul_div_cancel _ hsw, Nat.mul_div_cancel _ hsh, hplace, hlt]

/-- At its own size a frame that is there stays what it is. -/
theorem resizePlanar_self (hsw : 0 < sw) (hsh : 0 < sh) (henough : planarLength sw sh ≤ bytes.size) :
    resizePlanar bytes sw sh sw sh = bytes.extract 0 (planarLength sw sh) := by
  have hlength : planarLength sw sh =
      sw * sh + halfUp sw * halfUp sh + halfUp sw * halfUp sh := by unfold planarLength; omega
  have hluma : raster sw sh (nearestSample bytes 0 sw sh sw sh) = bytes.extract 0 (0 + sw * sh) :=
    raster_nearestSample_self (by omega)
  rw [resizePlanar_of_enough hsw hsh henough, planar, hluma, raster_nearestSample_self (by omega),
    raster_nearestSample_self (by omega), hlength]
  simp

/-- A resized frame that is there is resampled on each plane by itself, and stays what it is at its own
size. -/
theorem resampled_resizePlanar (dw dh : Nat) (hsw : 0 < sw) (hsh : 0 < sh)
    (henough : planarLength sw sh ≤ bytes.size) :
    let source := Planes.ofFrame bytes sw sh
    let target := Planes.ofFrame (resizePlanar bytes sw sh dw dh) dw dh
    Resampled source.luma sw sh target.luma dw dh ∧
      Resampled source.u (halfUp sw) (halfUp sh) target.u (halfUp dw) (halfUp dh) ∧
      Resampled source.v (halfUp sw) (halfUp sh) target.v (halfUp dw) (halfUp dh) := by
  have hcw : 0 < halfUp sw := by unfold halfUp; omega
  have hch : 0 < halfUp sh := by unfold halfUp; omega
  have hend : sw * sh + halfUp sw * halfUp sh + halfUp sw * halfUp sh ≤ bytes.size := by
    unfold planarLength at henough
    omega
  rw [resizePlanar_of_enough hsw hsh henough, Planes.ofFrame_planar]
  refine ⟨?_, ?_, ?_⟩
  · have hluma : Resampled (bytes.extract 0 (0 + sw * sh)) sw sh
        (raster dw dh (nearestSample bytes 0 sw sh dw dh)) dw dh :=
      resampled_nearestSample hsw hsh (by omega)
    rwa [Nat.zero_add] at hluma
  · exact resampled_nearestSample hcw hch (by omega)
  · exact resampled_nearestSample hcw hch hend

/-- Resizing fails only if a number on the way is too long. Otherwise it accesses no byte that is not
there, divides by no zero, and leaves a frame of the wanted length, whatever the buffer held. A frame that
is there is resampled on each plane by itself, and stays what it is at its own size; without one everything
is grey. -/
theorem resizeInto_exact (bytes : Array UInt8) (sw sh : Nat) (buffer : Array UInt8) (dw dh : Nat) :
    (resizeInto bytes sw sh buffer dw dh = none ↔ ¬ Resizable bytes.size sw sh dw dh) ∧
    ∀ frame, resizeInto bytes sw sh buffer dw dh = some frame →
      frame.size = planarLength dw dh ∧
      (0 < sw ∧ 0 < sh ∧ planarLength sw sh ≤ bytes.size →
        let source := Planes.ofFrame bytes sw sh
        let target := Planes.ofFrame frame dw dh
        Resampled source.luma sw sh target.luma dw dh ∧
          Resampled source.u (halfUp sw) (halfUp sh) target.u (halfUp dw) (halfUp dh) ∧
          Resampled source.v (halfUp sw) (halfUp sh) target.v (halfUp dw) (halfUp dh) ∧
          (dw = sw ∧ dh = sh → frame = bytes.extract 0 (planarLength sw sh))) ∧
      (¬ (0 < sw ∧ 0 < sh ∧ planarLength sw sh ≤ bytes.size) →
        frame = Array.replicate (planarLength dw dh) 128) := by
  by_cases hfits : Resizable bytes.size sw sh dw dh
  · rw [resizeInto_eq hfits]
    refine ⟨⟨fun hnone => (Option.some_ne_none _ hnone).elim, fun hlong => absurd hfits hlong⟩,
      fun frame hframe => ?_⟩
    obtain rfl : resizePlanar bytes sw sh dw dh = frame := Option.some.inj hframe
    refine ⟨size_resizePlanar .., ?_, fun hmissing => ?_⟩
    · rintro ⟨hsw, hsh, henough⟩
      obtain ⟨hluma, hu, hv⟩ := resampled_resizePlanar dw dh hsw hsh henough
      refine ⟨hluma, hu, hv, ?_⟩
      rintro ⟨rfl, rfl⟩
      exact resizePlanar_self hsw hsh henough
    · rw [resizePlanar, if_pos (by omega)]
      rfl
  · rw [resizeInto_eq_none hfits]
    exact ⟨⟨fun _ => hfits, fun _ => rfl⟩, fun _ hframe => (Option.some_ne_none _ hframe.symm).elim⟩

/-- Not even a single pixel can be taken from the largest frame whose sides are numbers of 32 bits: its
length cannot be computed. -/
theorem resizeInto_largest :
    resizeInto #[] 4294967295 4294967295 #[] 1 1 = none ∧
      ¬ planarLength 4294967295 4294967295 ≤ (#[] : Array UInt8).size := by
  decide

end VideoCapture
