import Mathlib.Tactic.Common
import VideoCapture.Frame.Packed

/-!
# Packed frames, byte by byte

Every byte of an unpacked frame has its place in the packed one, or is grey because there is none: its
row is missing or cut short, or it is the chroma beside the last pixel of an odd width. There is no frame
only where a row has more bytes than can be counted or the frame more than a buffer can have.

## Main definitions

* `wholeRows` — how many rows the bytes contain completely.

The main statement is `unpackInto_exact`.
-/

namespace VideoCapture

/-- How many leading rows of a packed frame the bytes contain completely, out of `height`. A row
without pixels has no bytes. -/
def wholeRows (bytes : Array UInt8) (width height : Nat) : Nat :=
  if width = 0 then height else min height (bytes.size / (2 * width))

variable {bytes : Array UInt8} {width height row col : Nat}

theorem hasPackedRow_iff (hrow : row < height) :
    hasPackedRow bytes width row = true ↔ row < wholeRows bytes width height := by
  rw [hasPackedRow, decide_eq_true_eq, wholeRows]
  split_ifs with hwidth
  · simp [hwidth, hrow]
  · have hfits : row + 1 ≤ bytes.size / (2 * width) ↔ (row + 1) * (2 * width) ≤ bytes.size :=
      Nat.le_div_iff_mul_le (by omega)
    rw [← hfits]
    omega

/-- A byte of a row that is there is there. -/
theorem lt_size_of_hasPackedRow (h : hasPackedRow bytes width row = true) {i : Nat}
    (hi : i < 2 * width) : row * (2 * width) + i < bytes.size := by
  have hend : (row + 1) * (2 * width) ≤ bytes.size := by simpa [hasPackedRow] using h
  calc row * (2 * width) + i < (row + 1) * (2 * width) := by rw [Nat.succ_mul row]; omega
    _ ≤ bytes.size := hend

/-! ## Where the samples come from -/

theorem some_packedLuma (hrow : row < height) (hcol : col < width) :
    some (packedLuma bytes width row col) =
      if row < wholeRows bytes width height then bytes[row * (2 * width) + 2 * col]?
      else some 128 := by
  rw [packedLuma, apply_ite some]
  refine ite_congr (propext (hasPackedRow_iff hrow)) (fun hthere => ?_) fun _ => rfl
  have hlt := lt_size_of_hasPackedRow ((hasPackedRow_iff hrow).mpr hthere)
    (show 2 * col < 2 * width by omega)
  simp [hlt]

theorem some_packedChroma {offset : Nat} (hoffset : offset < 4) (hrow : row < halfUp height) :
    some (packedChroma bytes width offset row col) =
      if 2 * row < wholeRows bytes width height ∧ col < width / 2 then
        bytes[2 * row * (2 * width) + 4 * col + offset]?
      else some 128 := by
  have hiff : hasPackedRow bytes width (2 * row) = true ↔ 2 * row < wholeRows bytes width height :=
    hasPackedRow_iff (by unfold halfUp at hrow; omega)
  rw [packedChroma, apply_ite some]
  refine ite_congr (by simp [hiff]) (fun h => ?_) fun _ => rfl
  obtain ⟨hthere, hpair⟩ := h
  have hlt := lt_size_of_hasPackedRow (hiff.mpr hthere)
    (show 4 * col + offset < 2 * width by omega)
  simp [Nat.add_assoc, hlt]

/-- Unpacking fails only if a row has more bytes than can be counted or a buffer has no room for the
frame. Otherwise it accesses no byte that is not there, and every byte of the frame it leaves is named,
whatever the buffer held. -/
theorem unpackInto_exact (bytes : Array UInt8) (width height : Nat) (buffer : Array UInt8) :
    (unpackInto bytes width height buffer = none ↔
      longLimit ≤ 2 * width ∨ roomLimit ≤ planarLength width height) ∧
    ∀ frame, unpackInto bytes width height buffer = some frame →
      frame.size = planarLength width height ∧
      (∀ row < height, (row + 1) * (2 * width) < longLimit) ∧
      (∀ row < height, ∀ col < width,
        frame[row * width + col]? =
          if row < wholeRows bytes width height then bytes[row * (2 * width) + 2 * col]?
          else some 128) ∧
      (∀ row < halfUp height, ∀ col < halfUp width,
        frame[width * height + (row * halfUp width + col)]? =
          if 2 * row < wholeRows bytes width height ∧ col < width / 2 then
            bytes[2 * row * (2 * width) + 4 * col + 1]?
          else some 128) ∧
      ∀ row < halfUp height, ∀ col < halfUp width,
        frame[width * height + halfUp width * halfUp height + (row * halfUp width + col)]? =
          if 2 * row < wholeRows bytes width height ∧ col < width / 2 then
            bytes[2 * row * (2 * width) + 4 * col + 3]?
          else some 128 := by
  rw [unpackInto_eq]
  split
  · rename_i hroom
    refine ⟨⟨fun hnone => (Option.some_ne_none _ hnone).elim, fun hlong => by omega⟩,
      fun frame hframe => ?_⟩
    obtain rfl : planarOfPacked bytes width height = frame := Option.some.inj hframe
    refine ⟨size_planarOfPacked .., fun row hrow => packedEnd_lt hroom.2 hrow,
      fun row hrow col hcol => ?_, fun row hrow col hcol => ?_, fun row hrow col hcol => ?_⟩
    · rw [planarOfPacked, getElem?_planar_luma hrow hcol, some_packedLuma hrow hcol]
    · rw [planarOfPacked, getElem?_planar_u hrow hcol, some_packedChroma (by omega) hrow]
    · rw [planarOfPacked, getElem?_planar_v hrow hcol, some_packedChroma (by omega) hrow]
  · rename_i hlong
    exact ⟨⟨fun _ => by omega, fun _ => rfl⟩, fun _ hframe => (Option.some_ne_none _ hframe.symm).elim⟩

/-- There is no buffer for the largest frame whose sides are numbers of 32 bits. -/
theorem unpackInto_largest :
    unpackInto #[] 4294967295 4294967295 #[] = none ∧
      planarLength 4294967295 4294967295 = 27670116101974392833 := by
  decide

end VideoCapture
