import VideoCapture.Frame.Planes

/-!
# Filling ranges

A picture of few colours is painted range by range: a row of an area is a range of bytes that all
become the same. A range that does not lie in the buffer cannot be filled.

## Main definitions

* `fit` — a buffer cut off or filled up to a length.
* `fillRange` — filling a range, `paintRow` — filling a part of a row of a plane.

The main statements are `paintRow_luma`, `paintRow_u` and `paintRow_v`: painting a row of one plane of
a frame leaves everything else alone.
-/

namespace VideoCapture

/-- A buffer cut off at `n` bytes, or filled up to them with `b`. -/
def fit (n : Nat) (b : UInt8) (buffer : Array UInt8) : Array UInt8 :=
  buffer.extract 0 n ++ Array.replicate (n - buffer.size) b

/-- Sets the bytes from `start` up to `stop`, which is not one of them, to `b`. There is no such range
where it fails. -/
def fillRange (start stop : Nat) (b : UInt8) (buffer : Array UInt8) : Option (Array UInt8) :=
  if start ≤ stop ∧ stop ≤ buffer.size then
    (List.range' start (stop - start)).foldlM (fun buffer i => put buffer i b) buffer
  else none

/-- Sets the samples of a row from column `left` up to `right`, in the plane of the given width that
begins at `base`. -/
def paintRow (base width left right : Nat) (b : UInt8) (row : Nat) (buffer : Array UInt8) :
    Option (Array UInt8) :=
  fillRange (base + row * width + left) (base + row * width + right) b buffer

/-! ## What is filled -/

/-- A loop that goes through a sequence of states ends in the last of them. -/
theorem foldlM_range' {σ : Type} {step : σ → Nat → Option σ} {start count : Nat} (state : Nat → σ)
    (hstep : ∀ k < count, step (state k) (start + k) = some (state (k + 1))) :
    (List.range' start count).foldlM step (state 0) = some (state count) := by
  induction count with
  | zero => rfl
  | succ count ih =>
    have hbefore := ih fun k hk => hstep k (by omega)
    rw [List.range'_concat, List.foldlM_append, hbefore]
    simpa using hstep count (Nat.lt_succ_self count)

/-- The bytes with those from `start` up to `stop` set to `b`. -/
def filled (start stop : Nat) (b : UInt8) (buffer : Array UInt8) : Array UInt8 :=
  buffer.mapIdx fun i old => if start ≤ i ∧ i < stop then b else old

theorem put_filled {start k : Nat} (b : UInt8) (buffer : Array UInt8)
    (hk : start + k < buffer.size) :
    put (filled start (start + k) b buffer) (start + k) b =
      some (filled start (start + (k + 1)) b buffer) := by
  have hlt : start + k < (filled start (start + k) b buffer).size := by simpa [filled] using hk
  rw [put, dif_pos hlt]
  apply congrArg some
  apply Array.ext
  · simp [filled]
  · intro i _ _
    simp only [filled, Array.getElem_set, Array.getElem_mapIdx]
    grind

theorem fillRange_eq {start stop : Nat} {b : UInt8} {buffer : Array UInt8} (hstart : start ≤ stop)
    (hstop : stop ≤ buffer.size) :
    fillRange start stop b buffer = some (filled start stop b buffer) := by
  have hempty : filled start (start + 0) b buffer = buffer := by
    apply Array.ext
    · simp [filled]
    · intro i _ _
      simp only [filled, Array.getElem_mapIdx]
      grind
  have hloop : (List.range' start (stop - start)).foldlM (fun buffer i => put buffer i b)
      (filled start (start + 0) b buffer) = some (filled start (start + (stop - start)) b buffer) :=
    foldlM_range' (fun k => filled start (start + k) b buffer) fun k hk =>
      put_filled b buffer (by omega)
  rw [hempty, Nat.add_sub_cancel' hstart] at hloop
  rw [fillRange, if_pos ⟨hstart, hstop⟩, hloop]

/-! ## Rows of a frame -/

variable {width height row left right : Nat} {b : UInt8} {luma u v : Nat → Nat → UInt8}

/-- A part of a row is a range. -/
theorem mem_row_iff {r c : Nat} (hright : right ≤ width) (hc : c < width) :
    row * width + left ≤ r * width + c ∧ r * width + c < row * width + right ↔
      r = row ∧ left ≤ c ∧ c < right := by
  constructor
  · intro h
    have hrow : r = row := by
      rcases Nat.lt_trichotomy r row with hlt | heq | hgt
      · have hrows : (r + 1) * width ≤ row * width := Nat.mul_le_mul_right width hlt
        rw [Nat.succ_mul] at hrows
        omega
      · exact heq
      · have hrows : (row + 1) * width ≤ r * width := Nat.mul_le_mul_right width hgt
        rw [Nat.succ_mul] at hrows
        omega
    subst hrow
    omega
  · rintro ⟨rfl, hleft, hlt⟩
    omega

theorem mapIdx_raster (g : Nat → UInt8 → UInt8) (f : Nat → Nat → UInt8) :
    (raster width height f).mapIdx g =
      raster width height fun r c => g (r * width + c) (f r c) := by
  apply Array.ext
  · simp
  · intro i hi _
    simp [raster, Nat.div_add_mod']

/-- What becomes of a frame when a range is filled. -/
theorem filled_planar (start stop : Nat) :
    filled start stop b (planar width height luma u v) =
      planar width height
        (fun r c => if start ≤ r * width + c ∧ r * width + c < stop then b else luma r c)
        (fun r c =>
          if start ≤ width * height + (r * halfUp width + c) ∧
            width * height + (r * halfUp width + c) < stop then b else u r c)
        (fun r c =>
          if start ≤ width * height + halfUp width * halfUp height + (r * halfUp width + c) ∧
            width * height + halfUp width * halfUp height + (r * halfUp width + c) < stop then b
          else v r c) := by
  simp only [filled, planar, Array.mapIdx_append, mapIdx_raster, size_raster, Array.size_append]
  simp only [Nat.add_comm]

theorem planar_congr {luma' u' v' : Nat → Nat → UInt8}
    (hluma : ∀ r < height, ∀ c < width, luma r c = luma' r c)
    (hu : ∀ r < halfUp height, ∀ c < halfUp width, u r c = u' r c)
    (hv : ∀ r < halfUp height, ∀ c < halfUp width, v r c = v' r c) :
    planar width height luma u v = planar width height luma' u' v' := by
  rw [planar, raster_congr hluma, raster_congr hu, raster_congr hv, planar]

/-- A row of a plane ends where the plane ends, at the latest. -/
theorem row_end_le (hrow : row < height) (hright : right ≤ width) :
    row * width + right ≤ width * height := by
  calc row * width + right ≤ (row + 1) * width := by rw [Nat.succ_mul]; omega
    _ ≤ height * width := Nat.mul_le_mul_right width hrow
    _ = width * height := Nat.mul_comm _ _

/-- A row of the luma plane is painted. -/
theorem paintRow_luma (hrow : row < height) (hleft : left ≤ right) (hright : right ≤ width) :
    paintRow 0 width left right b row (planar width height luma u v) =
      some (planar width height
        (fun r c => if r = row ∧ left ≤ c ∧ c < right then b else luma r c) u v) := by
  have hend := row_end_le hrow hright
  have hsize : (planar width height luma u v).size = _ := size_planar ..
  unfold planarLength at hsize
  rw [paintRow, Nat.zero_add, fillRange_eq (by omega) (by omega), filled_planar]
  apply congrArg some
  apply planar_congr
  · intro r _ c hc
    simp only [mem_row_iff hright hc]
  · intro r _ c _
    rw [if_neg (by omega)]
  · intro r _ c _
    rw [if_neg (by omega)]

/-- A row of the first chroma plane is painted. -/
theorem paintRow_u (hrow : row < halfUp height) (hleft : left ≤ right) (hright : right ≤ halfUp width) :
    paintRow (width * height) (halfUp width) left right b row (planar width height luma u v) =
      some (planar width height luma
        (fun r c => if r = row ∧ left ≤ c ∧ c < right then b else u r c) v) := by
  have hend := row_end_le hrow hright
  have hsize : (planar width height luma u v).size = _ := size_planar ..
  unfold planarLength at hsize
  rw [paintRow, fillRange_eq (by omega) (by omega), filled_planar]
  apply congrArg some
  apply planar_congr
  · intro r hr c hc
    have hlt := row_mul_add_lt hr hc
    rw [if_neg (by omega)]
  · intro r _ c hc
    simp only [Nat.add_assoc, Nat.add_le_add_iff_left, Nat.add_lt_add_iff_left, mem_row_iff hright hc]
  · intro r _ c _
    rw [if_neg (by omega)]

/-- A row of the second chroma plane is painted. -/
theorem paintRow_v (hrow : row < halfUp height) (hleft : left ≤ right) (hright : right ≤ halfUp width) :
    paintRow (width * height + halfUp width * halfUp height) (halfUp width) left right b row
        (planar width height luma u v) =
      some (planar width height luma u
        (fun r c => if r = row ∧ left ≤ c ∧ c < right then b else v r c)) := by
  have hend := row_end_le hrow hright
  have hsize : (planar width height luma u v).size = _ := size_planar ..
  unfold planarLength at hsize
  rw [paintRow, fillRange_eq (by omega) (by omega), filled_planar]
  apply congrArg some
  apply planar_congr
  · intro r hr c hc
    have hlt := row_mul_add_lt hr hc
    rw [if_neg (by omega)]
  · intro r hr c hc
    have hlt := row_mul_add_lt hr hc
    rw [if_neg (by omega)]
  · intro r _ c hc
    simp only [Nat.add_assoc, Nat.add_le_add_iff_left, Nat.add_lt_add_iff_left, mem_row_iff hright hc]

end VideoCapture
