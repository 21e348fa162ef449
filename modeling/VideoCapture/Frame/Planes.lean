import VideoCapture.Frame.Length

/-!
# Planes in memory

A planar frame is written in place: a buffer is emptied and filled up with grey, cut into its planes,
and then samples are written one by one. Every access is checked, and fails where there is no byte.

## Main definitions

* `put` — writing one byte.
* `greyFrame?` — an old buffer as a grey frame, if a buffer can hold it.
* `Planes` — the three planes of a frame, each by itself.
* `fillRow` — writing samples into a row of a plane.

What a loop comes to is said by the `raster` that it leaves behind.
-/

namespace VideoCapture

/-- Writes a byte at a position; there is none where it fails. -/
def put (plane : Array UInt8) (i : Nat) (b : UInt8) : Option (Array UInt8) :=
  if h : i < plane.size then some (plane.set i b h) else none

/-- The first `n` bytes; there are fewer where it fails. -/
def firstBytes (n : Nat) (plane : Array UInt8) : Option (Array UInt8) :=
  if n ≤ plane.size then some (plane.extract 0 n) else none

/-- Empties a buffer, whatever it holds, and fills it up with grey to `n` bytes. -/
def greyInto (n : Nat) (buffer : Array UInt8) : Array UInt8 :=
  buffer.shrink 0 ++ Array.replicate n Frame.neutralChroma

/-- Makes a grey frame of a buffer, whatever the buffer holds. It fails where there is no room for the
frame. -/
def greyFrame? (width height : Nat) (buffer : Array UInt8) : Option (Array UInt8) := do
  return greyInto (← room? (← conversionLength? width height)) buffer

/-- The three planes of a frame, each by itself. -/
structure Planes where
  luma : Array UInt8
  u : Array UInt8
  v : Array UInt8
  deriving DecidableEq

namespace Planes

/-- Cuts off a luma and a first chroma plane of the given lengths; the rest is the second chroma plane.
There are too few bytes where it fails. -/
def cut (bytes : Array UInt8) (luma chroma : Nat) : Option Planes :=
  if luma + chroma ≤ bytes.size then
    some ⟨bytes.extract 0 luma, bytes.extract luma (luma + chroma), bytes.extract (luma + chroma)⟩
  else none

/-- The planes one after the other. -/
def joined (p : Planes) : Array UInt8 := p.luma ++ p.u ++ p.v

end Planes

/-- Writes the samples of the columns below `count` into a row of a plane, in order. -/
def fillRow (width row count : Nat) (sample : Nat → Option UInt8) (plane : Array UInt8) :
    Option (Array UInt8) :=
  (List.range count).foldlM (fun plane col => do put plane (row * width + col) (← sample col)) plane

/-! ## Planes that are described by a function -/

variable {width height row col count : Nat} {f g : Nat → Nat → UInt8}

theorem raster_congr (h : ∀ r < height, ∀ c < width, f r c = g r c) :
    raster width height f = raster width height g := by
  refine congrArg Array.ofFn (funext fun i => ?_)
  have hwidth : 0 < width := Nat.pos_of_mul_pos_right (Nat.zero_lt_of_lt i.isLt)
  exact h _ (Nat.div_lt_of_lt_mul i.isLt) _ (Nat.mod_lt _ hwidth)

theorem raster_const (width height : Nat) (b : UInt8) :
    raster width height (fun _ _ => b) = Array.replicate (width * height) b := by
  apply Array.ext <;> simp [raster]

/-- The position of a sample in its plane. -/
theorem row_mul_add_lt (hrow : row < height) (hcol : col < width) :
    row * width + col < width * height := by
  calc row * width + col < (row + 1) * width := by rw [Nat.succ_mul]; omega
    _ ≤ height * width := Nat.mul_le_mul_right width hrow
    _ = width * height := Nat.mul_comm _ _

theorem eq_row_mul_add_iff (hcol : col < width) (i : Nat) :
    i = row * width + col ↔ i / width = row ∧ i % width = col := by
  constructor
  · rintro rfl
    rw [Nat.mul_comm, Nat.mul_add_div (Nat.zero_lt_of_lt hcol), Nat.div_eq_of_lt hcol,
      Nat.mul_add_mod, Nat.mod_eq_of_lt hcol]
    exact ⟨rfl, rfl⟩
  · rintro ⟨rfl, rfl⟩
    rw [Nat.mul_comm, Nat.div_add_mod]

theorem getElem?_raster (hrow : row < height) (hcol : col < width) :
    (raster width height f)[row * width + col]? = some (f row col) := by
  obtain ⟨hdiv, hmod⟩ := (eq_row_mul_add_iff hcol (row * width + col)).mp rfl
  have hlt := row_mul_add_lt hrow hcol
  simp [raster, hlt, hdiv, hmod]

/-! ## The samples of a planar frame -/

section Samples

variable {luma u v : Nat → Nat → UInt8}

theorem getElem?_planar_luma (hrow : row < height) (hcol : col < width) :
    (planar width height luma u v)[row * width + col]? = some (luma row col) := by
  have hlt := row_mul_add_lt hrow hcol
  rw [planar, Array.append_assoc, Array.getElem?_append_left (by simpa using hlt)]
  exact getElem?_raster hrow hcol

theorem getElem?_planar_u (hrow : row < halfUp height) (hcol : col < halfUp width) :
    (planar width height luma u v)[width * height + (row * halfUp width + col)]? =
      some (u row col) := by
  have hlt := row_mul_add_lt hrow hcol
  rw [planar, Array.append_assoc, Array.getElem?_append_right (by simp),
    Array.getElem?_append_left (by simpa using hlt), size_raster, Nat.add_sub_cancel_left]
  exact getElem?_raster hrow hcol

theorem getElem?_planar_v (hrow : row < halfUp height) (hcol : col < halfUp width) :
    (planar width height luma u v)[width * height + halfUp width * halfUp height +
      (row * halfUp width + col)]? = some (v row col) := by
  rw [planar, Array.getElem?_append_right (by simp), Array.size_append, size_raster, size_raster,
    Nat.add_sub_cancel_left]
  exact getElem?_raster hrow hcol

end Samples

/-! ## What is written -/

/-- One sample of a plane becomes `b`. -/
theorem put_raster (hrow : row < height) (hcol : col < width) (b : UInt8) :
    put (raster width height f) (row * width + col) b =
      some (raster width height fun r c => if r = row ∧ c = col then b else f r c) := by
  have hlt : row * width + col < (raster width height f).size := by
    simpa using row_mul_add_lt hrow hcol
  rw [put, dif_pos hlt]
  refine congrArg some (Array.ext (by simp) fun i _ _ => ?_)
  rw [Array.getElem_set]
  simp only [raster, Array.getElem_ofFn, eq_comm (a := row * width + col), eq_row_mul_add_iff hcol]

/-- The first `count` samples of a row are written, and all others stay. -/
theorem fillRow_raster {sample : Nat → Option UInt8} {new : Nat → UInt8} (hrow : row < height)
    (hcount : count ≤ width) (hsample : ∀ c < count, sample c = some (new c)) :
    fillRow width row count sample (raster width height f) =
      some (raster width height fun r c => if r = row ∧ c < count then new c else f r c) := by
  induction count with
  | zero => simp [fillRow]
  | succ count ih =>
    have hbefore := ih (by omega) fun c hc => hsample c (by omega)
    rw [fillRow] at hbefore ⊢
    rw [List.range_succ, List.foldlM_append, hbefore]
    simp only [List.foldlM_cons, List.foldlM_nil, Option.bind_eq_bind, Option.bind_some,
      hsample count (Nat.lt_succ_self count), put_raster hrow hcount, bind_pure]
    refine congrArg some (raster_congr fun r _ c _ => ?_)
    grind

/-- A whole row is written. -/
theorem fillRow_whole {sample : Nat → Option UInt8} {new : Nat → UInt8} (hrow : row < height)
    (hsample : ∀ c < width, sample c = some (new c)) :
    fillRow width row width sample (raster width height f) =
      some (raster width height fun r c => if r = row then new c else f r c) := by
  rw [fillRow_raster hrow (Nat.le_refl width) hsample]
  apply congrArg some
  apply raster_congr
  intro r _ c hc
  simp [hc]

/-- Row after row is written, each by a step that leaves the other rows alone. -/
theorem foldlM_rows {step : Array UInt8 → Nat → Option (Array UInt8)} (hcount : count ≤ height)
    (hstep : ∀ r < count, ∀ f, step (raster width height f) r =
      some (raster width height fun r' c => if r' = r then g r' c else f r' c)) :
    (List.range count).foldlM step (raster width height f) =
      some (raster width height fun r c => if r < count then g r c else f r c) := by
  induction count with
  | zero => simp
  | succ count ih =>
    rw [List.range_succ, List.foldlM_append, ih (by omega) fun r hr => hstep r (by omega)]
    simp only [List.foldlM_cons, List.foldlM_nil, Option.bind_eq_bind, Option.bind_some, bind_pure,
      hstep count (Nat.lt_succ_self count)]
    apply congrArg some
    apply raster_congr
    intro r _ c _
    have hlt : r < count + 1 ↔ r = count ∨ r < count := by omega
    by_cases hr : r = count <;> simp [hr, hlt]

/-! ## Cutting and joining -/

/-- The bytes of a part that lies in the whole. -/
theorem getElem?_extract_of_lt (bytes : Array UInt8) {start stop i : Nat} (hi : start + i < stop)
    (hstop : stop ≤ bytes.size) :
    (bytes.extract start stop)[i]? = some (bytes[start + i]?.getD Frame.neutralChroma) := by
  have hlt : start + i < bytes.size := by omega
  rw [Array.getElem?_extract, if_pos (by omega)]
  simp [hlt]

@[simp] theorem greyInto_eq (n : Nat) (buffer : Array UInt8) :
    greyInto n buffer = Array.replicate n Frame.neutralChroma := by
  simp [greyInto]

theorem greyFrame?_eq (width height : Nat) (buffer : Array UInt8) :
    greyFrame? width height buffer =
      if 2 * halfUp width < longLimit ∧ planarLength width height < roomLimit then
        some (Array.replicate (planarLength width height) Frame.neutralChroma)
      else none := by
  unfold greyFrame?
  rw [conversionLength?_eq]
  by_cases hcolumns : 2 * halfUp width < longLimit
  · rw [if_pos hcolumns, ← bind_assoc]
    show ((long? (planarLength width height)).bind room?).bind _ = _
    rw [bind_room?, room?]
    by_cases hlength : planarLength width height < roomLimit
    · rw [if_pos hlength, if_pos ⟨hcolumns, hlength⟩, Option.bind_some, greyInto_eq]
      rfl
    · rw [if_neg hlength, if_neg fun h => hlength h.2, Option.bind_none]
  · rw [if_neg hcolumns, if_neg fun h => hcolumns h.1]
    rfl

/-- A grey buffer falls into grey planes. -/
theorem Planes.cut_grey (width height : Nat) :
    Planes.cut (Array.replicate (planarLength width height) Frame.neutralChroma) (width * height)
        (halfUp width * halfUp height) =
      some ⟨raster width height fun _ _ => Frame.neutralChroma,
        raster (halfUp width) (halfUp height) fun _ _ => Frame.neutralChroma,
        raster (halfUp width) (halfUp height) fun _ _ => Frame.neutralChroma⟩ := by
  simp only [raster_const]
  rw [cut, if_pos (by simp [planarLength]; omega)]
  simp [planarLength]
  omega

end VideoCapture
