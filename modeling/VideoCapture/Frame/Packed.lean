import VideoCapture.Frame.Planes

/-!
# Packed frames

A packed frame stores each pair of neighbouring pixels in four bytes: luma, first chroma, luma,
second chroma. Every row has its own chroma.

## Main definitions

* `planarOfPacked` — the planar frame of a packed one. Chroma of odd rows is dropped; rows that the
  bytes do not contain completely stay grey, and so does the chroma beside the last pixel of an odd
  width.
* `unpackInto` — the conversion, row by row into an old buffer.

The main statement is `unpackInto_eq`: if there is room for the frame, no step of the conversion fails,
and the buffer ends up with the planar frame, whatever it held.
-/

namespace VideoCapture

/-- The first `row + 1` packed rows of `width` pixels are all there. -/
def hasPackedRow (bytes : Array UInt8) (width row : Nat) : Bool :=
  (row + 1) * (2 * width) ≤ bytes.size

/-- Luma of a packed frame at a row and column. -/
def packedLuma (bytes : Array UInt8) (width row col : Nat) : UInt8 :=
  if hasPackedRow bytes width row then
    bytes[row * (2 * width) + 2 * col]?.getD Frame.neutralChroma
  else Frame.neutralChroma

/-- Chroma of a packed frame for a chroma row and column; `offset` is 1 for the first chroma plane
and 3 for the second. -/
def packedChroma (bytes : Array UInt8) (width offset row col : Nat) : UInt8 :=
  if hasPackedRow bytes width (2 * row) && decide (col < width / 2) then
    bytes[2 * row * (2 * width) + 4 * col + offset]?.getD Frame.neutralChroma
  else Frame.neutralChroma

/-- The planar frame of a packed one. -/
def planarOfPacked (bytes : Array UInt8) (width height : Nat) : Array UInt8 :=
  planar width height (packedLuma bytes width) (packedChroma bytes width 1)
    (packedChroma bytes width 3)

@[simp] theorem size_planarOfPacked (bytes : Array UInt8) (width height : Nat) :
    (planarOfPacked bytes width height).size = planarLength width height := by
  simp [planarOfPacked]

/-! ## Row by row -/

/-- The bytes from `start` up to `stop`, if they are all there. -/
def bytesBetween? (bytes : Array UInt8) (start stop : Nat) : Option (Array UInt8) :=
  if stop ≤ bytes.size then some (bytes.extract start stop) else none

/-- Writes the chroma of the first `pairs` pairs of pixels of a packed row. -/
def unpackChroma (width row pairs : Nat) (packed : Array UInt8) (p : Planes) : Option Planes :=
  (List.range pairs).foldlM (fun p pair => do
    let u ← put p.u (row / 2 * halfUp width + pair) (← packed[pair * 4 + 1]?)
    let v ← put p.v (row / 2 * halfUp width + pair) (← packed[pair * 4 + 3]?)
    return { p with u, v }) p

/-- Writes a packed row to its place in the planes. An odd row has no chroma there. -/
def unpackRow (width row : Nat) (packed : Array UInt8) (p : Planes) : Option Planes := do
  let luma ← fillRow width row width (fun col => packed[col * 2]?) p.luma
  if row % 2 = 0 then unpackChroma width row (width / 2) packed { p with luma }
  else return { p with luma }

/-- Writes the next `count` packed rows from `row` on, and ends early at a row that is missing. A row
has `stride` bytes. -/
def unpackRows (bytes : Array UInt8) (width stride : Nat) : Nat → Nat → Planes → Option Planes
  | 0, _, p => some p
  | count + 1, row, p => do
    let stop ← long? ((row + 1) * stride)
    match bytesBetween? bytes (row * stride) stop with
    | none => return p
    | some packed =>
      unpackRows bytes width stride count (row + 1) (← unpackRow width row packed p)

/-- Writes a packed frame as a planar one into a buffer, whatever the buffer holds. -/
def unpackInto (bytes : Array UInt8) (width height : Nat) (buffer : Array UInt8) :
    Option (Array UInt8) := do
  let grey ← greyFrame? width height buffer
  let stride ← long? (2 * width)
  let p ← Planes.cut grey (width * height) (halfUp width * halfUp height)
  return (← unpackRows bytes width stride height 0 p).joined

/-! ## What the rows come to -/

variable {bytes : Array UInt8} {width height row : Nat}

/-- The bytes do not contain a row without those before it. -/
theorem hasPackedRow_mono {r : Nat} (h : hasPackedRow bytes width row = true) (hr : r ≤ row) :
    hasPackedRow bytes width r = true := by
  simp only [hasPackedRow, decide_eq_true_eq] at h ⊢
  exact Nat.le_trans (Nat.mul_le_mul_right _ (Nat.succ_le_succ hr)) h

/-- The planes when the rows before `row` have been written. -/
def unpackedUpTo (bytes : Array UInt8) (width height row : Nat) : Planes where
  luma := raster width height fun r c =>
    if r < row then packedLuma bytes width r c else Frame.neutralChroma
  u := raster (halfUp width) (halfUp height) fun r c =>
    if 2 * r < row then packedChroma bytes width 1 r c else Frame.neutralChroma
  v := raster (halfUp width) (halfUp height) fun r c =>
    if 2 * r < row then packedChroma bytes width 3 r c else Frame.neutralChroma

theorem joined_unpackedUpTo_height (bytes : Array UInt8) (width height : Nat) :
    (unpackedUpTo bytes width height height).joined = planarOfPacked bytes width height := by
  have hluma (r : Nat) (hr : r < height) (c : Nat) (_ : c < width) :
      (if r < height then packedLuma bytes width r c else Frame.neutralChroma) =
        packedLuma bytes width r c := if_pos hr
  have hchroma (offset r : Nat) (hr : r < halfUp height) (c : Nat) (_ : c < halfUp width) :
      (if 2 * r < height then packedChroma bytes width offset r c else Frame.neutralChroma) =
        packedChroma bytes width offset r c := if_pos (by unfold halfUp at hr; omega)
  simp only [unpackedUpTo, Planes.joined, planarOfPacked, planar, raster_congr hluma,
    raster_congr (hchroma 1), raster_congr (hchroma 3)]

/-- Rows that are missing are grey in the planar frame as well. -/
theorem unpackedUpTo_of_missing (h : hasPackedRow bytes width row = false) (hrow : row ≤ height) :
    unpackedUpTo bytes width height row = unpackedUpTo bytes width height height := by
  have hmissing (r : Nat) (hr : row ≤ r) : hasPackedRow bytes width r = false :=
    Bool.eq_false_iff.mpr fun hhas => Bool.eq_false_iff.mp h (hasPackedRow_mono hhas hr)
  have hluma (r c : Nat) (hr : row ≤ r) :
      packedLuma bytes width r c = Frame.neutralChroma := by simp [packedLuma, hmissing r hr]
  have hchroma (offset r c : Nat) (hr : row ≤ 2 * r) :
      packedChroma bytes width offset r c = Frame.neutralChroma := by
    simp [packedChroma, hmissing _ hr]
  simp only [unpackedUpTo, Planes.mk.injEq]
  refine ⟨raster_congr ?_, raster_congr ?_, raster_congr ?_⟩ <;> intro r _ c _ <;> grind

/-- Chroma is written pair by pair, to both planes. -/
theorem unpackChroma_raster {pairs : Nat} {packed luma : Array UInt8} {u v : Nat → Nat → UInt8}
    {newU newV : Nat → UInt8} (hrow : row / 2 < halfUp height) (hpairs : pairs ≤ halfUp width)
    (hu : ∀ c < pairs, packed[c * 4 + 1]? = some (newU c))
    (hv : ∀ c < pairs, packed[c * 4 + 3]? = some (newV c)) :
    unpackChroma width row pairs packed
        ⟨luma, raster (halfUp width) (halfUp height) u, raster (halfUp width) (halfUp height) v⟩ =
      some ⟨luma,
        raster (halfUp width) (halfUp height) fun r c =>
          if r = row / 2 ∧ c < pairs then newU c else u r c,
        raster (halfUp width) (halfUp height) fun r c =>
          if r = row / 2 ∧ c < pairs then newV c else v r c⟩ := by
  induction pairs with
  | zero => simp [unpackChroma]
  | succ pairs ih =>
    have hbefore := ih (by omega) (fun c hc => hu c (by omega)) (fun c hc => hv c (by omega))
    have hlast : pairs < halfUp width := hpairs
    rw [unpackChroma] at hbefore ⊢
    rw [List.range_succ, List.foldlM_append, hbefore]
    simp only [List.foldlM_cons, List.foldlM_nil, Option.bind_eq_bind, Option.bind_some,
      hu pairs (Nat.lt_succ_self pairs), hv pairs (Nat.lt_succ_self pairs),
      put_raster hrow hlast, Option.pure_def, Option.some.injEq, Planes.mk.injEq, true_and]
    refine ⟨raster_congr fun r _ c _ => ?_, raster_congr fun r _ c _ => ?_⟩ <;> grind

/-- The bytes of a row that is there. -/
theorem getElem?_packedRow (h : hasPackedRow bytes width row = true) {i : Nat} (hi : i < 2 * width) :
    (bytes.extract (row * (2 * width)) ((row + 1) * (2 * width)))[i]? =
      some (bytes[row * (2 * width) + i]?.getD Frame.neutralChroma) := by
  have hend : (row + 1) * (2 * width) = row * (2 * width) + 2 * width := Nat.succ_mul row _
  refine getElem?_extract_of_lt bytes (by omega) ?_
  simpa [hasPackedRow] using h

/-- The chroma plane of a pair's second or fourth byte gains a row at each even row. -/
theorem packedChroma_step (h : hasPackedRow bytes width row = true) (heven : row % 2 = 0)
    (offset : Nat) :
    (raster (halfUp width) (halfUp height) fun r c =>
        if r = row / 2 ∧ c < width / 2 then
          bytes[row * (2 * width) + (c * 4 + offset)]?.getD Frame.neutralChroma
        else if 2 * r < row then packedChroma bytes width offset r c else Frame.neutralChroma) =
      raster (halfUp width) (halfUp height) fun r c =>
        if 2 * r < row + 1 then packedChroma bytes width offset r c else Frame.neutralChroma := by
  have hrow : 2 * (row / 2) = row := by omega
  refine raster_congr fun r _ c _ => ?_
  by_cases hr : r = row / 2
  · subst hr
    by_cases hc : c < width / 2
    · simp [packedChroma, hrow, h, hc, Nat.mul_comm c 4, Nat.add_assoc]
    · simp [packedChroma, hrow, hc]
  · have hlt : 2 * r < row + 1 ↔ 2 * r < row := by omega
    simp [hr, hlt]

/-- A row that is there takes the planes one row further. -/
theorem unpackRow_unpackedUpTo (hrow : row < height) (h : hasPackedRow bytes width row = true) :
    unpackRow width row (bytes.extract (row * (2 * width)) ((row + 1) * (2 * width)))
        (unpackedUpTo bytes width height row) =
      some (unpackedUpTo bytes width height (row + 1)) := by
  have hluma : fillRow width row width
        (fun col => (bytes.extract (row * (2 * width)) ((row + 1) * (2 * width)))[col * 2]?)
        (unpackedUpTo bytes width height row).luma =
      some (unpackedUpTo bytes width height (row + 1)).luma := by
    have hpacked (c : Nat) (hc : c < width) := getElem?_packedRow h (show c * 2 < 2 * width by omega)
    dsimp only [unpackedUpTo]
    refine (fillRow_whole hrow hpacked).trans (congrArg some (raster_congr fun r _ c _ => ?_))
    by_cases hr : r = row
    · simp [hr, packedLuma, h, Nat.mul_comm c 2]
    · have hlt : r < row + 1 ↔ r < row := by omega
      simp [hr, hlt]
  rw [unpackRow, hluma, Option.bind_eq_bind, Option.bind_some]
  split
  · rename_i heven
    have hpair : row / 2 < halfUp height := by unfold halfUp; omega
    have hpairs : width / 2 ≤ halfUp width := by unfold halfUp; omega
    dsimp only [unpackedUpTo]
    rw [unpackChroma_raster hpair hpairs (fun c hc => getElem?_packedRow h (by omega))
      (fun c hc => getElem?_packedRow h (by omega)), packedChroma_step h heven 1,
      packedChroma_step h heven 3]
  · rename_i hodd
    have hlt (r : Nat) : 2 * r < row + 1 ↔ 2 * r < row := by omega
    simp [unpackedUpTo, hlt]

/-- Where there is room for a frame, the end of each of its rows can be counted among the packed bytes. -/
theorem packedEnd_lt (hroom : planarLength width height < roomLimit) (hrow : row < height) :
    (row + 1) * (2 * width) < longLimit := by
  unfold planarLength at hroom
  calc (row + 1) * (2 * width) ≤ height * (2 * width) := Nat.mul_le_mul_right _ hrow
    _ = 2 * (width * height) := by rw [Nat.mul_left_comm, Nat.mul_comm height]
    _ < 2 * roomLimit := by omega
    _ = longLimit := two_mul_roomLimit

/-- The rows from `row` on complete the planes. -/
theorem unpackRows_unpackedUpTo (hroom : planarLength width height < roomLimit)
    (count row : Nat) (hcount : row + count = height) :
    unpackRows bytes width (2 * width) count row (unpackedUpTo bytes width height row) =
      some (unpackedUpTo bytes width height height) := by
  induction count generalizing row with
  | zero =>
    obtain rfl : row = height := hcount
    rfl
  | succ count ih =>
    rw [unpackRows, long?_of_lt (packedEnd_lt hroom (show row < height by omega)), Option.bind_eq_bind, Option.bind_some, bytesBetween?]
    cases h : hasPackedRow bytes width row with
    | false =>
      rw [if_neg (by simpa [hasPackedRow] using h)]
      exact congrArg some (unpackedUpTo_of_missing h (show row ≤ height by omega))
    | true =>
      rw [if_pos (by simpa [hasPackedRow] using h)]
      simpa [unpackRow_unpackedUpTo (show row < height by omega) h] using ih (row + 1) (by omega)

/-- Unpacking succeeds if there is room for the frame, and leaves the planar frame, whatever the buffer
held. A frame without rows has room at any width, but a row of it may be too long. -/
theorem unpackInto_eq (bytes : Array UInt8) (width height : Nat) (buffer : Array UInt8) :
    unpackInto bytes width height buffer =
      if 2 * width < longLimit ∧ planarLength width height < roomLimit then
        some (planarOfPacked bytes width height)
      else none := by
  have hgrey : (⟨raster width height fun _ _ => Frame.neutralChroma,
      raster (halfUp width) (halfUp height) fun _ _ => Frame.neutralChroma,
      raster (halfUp width) (halfUp height) fun _ _ => Frame.neutralChroma⟩ : Planes) =
        unpackedUpTo bytes width height 0 := by simp [unpackedUpTo]
  rw [unpackInto, greyFrame?_eq]
  by_cases hstride : 2 * width < longLimit
  · have hcolumns : 2 * halfUp width < longLimit := by unfold halfUp; omega
    by_cases hlength : planarLength width height < roomLimit
    · have hrows : unpackRows bytes width (2 * width) height 0 (unpackedUpTo bytes width height 0) =
          some (unpackedUpTo bytes width height height) :=
        unpackRows_unpackedUpTo hlength height 0 (Nat.zero_add _)
      rw [if_pos ⟨hcolumns, hlength⟩, if_pos ⟨hstride, hlength⟩, long?_of_lt hstride]
      simp only [Option.bind_eq_bind, Option.bind_some, Planes.cut_grey, hgrey, hrows,
        joined_unpackedUpTo_height, Option.pure_def]
    · rw [if_neg fun h => hlength h.2, if_neg fun h => hlength h.2]
      rfl
  · have hnone : long? (2 * width) = none := if_neg hstride
    have hlong : ¬ (2 * width < longLimit ∧ planarLength width height < roomLimit) := fun h => hstride h.1
    rw [hnone, if_neg hlong]
    split <;> rfl

end VideoCapture
