import VideoCapture.Frame.Planes

/-!
# Resizing planar frames

Each sample of the resized frame is the source sample at the same relative position, rounded
towards the first row and column, on each plane separately.

## Main definitions

* `resizePlanar` — a planar frame at another size. A source that is empty or too short for its size
  gives a grey frame.
* `resizeInto` — resizing, sample by sample into an old buffer.
* `Resizable` — no number on the way is too long.

The main statement is `resizeInto_eq`: unless a number on the way is too long, no access and no division
of the resizing fails, and the buffer ends up with the resized frame, whatever it held.
-/

namespace VideoCapture

/-- The sample of a plane of `sw` by `sh` samples, stored from `base` on, that lands on a row and
column of a plane of `dw` by `dh` samples. -/
def nearestSample (bytes : Array UInt8) (base sw sh dw dh row col : Nat) : UInt8 :=
  bytes[base + (row * sh / dh * sw + col * sw / dw)]?.getD Frame.neutralChroma

/-- The planar frame of `sw` by `sh` pixels at `dw` by `dh` pixels. -/
def resizePlanar (bytes : Array UInt8) (sw sh dw dh : Nat) : Array UInt8 :=
  if sw = 0 ∨ sh = 0 ∨ bytes.size < planarLength sw sh then
    Array.replicate (planarLength dw dh) Frame.neutralChroma
  else
    let chroma := nearestSample bytes
    planar dw dh (nearestSample bytes 0 sw sh dw dh)
      (chroma (sw * sh) (halfUp sw) (halfUp sh) (halfUp dw) (halfUp dh))
      (chroma (sw * sh + halfUp sw * halfUp sh) (halfUp sw) (halfUp sh) (halfUp dw) (halfUp dh))

@[simp] theorem size_resizePlanar (bytes : Array UInt8) (sw sh dw dh : Nat) :
    (resizePlanar bytes sw sh dw dh).size = planarLength dw dh := by
  unfold resizePlanar
  split <;> simp

/-! ## Sample by sample -/

/-- The quotient of two numbers; there is none where the divisor is zero. -/
def quotient? (n d : Nat) : Option Nat := if d = 0 then none else some (n / d)

/-- The place along an axis of `source` samples that sample `i` of `target` samples comes from. -/
def nearest? (i source target : Nat) : Option Nat := do quotient? (← long? (i * source)) target

/-- Writes every sample of a plane of `dw` by `dh` samples, each from its place in a plane of `sw` by
`sh` samples. -/
def resampleInto (source : Array UInt8) (sw sh : Nat) (plane : Array UInt8) (dw dh : Nat) :
    Option (Array UInt8) :=
  (List.range dh).foldlM (fun plane row => do
    let sourceRow ← nearest? row sh dh
    fillRow dw row dw (fun col => do source[sourceRow * sw + (← nearest? col sw dw)]?) plane)
    plane

/-- Resamples a frame that is there, plane by plane, into a buffer of the length of a frame. -/
def resamplePlanes (bytes : Array UInt8) (sw sh : Nat) (buffer : Array UInt8) (dw dh : Nat) :
    Option (Array UInt8) := do
  let source ← Planes.cut bytes (sw * sh) (halfUp sw * halfUp sh)
  let target ← Planes.cut buffer (dw * dh) (halfUp dw * halfUp dh)
  let luma ← resampleInto source.luma sw sh target.luma dw dh
  let u ← resampleInto (← firstBytes (halfUp sw * halfUp sh) source.u) (halfUp sw) (halfUp sh)
    target.u (halfUp dw) (halfUp dh)
  let v ← resampleInto (← firstBytes (halfUp sw * halfUp sh) source.v) (halfUp sw) (halfUp sh)
    target.v (halfUp dw) (halfUp dh)
  return Planes.joined ⟨luma, u, v⟩

/-- Writes a planar frame at another size into a buffer, whatever the buffer holds. -/
def resizeInto (bytes : Array UInt8) (sw sh : Nat) (buffer : Array UInt8) (dw dh : Nat) :
    Option (Array UInt8) := do
  let grey ← greyFrame? dw dh buffer
  if sw = 0 ∨ sh = 0 then return grey
  let needed ← conversionLength? sw sh
  if bytes.size < needed then return grey
  resamplePlanes bytes sw sh grey dw dh

/-- Every number that comes up when places of `target` samples along an axis are looked up among `source`
samples is one of 64 bits. -/
def NearestFits (source target : Nat) : Prop := (target - 1) * source < longLimit

/-- No number on the way is too long when a frame of `sw` by `sh` pixels in `size` bytes is brought to `dw`
by `dh` pixels: there is room for the frame, the length of the source can be computed, and so can the
places in it, if it is there. A frame without rows has room at any width that can be doubled, and no
places. -/
structure Resizable (size sw sh dw dh : Nat) : Prop where
  columns : 2 * halfUp dw < longLimit
  room : planarLength dw dh < roomLimit
  source : 0 < sw → 0 < sh → planarLength sw sh < longLimit
  rows : 0 < sw → 0 < sh → planarLength sw sh ≤ size → NearestFits sh dh
  places : 0 < sw → 0 < sh → planarLength sw sh ≤ size → 0 < dh → NearestFits sw dw

/-! ## Places along an axis -/

section Places

variable {source target i : Nat}

theorem quotient?_of_lt {k n d : Nat} (h : k < d) : quotient? n d = some (n / d) :=
  if_neg (by omega)

theorem nearest?_of_lt (hfits : NearestFits source target) (hi : i < target) :
    nearest? i source target = some (i * source / target) := by
  have hle : i * source ≤ (target - 1) * source := Nat.mul_le_mul_right _ (by omega)
  rw [nearest?, long?_of_lt (Nat.lt_of_le_of_lt hle hfits)]
  exact quotient?_of_lt hi

theorem nearest?_last (hlong : ¬ NearestFits source target) :
    nearest? (target - 1) source target = none := by
  have hnone : long? ((target - 1) * source) = none := if_neg hlong
  rw [nearest?, hnone]
  rfl

/-- There is a last place where one is too long. -/
theorem pos_of_not_nearestFits (hlong : ¬ NearestFits source target) : 0 < target := by
  unfold NearestFits at hlong
  refine Nat.pos_of_ne_zero fun hzero => hlong ?_
  simp [hzero, longLimit]

/-- The places in a chroma plane are no longer than those in the luma plane. -/
theorem NearestFits.halfUp (h : NearestFits source target) :
    NearestFits (halfUp source) (halfUp target) := by
  refine Nat.lt_of_le_of_lt (Nat.mul_le_mul ?_ ?_) h <;> unfold VideoCapture.halfUp <;> omega

end Places

/-! ## What the samples come to -/

variable {bytes source : Array UInt8} {base sw sh dw dh : Nat}

/-- The place that a sample comes from lies in its plane. -/
theorem nearest_lt (hsw : 0 < sw) (hsh : 0 < sh) {row col : Nat} (hrow : row < dh)
    (hcol : col < dw) : row * sh / dh * sw + col * sw / dw < sw * sh := by
  refine row_mul_add_lt ?_ ?_
  · rw [Nat.div_lt_iff_lt_mul (by omega), Nat.mul_comm sh]
    exact Nat.mul_lt_mul_of_pos_right hrow hsh
  · rw [Nat.div_lt_iff_lt_mul (by omega), Nat.mul_comm sw]
    exact Nat.mul_lt_mul_of_pos_right hcol hsw

/-- A plane that lies in the bytes from `base` on is resampled to what its places say. -/
theorem resampleInto_raster (hsw : 0 < sw) (hsh : 0 < sh) (hrows : NearestFits sh dh)
    (hplaces : 0 < dh → NearestFits sw dw)
    (hsource : ∀ i < sw * sh, source[i]? = some (bytes[base + i]?.getD Frame.neutralChroma))
    (f : Nat → Nat → UInt8) :
    resampleInto source sw sh (raster dw dh f) dw dh =
      some (raster dw dh (nearestSample bytes base sw sh dw dh)) := by
  have hstep (row : Nat) (hrow : row < dh) (f : Nat → Nat → UInt8) :
      (do
        let sourceRow ← nearest? row sh dh
        fillRow dw row dw (fun col => do source[sourceRow * sw + (← nearest? col sw dw)]?)
          (raster dw dh f)) =
      some (raster dw dh fun r c =>
        if r = row then nearestSample bytes base sw sh dw dh r c else f r c) := by
    have hcolumns : NearestFits sw dw := hplaces (Nat.zero_lt_of_lt hrow)
    have hsample (col : Nat) (hcol : col < dw) :
        (do source[row * sh / dh * sw + (← nearest? col sw dw)]?) =
          some (nearestSample bytes base sw sh dw dh row col) := by
      rw [nearest?_of_lt hcolumns hcol]
      exact hsource _ (nearest_lt hsw hsh hrow hcol)
    rw [nearest?_of_lt hrows hrow]
    refine (fillRow_whole hrow hsample).trans ?_
    apply congrArg some
    apply raster_congr
    intro r _ c _
    grind
  refine (foldlM_rows (Nat.le_refl dh) hstep).trans ?_
  apply congrArg some
  apply raster_congr
  intro row hrow col _
  exact if_pos hrow

/-- A loop fails if its last step does. -/
theorem foldlM_range_of_last {σ : Type} {step : σ → Nat → Option σ} {count : Nat} (hcount : 0 < count)
    (hlast : ∀ s, step s (count - 1) = none) (s : σ) : (List.range count).foldlM step s = none := by
  obtain ⟨n, rfl⟩ : ∃ n, count = n + 1 := ⟨count - 1, by omega⟩
  rw [List.range_succ, List.foldlM_append]
  simp only [List.foldlM_cons, Nat.add_sub_cancel] at hlast ⊢
  cases (List.range n).foldlM step s with
  | none => rfl
  | some s' => simp [hlast]

/-- A loop fails if its first step does. -/
theorem foldlM_range_of_first {σ : Type} {step : σ → Nat → Option σ} {count : Nat} (hcount : 0 < count)
    {s : σ} (hfirst : step s 0 = none) : (List.range count).foldlM step s = none := by
  obtain ⟨n, rfl⟩ : ∃ n, count = n + 1 := ⟨count - 1, by omega⟩
  rw [List.range_succ_eq_map, List.foldlM_cons, hfirst]
  rfl

/-- A place that is too long is met in the last row, or in the last column of the first row. -/
theorem resampleInto_eq_none (plane : Array UInt8)
    (h : ¬ (NearestFits sh dh ∧ (0 < dh → NearestFits sw dw))) :
    resampleInto source sw sh plane dw dh = none := by
  by_cases hrows : NearestFits sh dh
  · have hplaces : ¬ (0 < dh → NearestFits sw dw) := fun hplaces => h ⟨hrows, hplaces⟩
    rw [Classical.not_imp] at hplaces
    obtain ⟨hdh, hlong⟩ := hplaces
    refine foldlM_range_of_first hdh ?_
    rw [nearest?_of_lt hrows hdh, Option.bind_eq_bind, Option.bind_some]
    refine foldlM_range_of_last (pos_of_not_nearestFits hlong) (fun plane => ?_) plane
    simp only [nearest?_last hlong, Option.bind_eq_bind, Option.bind_none]
  · refine foldlM_range_of_last (pos_of_not_nearestFits hrows) (fun plane => ?_) plane
    rw [nearest?_last hrows]
    rfl

theorem firstBytes_extract {n start stop : Nat} (hn : start + n ≤ stop) (hstop : stop ≤ bytes.size) :
    firstBytes n (bytes.extract start stop) = some (bytes.extract start (start + n)) := by
  rw [firstBytes, if_pos (by simp; omega), Array.extract_extract, Nat.add_zero, Nat.min_eq_left hn]

/-- A frame that is there is resampled on each plane. -/
theorem resamplePlanes_eq (hsw : 0 < sw) (hsh : 0 < sh) (henough : planarLength sw sh ≤ bytes.size)
    (hrows : NearestFits sh dh) (hplaces : 0 < dh → NearestFits sw dw) :
    resamplePlanes bytes sw sh (Array.replicate (planarLength dw dh) Frame.neutralChroma) dw dh =
      some (resizePlanar bytes sw sh dw dh) := by
  have hcw : 0 < halfUp sw := by unfold halfUp; omega
  have hch : 0 < halfUp sh := by unfold halfUp; omega
  have hplaces' (hdch : 0 < halfUp dh) : NearestFits (halfUp sw) (halfUp dw) :=
    (hplaces (by unfold halfUp at hdch; omega)).halfUp
  have hsize : sw * sh + halfUp sw * halfUp sh + halfUp sw * halfUp sh ≤ bytes.size := by
    unfold planarLength at henough
    omega
  have hluma (i : Nat) (hi : i < sw * sh) :=
    getElem?_extract_of_lt bytes (show 0 + i < sw * sh by omega) (by omega)
  have hu (i : Nat) (hi : i < halfUp sw * halfUp sh) :=
    getElem?_extract_of_lt bytes
      (show sw * sh + i < sw * sh + halfUp sw * halfUp sh by omega) (by omega)
  have hv (i : Nat) (hi : i < halfUp sw * halfUp sh) :=
    getElem?_extract_of_lt bytes
      (show sw * sh + halfUp sw * halfUp sh + i <
        sw * sh + halfUp sw * halfUp sh + halfUp sw * halfUp sh by omega) hsize
  have hcut : Planes.cut bytes (sw * sh) (halfUp sw * halfUp sh) = some _ := if_pos (by omega)
  rw [resizePlanar, if_neg (by omega)]
  simp only [resamplePlanes, hcut, Option.bind_eq_bind, Option.bind_some, Planes.cut_grey,
    firstBytes_extract (Nat.le_refl _) (show sw * sh + halfUp sw * halfUp sh ≤ bytes.size by omega),
    firstBytes_extract hsize (Nat.le_refl bytes.size), resampleInto_raster hsw hsh hrows hplaces hluma,
    resampleInto_raster hcw hch hrows.halfUp hplaces' hu,
    resampleInto_raster hcw hch hrows.halfUp hplaces' hv]
  rfl

theorem resamplePlanes_eq_none (buffer : Array UInt8)
    (h : ¬ (NearestFits sh dh ∧ (0 < dh → NearestFits sw dw))) :
    resamplePlanes bytes sw sh buffer dw dh = none := by
  unfold resamplePlanes
  cases Planes.cut bytes (sw * sh) (halfUp sw * halfUp sh) with
  | none => rfl
  | some source =>
    cases Planes.cut buffer (dw * dh) (halfUp dw * halfUp dh) with
    | none => rfl
    | some target =>
      simp only [Option.bind_eq_bind, Option.bind_some, resampleInto_eq_none target.luma h,
        Option.bind_none]

/-! ## What resizing comes to -/

/-- The chroma of a source with pixels is shorter than the source. -/
theorem columns_lt_of_planarLength (hsh : 0 < sh) (h : planarLength sw sh < longLimit) :
    2 * halfUp sw < longLimit := by
  have hch : 1 ≤ halfUp sh := by unfold halfUp; omega
  have hle : halfUp sw * 1 ≤ halfUp sw * halfUp sh := Nat.mul_le_mul_left _ hch
  unfold planarLength at h
  omega

/-- Resizing succeeds if no number on the way is too long, and leaves the resized frame, whatever the
buffer held. -/
theorem resizeInto_eq (h : Resizable bytes.size sw sh dw dh) (buffer : Array UInt8) :
    resizeInto bytes sw sh buffer dw dh = some (resizePlanar bytes sw sh dw dh) := by
  rw [resizeInto, greyFrame?_eq, if_pos ⟨h.columns, h.room⟩, Option.bind_eq_bind, Option.bind_some]
  by_cases hempty : sw = 0 ∨ sh = 0
  · have hgrey : sw = 0 ∨ sh = 0 ∨ bytes.size < planarLength sw sh := by omega
    rw [if_pos hempty, resizePlanar, if_pos hgrey]
    rfl
  · have hsw : 0 < sw := by omega
    have hsh : 0 < sh := by omega
    have hlength := h.source hsw hsh
    rw [if_neg hempty, conversionLength?_eq, if_pos (columns_lt_of_planarLength hsh hlength),
      long?_of_lt hlength]
    simp only [Option.bind_eq_bind, Option.bind_some]
    split
    · rename_i hshort
      rw [resizePlanar, if_pos (.inr (.inr hshort))]
      rfl
    · rename_i henough
      rw [Nat.not_lt] at henough
      exact resamplePlanes_eq hsw hsh henough (h.rows hsw hsh henough) (h.places hsw hsh henough)

/-- Otherwise it fails. -/
theorem resizeInto_eq_none (h : ¬ Resizable bytes.size sw sh dw dh) (buffer : Array UInt8) :
    resizeInto bytes sw sh buffer dw dh = none := by
  rw [resizeInto, greyFrame?_eq]
  split
  · rename_i hroom
    rw [Option.bind_eq_bind, Option.bind_some]
    by_cases hempty : sw = 0 ∨ sh = 0
    · exact absurd ⟨hroom.1, hroom.2, by omega, by omega, by omega⟩ h
    · have hsw : 0 < sw := by omega
      have hsh : 0 < sh := by omega
      rw [if_neg hempty, conversionLength?_eq]
      by_cases hlength : planarLength sw sh < longLimit
      · rw [if_pos (columns_lt_of_planarLength hsh hlength), long?_of_lt hlength]
        simp only [Option.bind_eq_bind, Option.bind_some]
        split
        · exact absurd ⟨hroom.1, hroom.2, fun _ _ => hlength, by omega, by omega⟩ h
        · refine resamplePlanes_eq_none _ fun hplaces => h ⟨hroom.1, hroom.2, fun _ _ => hlength, ?_, ?_⟩
          · exact fun _ _ _ => hplaces.1
          · exact fun _ _ _ => hplaces.2
      · have hnone : long? (planarLength sw sh) = none := if_neg hlength
        rw [hnone]
        split <;> rfl
  · rfl

/-- Between sides of 32 bits only a length can be too long. -/
theorem FrameSize.resizable_iff {native : FrameSize} (size : FrameSize) (hnative : native.fits = true)
    (length : Nat) :
    Resizable length native.width.toNat native.height.toNat size.width.toNat size.height.toNat ↔
      size.fits = true := by
  have hplaces (source target : UInt32) : NearestFits source.toNat target.toNat := by
    have hle : (target.toNat - 1) * source.toNat ≤ (2 ^ 32 - 2) * (2 ^ 32 - 1) :=
      Nat.mul_le_mul (by have := target.toNat_lt; omega) (by have := source.toNat_lt; omega)
    exact Nat.lt_of_le_of_lt hle (by decide)
  rw [FrameSize.fits_iff] at hnative ⊢
  refine ⟨fun h => h.room, fun hroom => ⟨size.columns_lt, hroom, fun _ _ => ?_, ?_, ?_⟩⟩
  · exact Nat.lt_trans hnative (by decide)
  · exact fun _ _ _ => hplaces native.height size.height
  · exact fun _ _ _ _ => hplaces native.width size.width

end VideoCapture
