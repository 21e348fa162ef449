import Mathlib.Tactic.Common
import VideoCapture.Proofs.V4L2.Scale

/-!
# The scale and a range approximate each other

More on the scale is never less in the range of a control, and the other way round. Both directions
stay between the ends, reach them, and cut off what does not divide, so that each of them undoes the
other one from below.

The main statement is `ControlRange.scaling_in_order`.
-/

namespace VideoCapture.V4L2

/-! ## Values of the scale -/

variable {value value' : UInt32}

theorem onScale_mono (h : value ≤ value') : onScale value ≤ onScale value' := by
  have hle : value.toNat ≤ value'.toNat := UInt32.le_iff_toNat_le.mp h
  unfold onScale
  omega

theorem onScale_of_le (h : 255 ≤ value) : onScale value = 255 := by
  have hle : 255 ≤ value.toNat := UInt32.le_iff_toNat_le.mp h
  unfold onScale scaleMax
  omega

theorem toNat_min_scale (value : UInt32) : ((Min.min value 255).toNat : Int) = onScale value := by
  have hmin : Min.min value 255 = if value ≤ 255 then value else 255 := rfl
  rw [hmin]
  unfold onScale scaleMax
  split
  · rename_i h
    have hle : value.toNat ≤ 255 := UInt32.le_iff_toNat_le.mp h
    omega
  · rename_i h
    have hlt : 255 < value.toNat := UInt32.lt_iff_toNat_lt.mp (UInt32.not_le.mp h)
    have hscale : (255 : UInt32).toNat = 255 := rfl
    omega

namespace ControlRange

variable {r : ControlRange} {raw raw' : Int}

/-! ## Onto the range -/

theorem toDevice_mono (hrange : r.min ≤ r.max) (h : value ≤ value') :
    r.toDevice value ≤ r.toDevice value' := by
  have hextent : 0 ≤ r.max - r.min := by omega
  have hproduct := Int.mul_le_mul_of_nonneg_right (onScale_mono h) hextent
  rw [toDevice_eq_ediv hrange, toDevice_eq_ediv hrange]
  omega

theorem toDevice_zero (hrange : r.min ≤ r.max) : r.toDevice 0 = r.min := by
  have hzero : onScale 0 = 0 := rfl
  rw [toDevice_eq_ediv hrange, hzero]
  omega

theorem toDevice_of_le (hrange : r.min ≤ r.max) (h : 255 ≤ value) : r.toDevice value = r.max := by
  rw [toDevice_eq_ediv hrange, onScale_of_le h]
  omega

/-! ## Onto the scale -/

theorem offset_mono (h : raw ≤ raw') : r.offset raw ≤ r.offset raw' := by
  unfold offset
  omega

theorem offset_quotient_bounds (hrange : r.min < r.max) (raw : Int) :
    0 ≤ r.offset raw * 255 / (r.max - r.min) ∧ r.offset raw * 255 / (r.max - r.min) ≤ 255 := by
  obtain ⟨hlow, hhigh⟩ := offset_bounds hrange.le raw
  have hextent : 0 < r.max - r.min := by omega
  constructor
  · exact Int.ediv_nonneg (by omega) hextent.le
  · apply Int.ediv_le_of_le_mul hextent
    omega

/-- The mapping onto the scale, with a quotient that is rounded down. -/
theorem toNat_fromDevice (hrange : r.min < r.max) (raw : Int) :
    ((r.fromDevice raw).toNat : Int) = r.offset raw * 255 / (r.max - r.min) := by
  obtain ⟨hoffset, -⟩ := offset_bounds hrange.le raw
  obtain ⟨hlow, hhigh⟩ := offset_quotient_bounds hrange raw
  have hvalue : r.fromDevice raw =
      UInt32.ofNat (r.offset raw * 255 / (r.max - r.min)).toNat := by
    rw [← Int.tdiv_eq_ediv_of_nonneg (by omega)]
    exact if_neg (by omega)
  rw [hvalue, UInt32.toNat_ofNat_of_lt' (by simp only [UInt32.size]; omega)]
  omega

theorem fromDevice_mono (h : raw ≤ raw') : r.fromDevice raw ≤ r.fromDevice raw' := by
  rcases lt_or_ge r.min r.max with hrange | hflat
  · have hextent : 0 ≤ r.max - r.min := by omega
    have hoffset := offset_mono (r := r) h
    have hquotient : r.offset raw * 255 / (r.max - r.min) ≤ r.offset raw' * 255 / (r.max - r.min) :=
      Int.ediv_le_ediv (by omega) (by omega)
    rw [← toNat_fromDevice hrange, ← toNat_fromDevice hrange] at hquotient
    rw [UInt32.le_iff_toNat_le]
    omega
  · rw [fromDevice_of_flat hflat, fromDevice_of_flat hflat]
    exact UInt32.le_refl _

/-- Whatever the reading, the mapping does not leave the scale. -/
theorem fromDevice_le (r : ControlRange) (raw : Int) : r.fromDevice raw ≤ 255 := by
  rcases lt_or_ge r.min r.max with hrange | hflat
  · obtain ⟨-, hhigh⟩ := offset_quotient_bounds hrange raw
    rw [← toNat_fromDevice hrange] at hhigh
    rw [UInt32.le_iff_toNat_le]
    exact Int.ofNat_le.mp hhigh
  · rw [fromDevice_of_flat hflat]
    decide

theorem fromDevice_of_le_min (hrange : r.min < r.max) (h : raw ≤ r.min) : r.fromDevice raw = 0 := by
  have hoffset : r.offset raw = 0 := by
    unfold offset
    omega
  have hvalue := toNat_fromDevice hrange raw
  rw [hoffset, Int.zero_mul, Int.zero_ediv] at hvalue
  apply UInt32.toNat_inj.mp
  exact Int.ofNat_inj.mp hvalue

theorem fromDevice_of_max_le (hrange : r.min < r.max) (h : r.max ≤ raw) : r.fromDevice raw = 255 := by
  have hoffset : r.offset raw = r.max - r.min := by
    unfold offset
    omega
  have hvalue := toNat_fromDevice hrange raw
  rw [hoffset, Int.mul_ediv_cancel_left _ (by omega)] at hvalue
  apply UInt32.toNat_inj.mp
  exact Int.ofNat_inj.mp hvalue

/-! ## There and back -/

/-- What a reading within the range comes back as does not exceed it. -/
theorem toDevice_fromDevice_le (hrange : r.min ≤ r.max) (h : r.min ≤ raw) :
    r.toDevice (r.fromDevice raw) ≤ raw := by
  rcases lt_or_ge r.min r.max with hproper | hflat
  · have hextent : 0 < r.max - r.min := by omega
    have hscale : onScale (r.fromDevice raw) = r.offset raw * 255 / (r.max - r.min) := by
      have hle : (r.fromDevice raw).toNat ≤ 255 := UInt32.le_iff_toNat_le.mp (fromDevice_le r raw)
      rw [← toNat_fromDevice hproper]
      unfold onScale scaleMax
      omega
    have hfloor := Int.ediv_mul_le (r.offset raw * 255) hextent.ne'
    have hoffset : r.offset raw ≤ raw - r.min := by
      unfold offset
      omega
    rw [toDevice_eq_ediv hrange, hscale]
    omega
  · have hbetween := toDevice_between hrange (r.fromDevice raw)
    omega

/-- What a value comes back as does not exceed it, nor the upper end of the scale. -/
theorem fromDevice_toDevice_le (hrange : r.min < r.max) (value : UInt32) :
    r.fromDevice (r.toDevice value) ≤ Min.min value 255 := by
  have hoffset : r.offset (r.toDevice value) = onScale value * (r.max - r.min) / 255 := by
    obtain ⟨hlow, hhigh⟩ := toDevice_between hrange.le value
    have hvalue := toDevice_eq_ediv hrange.le value
    unfold offset
    omega
  have hback : r.offset (r.toDevice value) * 255 / (r.max - r.min) ≤ onScale value := by
    apply Int.ediv_le_of_le_mul (by omega)
    omega
  rw [← toNat_fromDevice hrange, ← toNat_min_scale] at hback
  rw [UInt32.le_iff_toNat_le]
  exact Int.ofNat_le.mp hback

/-- For every range that is narrow enough for the numbers of 64 bits, both directions are monotone, stay
between the ends and reach them, and each undoes the other one from below. No step of theirs leaves the
numbers of 64 bits, and nothing is divided by zero. -/
theorem scaling_in_order (r : ControlRange) (hrange : r.min ≤ r.max) (hnarrow : r.Narrow) :
    (∀ value value' : UInt32, value ≤ value' → r.toDevice value ≤ r.toDevice value') ∧
      (∀ value : UInt32, r.min ≤ r.toDevice value ∧ r.toDevice value ≤ r.max) ∧
      r.toDevice 0 = r.min ∧
      (∀ value : UInt32, 255 ≤ value → r.toDevice value = r.max) ∧
      (∀ raw raw' : Int, raw ≤ raw' → r.fromDevice raw ≤ r.fromDevice raw') ∧
      (∀ raw : Int, r.fromDevice raw ≤ 255) ∧
      (r.min < r.max →
        (∀ raw : Int, raw ≤ r.min → r.fromDevice raw = 0) ∧
        ∀ raw : Int, r.max ≤ raw → r.fromDevice raw = 255) ∧
      (∀ raw : Int, r.min ≤ raw → r.toDevice (r.fromDevice raw) ≤ raw) ∧
      (r.min < r.max → ∀ value : UInt32,
        r.fromDevice (r.toDevice value) ≤ Min.min value 255) ∧
      (∀ value : UInt32, r.toDevice? value = some (r.toDevice value)) ∧
      ∀ raw : Int, r.fromDevice? raw = some (r.fromDevice raw) := by
  refine ⟨fun _ _ => toDevice_mono hrange, toDevice_between hrange, toDevice_zero hrange,
    fun _ => toDevice_of_le hrange, fun _ _ => fromDevice_mono, fromDevice_le r, ?_,
    fun _ => toDevice_fromDevice_le hrange, fromDevice_toDevice_le,
    toDevice?_eq hnarrow hrange, fromDevice?_eq hnarrow⟩
  intro hproper
  exact ⟨fun _ => fromDevice_of_le_min hproper, fun _ => fromDevice_of_max_le hproper⟩

/-- The widest range at the lower end of the numbers of 64 bits. -/
theorem scaling_in_order_at_limit :
    let r : ControlRange := ⟨-9223372036854775808, -9187201950435737472⟩
    r.min ≤ r.max ∧ r.Narrow ∧ r.toDevice 100 ≤ r.toDevice 300 ∧ r.toDevice 300 = r.max ∧
      r.fromDevice 0 = 255 ∧ r.toDevice (r.fromDevice (-9200000000000000000)) ≤ -9200000000000000000 ∧
      r.fromDevice (r.toDevice 100) ≤ Min.min 100 255 ∧
      r.toDevice? 300 = some r.max := by
  intro r
  have hrange : r.min ≤ r.max := by decide
  have hnarrow : r.Narrow := by decide
  obtain ⟨hmono, -, -, hend, -, -, hends, hbelow, hback, hchecked, -⟩ :=
    scaling_in_order r hrange hnarrow
  have htop := hend 300 (by decide)
  refine ⟨hrange, hnarrow, hmono 100 300 (by decide), htop, (hends (by decide)).2 0 (by decide),
    hbelow _ (by decide), hback (by decide) 100, ?_⟩
  rw [hchecked, htop]

end ControlRange

end VideoCapture.V4L2
