import Mathlib.Tactic.Common
import Mathlib.Tactic.Linarith
import VideoCapture.V4L2.Control

/-!
# From the scale to a control and back

A value of the scale is mapped onto the range of a control, and what the control holds is mapped back.
Both directions cut off what does not divide, so that a value may come back as the one below.

## Main definitions

* `onScale`, `ControlRange.offset` — what is left of a value and of a reading within the ends.
* `ControlRange.Narrow` — a range in which the mapping does not leave the signed numbers of 64 bits.
* `ControlRange.toDevice?`, `ControlRange.fromDevice?` — the mapping in these numbers, step by step.
* `ControlRange.Exact` — a value that comes back as it was.

The main statement is `ControlRange.fromDevice_toDevice`.
-/

namespace VideoCapture.V4L2

/-- A number, if it is a signed number of 64 bits. -/
def wide? (n : Int) : Option Int := if -2 ^ 63 ≤ n ∧ n < 2 ^ 63 then some n else none

theorem wide?_of_between {n : Int} (hlow : -2 ^ 63 ≤ n) (hhigh : n < 2 ^ 63) : wide? n = some n :=
  if_pos ⟨hlow, hhigh⟩

/-- A truncated quotient lies between nothing and what is divided. -/
theorem tdiv_bounds {a b : Int} (ha : 0 ≤ a) (hb : 0 < b) :
    b * Int.tdiv a b ≤ a ∧ a < b * Int.tdiv a b + b ∧ 0 ≤ Int.tdiv a b := by
  rw [Int.tdiv_eq_ediv_of_nonneg ha]
  have hfloor := Int.mul_ediv_add_emod a b
  have hleft := Int.emod_nonneg a hb.ne'
  have hright := Int.emod_lt_of_pos a hb
  exact ⟨by omega, by omega, Int.ediv_nonneg ha hb.le⟩

/-- A quotient, if nothing is divided by zero and the quotient is a signed number of 64 bits. -/
def wideQuotient? (a b : Int) : Option Int := if b = 0 then none else wide? (Int.tdiv a b)

theorem wideQuotient?_of_wide {a b : Int} (hb : 0 < b) (hlow : 0 ≤ a) (hhigh : a < 2 ^ 63) :
    wideQuotient? a b = some (Int.tdiv a b) := by
  obtain ⟨hfloor, -, hquotient⟩ := tdiv_bounds hlow hb
  have hle : Int.tdiv a b ≤ b * Int.tdiv a b := le_mul_of_one_le_left hquotient hb
  rw [wideQuotient?, if_neg hb.ne']
  apply wide?_of_between <;> omega

/-! ## Values of the scale -/

/-- A value without what lies beyond the upper end of the scale. -/
def onScale (value : UInt32) : Int := Min.min (value.toNat : Int) scaleMax

theorem onScale_bounds (value : UInt32) : 0 ≤ onScale value ∧ onScale value ≤ 255 := by
  unfold onScale scaleMax
  omega

theorem onScale_eq {value : UInt32} (hvalue : value.toNat ≤ 255) : onScale value = value.toNat := by
  unfold onScale scaleMax
  omega

namespace ControlRange

/-- The ends of the range and all products on the way are signed numbers of 64 bits. -/
structure Narrow (r : ControlRange) : Prop where
  min : -2 ^ 63 ≤ r.min
  max : r.max < 2 ^ 63
  product : scaleMax * (r.max - r.min) < 2 ^ 63

instance (r : ControlRange) : Decidable r.Narrow :=
  decidable_of_iff (-2 ^ 63 ≤ r.min ∧ r.max < 2 ^ 63 ∧ scaleMax * (r.max - r.min) < 2 ^ 63)
    ⟨fun h => ⟨h.1, h.2.1, h.2.2⟩, fun h => ⟨h.1, h.2, h.3⟩⟩

/-- The value in the range, with every step in signed numbers of 64 bits. -/
def toDevice? (r : ControlRange) (value : UInt32) : Option Int := do
  let extent ← wide? (r.max - r.min)
  let product ← wide? (onScale value * extent)
  let quotient ← wideQuotient? product scaleMax
  wide? (r.min + quotient)

/-- How far above the lower end of the range a reading lies, without what lies beyond the ends. -/
def offset (r : ControlRange) (raw : Int) : Int := Max.max r.min (Min.min raw r.max) - r.min

/-- The value on the scale, with every step in signed numbers of 64 bits. -/
def fromDevice? (r : ControlRange) (raw : Int) : Option UInt32 :=
  if r.max ≤ r.min then some AdjustmentSet.neutralValue
  else do
    let offset ← wide? (r.offset raw)
    let product ← wide? (offset * scaleMax)
    let extent ← wide? (r.max - r.min)
    let quotient ← wideQuotient? product extent
    return UInt32.ofNat quotient.toNat

/-- The value of the scale falls on a whole step of the range. -/
def Exact (r : ControlRange) (value : UInt32) : Prop :=
  scaleMax ∣ value.toNat * (r.max - r.min)

instance (r : ControlRange) (value : UInt32) : Decidable (r.Exact value) :=
  inferInstanceAs (Decidable (_ ∣ _))

variable {r : ControlRange} {value : UInt32} {raw : Int}

/-! ## Onto the range -/

theorem onScale_mul_bounds (hrange : r.min ≤ r.max) (value : UInt32) :
    0 ≤ onScale value * (r.max - r.min) ∧
      onScale value * (r.max - r.min) ≤ 255 * (r.max - r.min) := by
  obtain ⟨hlow, hhigh⟩ := onScale_bounds value
  have hextent : 0 ≤ r.max - r.min := by omega
  constructor
  · exact Int.mul_nonneg hlow hextent
  · exact Int.mul_le_mul_of_nonneg_right hhigh hextent

/-- The mapping onto the range, with a quotient that is rounded down. -/
theorem toDevice_eq_ediv (hrange : r.min ≤ r.max) (value : UInt32) :
    r.toDevice value = r.min + onScale value * (r.max - r.min) / 255 := by
  obtain ⟨hlow, -⟩ := onScale_mul_bounds hrange value
  rw [← Int.tdiv_eq_ediv_of_nonneg hlow]
  rfl

/-- Whatever the value, the mapping does not leave the range. -/
theorem toDevice_between (hrange : r.min ≤ r.max) (value : UInt32) :
    r.min ≤ r.toDevice value ∧ r.toDevice value ≤ r.max := by
  obtain ⟨hlow, hhigh⟩ := onScale_mul_bounds hrange value
  rw [toDevice_eq_ediv hrange]
  omega

/-- How far above its lower end a value falls in the range. -/
theorem toDevice_bounds (hrange : r.min ≤ r.max) (hvalue : value.toNat ≤ 255) :
    ∃ offset, r.toDevice value = r.min + offset ∧ 0 ≤ offset ∧ offset ≤ r.max - r.min ∧
      255 * offset ≤ value.toNat * (r.max - r.min) ∧
      value.toNat * (r.max - r.min) < 255 * offset + 255 := by
  obtain ⟨hproduct, hbelow⟩ := onScale_mul_bounds hrange value
  have hraw := toDevice_eq_ediv hrange value
  rw [onScale_eq hvalue] at hproduct hbelow hraw
  exact ⟨value.toNat * (r.max - r.min) / 255, hraw, by omega, by omega, by omega, by omega⟩

/-! ## Onto the scale -/

theorem offset_bounds (hrange : r.min ≤ r.max) (raw : Int) :
    0 ≤ r.offset raw ∧ r.offset raw ≤ r.max - r.min := by
  unfold offset
  omega

theorem fromDevice_of_flat (h : r.max ≤ r.min) (raw : Int) :
    r.fromDevice raw = AdjustmentSet.neutralValue := if_pos h

/-! ## In 64 bits -/

theorem toDevice?_eq (hnarrow : r.Narrow) (hrange : r.min ≤ r.max) (value : UInt32) :
    r.toDevice? value = some (r.toDevice value) := by
  obtain ⟨hmin, hmax, hproduct⟩ := hnarrow
  unfold scaleMax at hproduct
  obtain ⟨hlow, hhigh⟩ := onScale_mul_bounds hrange value
  obtain ⟨hbottom, htop⟩ := toDevice_between hrange value
  have hextent : wide? (r.max - r.min) = some (r.max - r.min) :=
    wide?_of_between (by omega) (by omega)
  have hwide := wide?_of_between (n := onScale value * (r.max - r.min)) (by omega) (by omega)
  have hquotient := wideQuotient?_of_wide (b := scaleMax) (by decide) hlow (by omega)
  have hresult := wide?_of_between (n := r.toDevice value) (by omega) (by omega)
  simp only [toDevice?, Option.bind_eq_bind, hextent, Option.bind_some, hwide, hquotient]
  exact hresult

/-- Back in the numbers of 64 bits, whatever the control holds. -/
theorem fromDevice?_eq (hnarrow : r.Narrow) (raw : Int) :
    r.fromDevice? raw = some (r.fromDevice raw) := by
  obtain ⟨hmin, hmax, hproduct⟩ := hnarrow
  unfold scaleMax at hproduct
  unfold fromDevice?
  split
  · rename_i hflat
    rw [fromDevice_of_flat hflat]
  · rename_i hproper
    obtain ⟨hlow, hhigh⟩ := offset_bounds (r := r) (by omega) raw
    have hoffset := wide?_of_between (n := r.offset raw) (by omega) (by omega)
    have hwide := wide?_of_between (n := r.offset raw * 255) (by omega) (by omega)
    have hextent : wide? (r.max - r.min) = some (r.max - r.min) :=
      wide?_of_between (by omega) (by omega)
    have hquotient := wideQuotient?_of_wide (a := r.offset raw * 255) (b := r.max - r.min)
      (by omega) (by omega) (by omega)
    simp only [hoffset, Option.bind_eq_bind, Option.bind_some, scaleMax, hwide, hextent, hquotient]
    exact congrArg some (if_neg hproper).symm

/-! ## Back again -/

/-- What a value within the range is mapped to. -/
theorem fromDevice_of_offset {offset : Int} {n : Nat} (hrange : r.min < r.max) (hlow : 0 ≤ offset)
    (hhigh : offset ≤ r.max - r.min) (hfloor : n * (r.max - r.min) ≤ 255 * offset)
    (hnext : 255 * offset < (n + 1) * (r.max - r.min)) :
    r.fromDevice (r.min + offset) = UInt32.ofNat n := by
  have hclamped : Max.max r.min (Min.min (r.min + offset) r.max) - r.min = offset := by omega
  have hquotient : Int.tdiv (offset * scaleMax) (r.max - r.min) = n := by
    rw [scaleMax, Int.tdiv_eq_ediv_of_nonneg (by omega), Int.ediv_eq_iff_of_pos (by omega)]
    constructor <;> linarith
  rw [fromDevice, if_neg (by omega)]
  simp only [hclamped, hquotient, Int.toNat_natCast]

/-- A range with a step for every step of the scale gives a value back as it was if it falls on a whole
step of the range, and as the value below if not. -/
theorem fromDevice_toDevice (hextent : 255 ≤ r.max - r.min) (hvalue : value.toNat ≤ 255) :
    r.fromDevice (r.toDevice value) = if r.Exact value then value else value - 1 := by
  have hrange : r.min < r.max := by omega
  obtain ⟨offset, hraw, hlow, hhigh, hfloor, hnext⟩ := toDevice_bounds hrange.le hvalue
  rw [hraw]
  split
  · rename_i hexact
    obtain ⟨k, hk⟩ : (255 : Int) ∣ value.toNat * (r.max - r.min) := hexact
    have hsame : 255 * offset = value.toNat * (r.max - r.min) := by omega
    have hback := fromDevice_of_offset (n := value.toNat) hrange hlow hhigh hsame.ge (by linarith)
    rwa [UInt32.ofNat_toNat] at hback
  · rename_i hexact
    have hbelow : 255 * offset < value.toNat * (r.max - r.min) :=
      lt_of_le_of_ne hfloor fun hsame => hexact ⟨offset, hsame.symm⟩
    -- nothing is lost at the lower end, so there is a value below
    have hpos : value.toNat ≠ 0 := by
      intro hzero
      rw [hzero] at hfloor hbelow
      omega
    obtain ⟨n, hn⟩ : ∃ n, value.toNat = n + 1 := ⟨value.toNat - 1, by omega⟩
    have hsplit : (value.toNat : Int) * (r.max - r.min) =
        n * (r.max - r.min) + (r.max - r.min) := by
      rw [hn]
      push_cast
      linarith
    have hback := fromDevice_of_offset (n := n) hrange hlow hhigh (by omega) (by linarith)
    have hless : value - 1 = UInt32.ofNat n := by
      apply UInt32.toNat_inj.mp
      have hone : (1 : UInt32) ≤ value := by
        rw [UInt32.le_iff_toNat_le]
        exact Nat.pos_of_ne_zero hpos
      rw [UInt32.toNat_sub_of_le _ _ hone, hn, UInt32.toNat_ofNat_of_lt' (show n < 4294967296 by omega)]
      rfl
    rw [hback, hless]

/-- A value comes back as it was exactly if it falls on a whole step. -/
theorem fromDevice_toDevice_eq_iff (hextent : 255 ≤ r.max - r.min) (hvalue : value.toNat ≤ 255) :
    r.fromDevice (r.toDevice value) = value ↔ r.Exact value := by
  rw [fromDevice_toDevice hextent hvalue]
  split
  · rename_i hexact
    simp only [hexact]
  · rename_i hexact
    simp only [hexact, iff_false]
    intro hsame
    have hone : (1 : UInt32) = 0 := by grind
    exact absurd hone (by decide)

/-- All values of the scale come back as they were exactly if the steps of the scale divide the
range. -/
theorem forall_fromDevice_toDevice_iff (hextent : 255 ≤ r.max - r.min) :
    (∀ value : UInt32, value.toNat ≤ 255 → r.fromDevice (r.toDevice value) = value) ↔
      scaleMax ∣ r.max - r.min := by
  constructor
  · intro hall
    have hone : r.Exact 1 :=
      (fromDevice_toDevice_eq_iff hextent (by decide)).mp (hall 1 (by decide))
    simpa [Exact] using hone
  · intro hdivides value hvalue
    exact (fromDevice_toDevice_eq_iff hextent hvalue).mpr (hdivides.mul_left _)

end ControlRange

end VideoCapture.V4L2
