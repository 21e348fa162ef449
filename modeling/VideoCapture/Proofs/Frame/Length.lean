import Mathlib.Algebra.Order.Floor.Div
import Mathlib.Tactic.Common
import VideoCapture.Frame.Length
import VideoCapture.Logo

/-!
# The length of a frame in 64 bits

The number of bytes of a planar frame is computed in three places: for a size, for a conversion, and
where the planes of a picture are painted. The three agree, and agree with the length itself, except for
sizes whose length is no number of 64 bits. Such sizes exist: there every one of the computations fails.

## Main definitions

* `lastPlaneEnd?` — where the last plane of a painted picture ends.

The main statement is `FrameSize.byteLength_exact`.
-/

namespace VideoCapture

/-- Where the last plane of a picture ends that is painted plane by plane. -/
def lastPlaneEnd? (width height : Nat) : Option Nat := do
  let bases ← chromaBases? width height
  long? (bases.2 + halfUp width * halfUp height)

/-- The two limits are powers of two. -/
theorem limits_eq : longLimit = 2 ^ 64 ∧ roomLimit = 2 ^ 63 := by decide

theorem halfUp_eq_ceilDiv (n : Nat) : halfUp n = n ⌈/⌉ 2 := by
  rw [Nat.ceilDiv_eq_add_pred_div]
  rfl

theorem lastPlaneEnd?_eq (width height : Nat) :
    lastPlaneEnd? width height = long? (planarLength width height) := by
  have hend : width * height + halfUp width * halfUp height + halfUp width * halfUp height =
      planarLength width height := by
    unfold planarLength
    omega
  unfold lastPlaneEnd? chromaBases?
  simp only [Option.bind_eq_bind, Option.bind_assoc, Option.pure_def, Option.bind_some]
  apply bind_long? (by omega)
  apply bind_long? (by omega)
  apply bind_long? (by omega)
  rw [hend]

namespace FrameSize

/-- The length of a frame with at most half as many pixels as there are numbers of 64 bits is one of
them. -/
theorem byteLength_lt {size : FrameSize} (h : size.width.toNat * size.height.toNat ≤ 2 ^ 63) :
    size.byteLength < 2 ^ 64 := by
  have hwidth := size.width.toNat_lt
  have hheight := size.height.toNat_lt
  have hcolumns : 2 * halfUp size.width.toNat ≤ size.width.toNat + 1 := by
    unfold halfUp
    omega
  have hrows : 2 * halfUp size.height.toNat ≤ size.height.toNat + 1 := by
    unfold halfUp
    omega
  have hchroma : 4 * (halfUp size.width.toNat * halfUp size.height.toNat) ≤
      size.width.toNat * size.height.toNat + size.width.toNat + size.height.toNat + 1 := by
    calc 4 * (halfUp size.width.toNat * halfUp size.height.toNat)
        = (2 * halfUp size.width.toNat) * (2 * halfUp size.height.toNat) := by
          rw [Nat.mul_mul_mul_comm]
      _ ≤ (size.width.toNat + 1) * (size.height.toNat + 1) := Nat.mul_le_mul hcolumns hrows
      _ = size.width.toNat * size.height.toNat + size.width.toNat + size.height.toNat + 1 := by
          rw [Nat.succ_mul, Nat.mul_succ]
          omega
  unfold byteLength planarLength
  omega

/-- For every size, the length is luma and two chroma planes of half the extent, rounded up. The
computations for a size, for a conversion and for the planes of a picture come to it exactly if it is a
number of 64 bits, and otherwise each of them fails. A picture has that many bytes, wherever its square
is. No length of a frame with at most `2 ^ 63` pixels is too large. -/
theorem byteLength_exact (size : FrameSize) :
    size.byteLength = size.width.toNat * size.height.toNat +
        2 * ((size.width.toNat ⌈/⌉ 2) * (size.height.toNat ⌈/⌉ 2)) ∧
      size.byteLength? = (if size.byteLength < 2 ^ 64 then some size.byteLength else none) ∧
      conversionLength? size.width.toNat size.height.toNat = size.byteLength? ∧
      lastPlaneEnd? size.width.toNat size.height.toNat = size.byteLength? ∧
      (∀ x y side : Nat,
        (Logo.draw size.width.toNat size.height.toNat x y side).size = size.byteLength) ∧
      (size.width.toNat * size.height.toNat ≤ 2 ^ 63 → size.byteLength < 2 ^ 64) := by
  refine ⟨?_, ?_, ?_, ?_, ?_, byteLength_lt⟩
  · rw [← halfUp_eq_ceilDiv, ← halfUp_eq_ceilDiv]
    rfl
  · rw [byteLength?_eq, long?, limits_eq.1]
  · rw [conversionLength?_eq, if_pos size.columns_lt, byteLength?_eq]
    rfl
  · rw [lastPlaneEnd?_eq, byteLength?_eq]
    rfl
  · intro x y side
    exact size_planar ..

/-- The length of the largest size is no number of 64 bits, so that no computation comes to it. -/
theorem largest_length_too_long :
    let size : FrameSize := ⟨4294967295, 4294967295⟩
    size.byteLength = 27670116101974392833 ∧ size.byteLength? = none ∧
      conversionLength? 4294967295 4294967295 = none ∧
      lastPlaneEnd? 4294967295 4294967295 = none := by
  decide

end FrameSize

end VideoCapture
