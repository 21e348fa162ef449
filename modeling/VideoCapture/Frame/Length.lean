import VideoCapture.Frame

/-!
# Lengths in memory

The length of a frame is computed in unsigned numbers of 64 bits, and a buffer has less room than these
can count. Every step is checked. One that leaves the numbers, or that asks for more room than a buffer
can have, ends whatever it is a part of without a result.

## Main definitions

* `longLimit`, `roomLimit` — the bounds of the numbers of 64 bits and of the lengths of buffers.
* `long?` — a number of 64 bits, `room?` — a length that a buffer can have.
* `FrameSize.byteLength?`, `conversionLength?` — the length of a frame, for a size and for a conversion.
* `FrameSize.bufferLength?`, `FrameSize.fits` — the length of a buffer for a frame, and whether there is
  one.
* `chromaBases?` — where the chroma planes of a picture begin.

The main statements are `FrameSize.byteLength?_eq` and `conversionLength?_eq`: a computation of a length
fails only if the length itself is too large.
-/

namespace VideoCapture

/-- The numbers of 64 bits, all unsigned, are below this one. -/
def longLimit : Nat := 18446744073709551616

/-- Buffers have fewer bytes than this. Positions in a buffer can be subtracted, so that a buffer reaches
only half as far as the numbers of 64 bits. -/
def roomLimit : Nat := 9223372036854775808

/-- A number, if it is one of 64 bits. -/
def long? (n : Nat) : Option Nat := if n < longLimit then some n else none

/-- A length, if a buffer can have as many bytes. -/
def room? (n : Nat) : Option Nat := if n < roomLimit then some n else none

/-- The length of a frame as conversions compute it. -/
def conversionLength? (width height : Nat) : Option Nat := do
  let luma ← long? (width * height)
  let columns ← long? (2 * halfUp width)
  let chroma ← long? (columns * halfUp height)
  long? (luma + chroma)

/-- Where the two chroma planes of a picture begin that is painted plane by plane. -/
def chromaBases? (width height : Nat) : Option (Nat × Nat) := do
  let first ← long? (width * height)
  let chroma ← long? (halfUp width * halfUp height)
  let second ← long? (first + chroma)
  return (first, second)

namespace FrameSize

/-- Half of a width or height, rounded up without leaving the 32-bit range. -/
def halfUpWord (n : UInt32) : UInt32 := n / 2 + n % 2

/-- The length of a frame of a size. -/
def byteLength? (size : FrameSize) : Option Nat := do
  let luma ← long? (size.width.toNat * size.height.toNat)
  let chroma ← long? ((halfUpWord size.width).toNat * (halfUpWord size.height).toNat)
  let both ← long? (2 * chroma)
  long? (luma + both)

/-- The length of a buffer for a frame of a size. -/
def bufferLength? (size : FrameSize) : Option Nat := do room? (← size.byteLength?)

/-- Whether a buffer can hold a frame of the size. -/
def fits (size : FrameSize) : Bool := size.bufferLength?.isSome

end FrameSize

/-! ## Steps that are checked -/

section Steps

variable {n a b : Nat}

theorem two_mul_roomLimit : 2 * roomLimit = longLimit := rfl

theorem roomLimit_lt_longLimit : roomLimit < longLimit := by decide

theorem long?_of_lt (h : n < longLimit) : long? n = some n := if_pos h

theorem room?_of_lt (h : n < roomLimit) : room? n = some n := if_pos h

/-- A step of a computation that only grows fails only if the computation has to fail. -/
theorem bind_long? {next : Nat → Option Nat} (hle : a ≤ b) (hnext : next a = long? b) :
    (long? a).bind next = long? b := by
  unfold long? at hnext ⊢
  split
  · exact hnext
  · rw [if_neg (by omega)]
    rfl

/-- A length that is no number of 64 bits is no length of a buffer either. -/
theorem bind_room? (n : Nat) : (long? n).bind room? = room? n := by
  have hlimit := roomLimit_lt_longLimit
  unfold long? room?
  split
  · rfl
  · rw [if_neg (by omega)]
    rfl

end Steps

/-! ## Lengths -/

/-- The length of a conversion, whose columns of chroma are counted for both planes first. -/
theorem conversionLength?_eq (width height : Nat) :
    conversionLength? width height =
      if 2 * halfUp width < longLimit then long? (planarLength width height) else none := by
  have hchroma : 2 * halfUp width * halfUp height = 2 * (halfUp width * halfUp height) :=
    Nat.mul_assoc ..
  unfold conversionLength?
  split
  · rename_i hcolumns
    apply bind_long? (Nat.le_add_right ..)
    rw [long?_of_lt hcolumns]
    apply bind_long?
    · omega
    · exact congrArg (fun chroma => long? (width * height + chroma)) hchroma
  · rename_i hcolumns
    have hnone : long? (2 * halfUp width) = none := if_neg hcolumns
    rw [hnone]
    cases long? (width * height) <;> rfl

theorem chromaBases?_of_lt {width height : Nat} (h : planarLength width height < longLimit) :
    chromaBases? width height =
      some (width * height, width * height + halfUp width * halfUp height) := by
  unfold planarLength at h
  have hfirst : long? (width * height) = some (width * height) := long?_of_lt (by omega)
  have hchroma : long? (halfUp width * halfUp height) = some (halfUp width * halfUp height) :=
    long?_of_lt (by omega)
  have hsecond := long?_of_lt (show width * height + halfUp width * halfUp height < longLimit by omega)
  simp only [chromaBases?, hfirst, hchroma, hsecond, Option.bind_eq_bind, Option.bind_some,
    Option.pure_def]

namespace FrameSize

theorem toNat_halfUpWord (n : UInt32) : (halfUpWord n).toNat = halfUp n.toNat := by
  have hn := n.toNat_lt
  have htwo : (2 : UInt32).toNat = 2 := rfl
  unfold halfUpWord halfUp
  rw [UInt32.toNat_add, UInt32.toNat_div, UInt32.toNat_mod, htwo]
  omega

/-- The columns of a frame of a size can be counted for both chroma planes. -/
theorem columns_lt (size : FrameSize) : 2 * halfUp size.width.toNat < longLimit := by
  have hwidth := size.width.toNat_lt
  unfold halfUp longLimit
  omega

theorem byteLength?_eq (size : FrameSize) : size.byteLength? = long? size.byteLength := by
  unfold byteLength? byteLength
  rw [toNat_halfUpWord, toNat_halfUpWord]
  apply bind_long? (Nat.le_add_right ..)
  apply bind_long?
  · omega
  · exact bind_long? (Nat.le_add_left ..) rfl

theorem bufferLength?_eq (size : FrameSize) : size.bufferLength? = room? size.byteLength := by
  rw [bufferLength?, byteLength?_eq]
  exact bind_room? size.byteLength

theorem fits_iff (size : FrameSize) : size.fits = true ↔ size.byteLength < roomLimit := by
  rw [fits, bufferLength?_eq, room?]
  split <;> simp_all

theorem bufferLength?_of_fits {size : FrameSize} (h : size.fits = true) :
    size.bufferLength? = some size.byteLength := by
  rw [bufferLength?_eq, room?_of_lt (size.fits_iff.mp h)]

theorem bufferLength?_of_not_fits {size : FrameSize} (h : size.fits = false) :
    size.bufferLength? = none := by
  rw [fits] at h
  exact Option.not_isSome_iff_eq_none.mp (by simp [h])

end FrameSize

end VideoCapture
