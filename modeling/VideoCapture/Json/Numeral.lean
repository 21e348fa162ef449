/-!
# Numerals

A JSON number as it is written, and what it means to a reader that keeps integers of 64 bits exactly
and everything else in double precision.

## Main definitions

* `Numeral` — sign, digits, fraction digits and exponent as written.
* `Numeral.reading` — an integer, a number with a fraction, or a number beyond double precision.
-/

namespace VideoCapture.Json

/-- A number as it is written. The whole part has no leading zeros. -/
structure Numeral where
  negative : Bool
  whole : List Nat
  /-- The digits after the point; empty when there is no point. -/
  fraction : List Nat
  /-- Whether the exponent is negative, and its digits. -/
  exponent : Option (Bool × List Nat)
  deriving DecidableEq

namespace Numeral

/-- What a numeral means to a reader. -/
inductive Reading where
  | integer (n : Int)
  | floating
  | beyond
  deriving DecidableEq

/-- The number written by decimal digits, the most significant first. -/
def ofDigits (digits : List Nat) : Nat := digits.foldl (fun n d => n * 10 + d) 0

def digitsOf (n : Nat) : List Nat := (Nat.toDigits 10 n).map fun c => c.toNat - '0'.toNat

def ofNat (n : Nat) : Numeral := ⟨false, digitsOf n, [], none⟩

/-- The greatest significand that is kept while digits are read. -/
def significandMax : Nat := 0xFFFFFFFFFFFFFFFF

/-- Appends digits to a significand while it stays within 64 bits; also says how many digits were
left over. -/
def keepDigits (significand : Nat) : List Nat → Nat × Nat
  | [] => (significand, 0)
  | d :: rest =>
    if significand * 10 + d ≤ significandMax then keepDigits (significand * 10 + d) rest
    else (significand, rest.length + 1)

/-- A natural number rounded to 53 significant bits, a tie going to the even neighbour. -/
def roundToDouble (n : Nat) : Nat :=
  let shift := n.log2 + 1 - 53
  let unit := Nat.pow 2 shift
  let low := n / unit
  let rest := n % unit
  if 2 * rest < unit ∨ (2 * rest = unit ∧ low % 2 = 0) then low * unit else (low + 1) * unit

/-- Whether `significand * 10 ^ exponent`, computed in double precision, is infinite. -/
def overflows (significand : Nat) (exponent : Int) : Bool :=
  if significand = 0 ∨ exponent < 0 then false
  else if 308 < exponent then true
  else
    Nat.pow 2 1024 ≤
      roundToDouble (roundToDouble significand * roundToDouble (Nat.pow 10 exponent.toNat))

/-- The greatest exponent that is read digit by digit. -/
def exponentMax : Nat := 0x7FFFFFFF

/-- Whether a numeral read in double precision is infinite. -/
def isBeyond (n : Numeral) : Bool :=
  let (head, dropped) := keepDigits 0 n.whole
  let (significand, left) := keepDigits head n.fraction
  let shift : Int := (dropped : Int) - ((n.fraction.length - left : Nat) : Int)
  match n.exponent with
  | none => overflows significand shift
  | some (negative, digits) =>
    let size := ofDigits digits
    if exponentMax < size then significand != 0 && !negative
    else overflows significand (if negative then shift - size else shift + size)

/-- The greatest size of a negative integer that is kept exactly. -/
def negativeMax : Nat := 0x8000000000000000

/-- What a numeral means: integers of 64 bits, signed or not, are kept exactly; negative zero is a
number with a fraction. -/
def reading (n : Numeral) : Reading :=
  let size := ofDigits n.whole
  if n.fraction = [] ∧ n.exponent = none ∧ !n.negative ∧ size ≤ significandMax then
    .integer size
  else if n.fraction = [] ∧ n.exponent = none ∧ n.negative ∧ 0 < size ∧
      size ≤ negativeMax then
    .integer (-size)
  else if n.isBeyond then .beyond
  else .floating

end Numeral

end VideoCapture.Json
