/-!
# Cutting texts

Lines, and the two sides of the first separator.

## Main definitions

* `lines` — the lines of a text without their ends.
* `splitOnce` — what stands before and after the first occurrence of a separator.
* `word?` — a number of 32 bits in decimal, with an optional plus sign.
-/

namespace VideoCapture.Text

/-- A line that ended with a line feed, without a carriage return before it. -/
def chomp (line : List Char) : List Char :=
  if line.getLast? = some '\r' then line.dropLast else line

/-- The lines of a text, `acc` being what has been read of the current one, last character first. A
text that ends with a line feed has no empty line after it. -/
def linesFrom (acc : List Char) : List Char → List (List Char)
  | [] => if acc = [] then [] else [acc.reverse]
  | c :: rest =>
    if c = '\n' then chomp acc.reverse :: linesFrom [] rest else linesFrom (c :: acc) rest

def lines (text : List Char) : List (List Char) := linesFrom [] text

/-- What stands before and after the first occurrence of `separator`. -/
def splitOnce (separator : List Char) : List Char → Option (List Char × List Char)
  | [] => if separator = [] then some ([], []) else none
  | c :: rest =>
    if separator.isPrefixOf (c :: rest) then some ([], (c :: rest).drop separator.length)
    else (splitOnce separator rest).map fun parts => (c :: parts.1, parts.2)

/-- The value of decimal digits, if there is nothing else; `n` is the value of the digits before. -/
def decimalFrom (n : Nat) : List Char → Option Nat
  | [] => some n
  | c :: rest =>
    if '0' ≤ c ∧ c ≤ '9' then decimalFrom (n * 10 + (c.toNat - '0'.toNat)) rest else none

/-- A number of 32 bits: decimal digits, after a plus sign or not. -/
def word? (s : List Char) : Option UInt32 :=
  let digits :=
    match s with
    | '+' :: rest => rest
    | _ => s
  if digits = [] then none
  else
    match decimalFrom 0 digits with
    | some n => if n < 0x100000000 then some (UInt32.ofNat n) else none
    | none => none

end VideoCapture.Text
