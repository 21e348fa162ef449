import VideoCapture.Json.Value

/-!
# Printing JSON values

Values over several lines: every item and every entry on a line of its own, two blanks deeper than
the bracket around it.

## Main definitions

* `quotedText` — a string between quotes, with the fewest escapes.
* `Value.pretty` — a value at a given depth.
-/

namespace VideoCapture.Json

def hexDigit (n : Nat) : Char := Char.ofNat (if n < 10 then '0'.toNat + n else 'a'.toNat + n - 10)

/-- The characters that stand for `c` inside quotes: quotes, backslashes and control characters are
escaped, the last by a letter where there is one. -/
def escapedChar (c : Char) : List Char :=
  match c with
  | '"' => ['\\', '"']
  | '\\' => ['\\', '\\']
  | '\x08' => ['\\', 'b']
  | '\x0c' => ['\\', 'f']
  | '\n' => ['\\', 'n']
  | '\r' => ['\\', 'r']
  | '\t' => ['\\', 't']
  | _ =>
    if c < ' ' then ['\\', 'u', '0', '0', hexDigit (c.toNat / 16), hexDigit (c.toNat % 16)]
    else [c]

def quotedText (s : List Char) : List Char := '"' :: s.flatMap escapedChar ++ ['"']

def digitChar (d : Nat) : Char := Char.ofNat ('0'.toNat + d)

def Numeral.print (n : Numeral) : List Char :=
  let sign := if n.negative then ['-'] else []
  let fraction := if n.fraction = [] then [] else '.' :: n.fraction.map digitChar
  let exponent :=
    match n.exponent with
    | none => []
    | some (negative, digits) => 'e' :: (if negative then ['-'] else []) ++ digits.map digitChar
  sign ++ n.whole.map digitChar ++ fraction ++ exponent

def newLine (depth : Nat) : List Char := '\n' :: List.replicate (2 * depth) ' '

mutual

/-- A value at the given depth. A string without a text and a missing value print as nothing. -/
def Value.pretty (depth : Nat) : Value → List Char
  | .null => ['n', 'u', 'l', 'l']
  | .boolean true => ['t', 'r', 'u', 'e']
  | .boolean false => ['f', 'a', 'l', 's', 'e']
  | .numeral n => n.print
  | .text s => s.elim [] fun s => quotedText s.toList
  | .list items _ => '[' :: prettyItems (depth + 1) true items ++ [']']
  | .record entries _ => '\x7b' :: prettyEntries (depth + 1) true entries ++ ['\x7d']
  | .broken => []

/-- Items after the opening bracket, up to the line of the closing one. -/
def prettyItems (depth : Nat) (first : Bool) : List Value → List Char
  | [] => if first then [] else newLine (depth - 1)
  | v :: rest =>
    (if first then [] else [',']) ++ newLine depth ++ v.pretty depth
      ++ prettyItems depth false rest

/-- Entries after the opening bracket, up to the line of the closing one. -/
def prettyEntries (depth : Nat) (first : Bool) : List (Option String × Value) → List Char
  | [] => if first then [] else newLine (depth - 1)
  | (key, v) :: rest =>
    (if first then [] else [',']) ++ newLine depth
      ++ (key.elim [] fun key => quotedText key.toList) ++ [':', ' '] ++ v.pretty depth
      ++ prettyEntries depth false rest

end

end VideoCapture.Json
