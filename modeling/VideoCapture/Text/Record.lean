import VideoCapture.Text.Hidden

/-!
# One-line text of values

The text of a value on one line: numbers and names as they are, strings in quotes, a record as
its name followed by its fields between braces.

## Main definitions

* `Text.quoted` — a string in quotes; quotes, backslashes, line breaks and hidden characters are
  escaped.
* `Text.record`, `Text.tuple`, `Text.sequence`, `Text.optional` — the text of compound values.
* `Text.duration` — a span of milliseconds in the largest unit that keeps it readable.
-/

namespace VideoCapture.Text

/-- Opening brace, written by its code because braces in a string stand for interpolation. -/
def openBrace : String := "\x7b"

def closeBrace : String := "\x7d"

/-- The characters that stand for `c` inside quotes. -/
def quotedChar (c : Char) : List Char :=
  if c = '"' then ['\\', '"']
  else if c = '\\' then ['\\', '\\']
  else if c = '\n' then ['\\', 'n']
  else if c = '\r' then ['\\', 'r']
  else if c = '\t' then ['\\', 't']
  else if c = '\x00' then ['\\', '0']
  else if isHidden c then
    ['\\', 'u', '\x7b'] ++ Nat.toDigits 16 c.toNat ++ ['\x7d']
  else [c]

def quoted (s : String) : String :=
  String.ofList ('"' :: s.toList.flatMap quotedChar ++ ['"'])

def boolean (b : Bool) : String := if b then "true" else "false"

/-- A record: its name, then `field: value` pairs between braces. -/
def record (name : String) (fields : List (String × String)) : String :=
  let body := fields.map fun f => f.1 ++ ": " ++ f.2
  name ++ " " ++ openBrace ++ " " ++ ", ".intercalate body ++ " " ++ closeBrace

/-- A tuple of values between round brackets. -/
def tuple (values : List String) : String := "(" ++ ", ".intercalate values ++ ")"

/-- A list of values between square brackets. -/
def sequence (values : List String) : String := "[" ++ ", ".intercalate values ++ "]"

/-- `None`, or `Some` around the text of the value. -/
def optional {α : Type} (text : α → String) : Option α → String
  | none => "None"
  | some value => "Some(" ++ text value ++ ")"

/-- The digits of the fraction `n / 10 ^ places`, without trailing zeros. -/
def fractionDigits (places n : Nat) : List Char :=
  let digits := (Nat.toDigits 10 n)
  let padded := List.replicate (places - digits.length) '0' ++ digits
  (padded.reverse.dropWhile (· = '0')).reverse

/-- A span of `ms` milliseconds: zero in nanoseconds, below one second in milliseconds, else in
seconds with the fewest decimals that say it exactly. -/
def duration (ms : Nat) : String :=
  if ms = 0 then "0ns"
  else if ms < 1000 then toString ms ++ "ms"
  else
    match fractionDigits 3 (ms % 1000) with
    | [] => toString (ms / 1000) ++ "s"
    | digits => toString (ms / 1000) ++ "." ++ String.ofList digits ++ "s"

end VideoCapture.Text
