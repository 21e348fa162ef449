import VideoCapture.Json.Numeral

/-!
# JSON tokens

Splitting a text into JSON tokens, one character at a time. Where the text stops being JSON the
tokens end with a `bad` one, so whatever stands before it can still be looked at.

## Main definitions

* `Token` — brackets, separators, words, numerals and strings.
* `Scan` — where the scanner stands between two characters.
* `Scan.feed` — one character: the tokens it completes and where the scanner stands then.
* `tokens` — the tokens of a text.
-/

namespace VideoCapture.Json

/-- A token of a JSON text. A string whose surrogate escapes do not pair up has no text. -/
inductive Token where
  | braceOpen
  | braceClose
  | bracketOpen
  | bracketClose
  | colon
  | comma
  | null
  | boolean (b : Bool)
  | numeral (n : Numeral)
  | text (s : Option String)
  | bad
  deriving DecidableEq

/-- How far a numeral has been read. -/
inductive Stage where
  /-- After the sign: a digit is due. -/
  | sign
  /-- After a leading zero: no further digit may follow. -/
  | zero
  | whole
  /-- After the point: a digit is due. -/
  | point
  | fraction
  /-- After the exponent mark: a sign or a digit is due. -/
  | mark
  /-- After the sign of the exponent: a digit is due. -/
  | markSign
  | exponent
  deriving DecidableEq

/-- What has been read of a string: its characters, the last one first, whether its surrogate
escapes pair up so far, and a leading surrogate that waits for its partner. -/
structure Draft where
  written : List Char
  paired : Bool
  high : Option Nat
  deriving DecidableEq

namespace Draft

def empty : Draft := ⟨[], true, none⟩

def push (d : Draft) (c : Char) : Draft := ⟨c :: d.written, d.paired && d.high.isNone, none⟩

/-- The character that two surrogates stand for. -/
def joined (high low : Nat) : Char := Char.ofNat (0x10000 + (high - 0xD800) * 0x400 + (low - 0xDC00))

/-- One more code unit, written as an escape. -/
def pushUnit (d : Draft) (unit : Nat) : Draft :=
  if 0xD800 ≤ unit ∧ unit ≤ 0xDBFF then ⟨d.written, d.paired && d.high.isNone, some unit⟩
  else if 0xDC00 ≤ unit ∧ unit ≤ 0xDFFF then
    match d.high with
    | some high => ⟨joined high unit :: d.written, d.paired, none⟩
    | none => ⟨d.written, false, none⟩
  else d.push (Char.ofNat unit)

/-- The text of a string that ends here. -/
def text (d : Draft) : Option String :=
  if d.paired && d.high.isNone then some (String.ofList d.written.reverse) else none

end Draft

/-- Where the scanner stands between two characters. -/
inductive Scan where
  | start
  /-- In a word: the letters still due, and the token it makes. -/
  | word (due : List Char) (token : Token)
  | string (d : Draft)
  /-- After a backslash. -/
  | escape (d : Draft)
  /-- In the four digits of a code unit: how many are still due, and the value so far. -/
  | unit (d : Draft) (due : Nat) (value : Nat)
  /-- In a numeral. -/
  | numeral (n : Numeral) (stage : Stage)
  /-- After the end of the JSON. -/
  | stopped
  deriving DecidableEq

def decimal? (c : Char) : Option Nat :=
  if '0' ≤ c ∧ c ≤ '9' then some (c.toNat - '0'.toNat) else none

/-- The value of a hexadecimal digit of either case. -/
def hexadecimal? (c : Char) : Option Nat :=
  if '0' ≤ c ∧ c ≤ '9' then some (c.toNat - '0'.toNat)
  else if 'a' ≤ c ∧ c ≤ 'f' then some (c.toNat - 'a'.toNat + 10)
  else if 'A' ≤ c ∧ c ≤ 'F' then some (c.toNat - 'A'.toNat + 10)
  else none

/-- The character that a one-letter escape stands for. -/
def escaped? (c : Char) : Option Char :=
  match c with
  | '"' => some '"'
  | '\\' => some '\\'
  | '/' => some '/'
  | 'b' => some '\x08'
  | 'f' => some '\x0c'
  | 'n' => some '\n'
  | 'r' => some '\r'
  | 't' => some '\t'
  | _ => none

def isBlank (c : Char) : Bool := c = ' ' || c = '\n' || c = '\t' || c = '\r'

/-- Where the text stops being JSON. -/
def stop : List Token × Scan := ([.bad], .stopped)

/-- The first character of a token. -/
def begin (c : Char) : List Token × Scan :=
  if isBlank c then ([], .start)
  else
    match c with
    | '\x7b' => ([.braceOpen], .start)
    | '\x7d' => ([.braceClose], .start)
    | '[' => ([.bracketOpen], .start)
    | ']' => ([.bracketClose], .start)
    | ':' => ([.colon], .start)
    | ',' => ([.comma], .start)
    | '"' => ([], .string Draft.empty)
    | '-' => ([], .numeral ⟨true, [], [], none⟩ .sign)
    | 'n' => ([], .word ['u', 'l', 'l'] .null)
    | 't' => ([], .word ['r', 'u', 'e'] (.boolean true))
    | 'f' => ([], .word ['a', 'l', 's', 'e'] (.boolean false))
    | _ =>
      match decimal? c with
      | some 0 => ([], .numeral ⟨false, [0], [], none⟩ .zero)
      | some d => ([], .numeral ⟨false, [d], [], none⟩ .whole)
      | none => stop

/-- The numeral with one more digit of its exponent. -/
def pushExponent (n : Numeral) (d : Nat) : Numeral :=
  match n.exponent with
  | some (negative, digits) => { n with exponent := some (negative, digits ++ [d]) }
  | none => { n with exponent := some (false, [d]) }

/-- A character inside a numeral at the given stage. A character that cannot belong to a complete
numeral ends it and begins the next token. -/
def feedNumeral (n : Numeral) (stage : Stage) (c : Char) : List Token × Scan :=
  let done := let (ts, next) := begin c; (.numeral n :: ts, next)
  let mark : List Token × Scan := ([], .numeral { n with exponent := some (false, []) } .mark)
  let point : List Token × Scan := ([], .numeral n .point)
  let isMark := c = 'e' || c = 'E'
  match stage, decimal? c with
  | .sign, some 0 => ([], .numeral { n with whole := [0] } .zero)
  | .sign, some d => ([], .numeral { n with whole := [d] } .whole)
  | .sign, none => stop
  | .zero, some _ => stop
  | .zero, none => if c = '.' then point else if isMark then mark else done
  | .whole, some d => ([], .numeral { n with whole := n.whole ++ [d] } .whole)
  | .whole, none => if c = '.' then point else if isMark then mark else done
  | .point, some d => ([], .numeral { n with fraction := [d] } .fraction)
  | .point, none => stop
  | .fraction, some d => ([], .numeral { n with fraction := n.fraction ++ [d] } .fraction)
  | .fraction, none => if isMark then mark else done
  | .mark, some d => ([], .numeral (pushExponent n d) .exponent)
  | .mark, none =>
    if c = '+' then ([], .numeral n .markSign)
    else if c = '-' then ([], .numeral { n with exponent := some (true, []) } .markSign)
    else stop
  | .markSign, some d => ([], .numeral (pushExponent n d) .exponent)
  | .markSign, none => stop
  | .exponent, some d => ([], .numeral (pushExponent n d) .exponent)
  | .exponent, none => done

namespace Scan

/-- One character: the tokens it completes, and where the scanner stands then. -/
def feed : Scan → Char → List Token × Scan
  | start, c => begin c
  | word [] _, _ => stop
  | word [last] token, c => if c = last then ([token], start) else stop
  | word (next :: due) token, c => if c = next then ([], word due token) else stop
  | string d, c =>
    if c = '"' then ([.text d.text], start)
    else if c = '\\' then ([], escape d)
    else if c < ' ' then stop
    else ([], string (d.push c))
  | escape d, c =>
    if c = 'u' then ([], unit d 4 0)
    else
      match escaped? c with
      | some e => ([], string (d.push e))
      | none => stop
  | unit d due value, c =>
    match hexadecimal? c with
    | none => stop
    | some digit =>
      let next := value * 16 + digit
      if due ≤ 1 then ([], string (d.pushUnit next)) else ([], unit d (due - 1) next)
  | numeral n stage, c => feedNumeral n stage c
  | stopped, _ => ([], stopped)

/-- The tokens completed by the end of the text. -/
def finish : Scan → List Token
  | start => []
  | numeral n stage =>
    if stage = .zero ∨ stage = .whole ∨ stage = .fraction ∨ stage = .exponent then [.numeral n]
    else [.bad]
  | stopped => []
  | _ => [.bad]

/-- The tokens of the rest of a text. -/
def run : Scan → List Char → List Token
  | s, [] => s.finish
  | s, c :: rest =>
    let (ts, next) := s.feed c
    ts ++ next.run rest

end Scan

def tokens (text : String) : List Token := Scan.start.run text.toList

end VideoCapture.Json
