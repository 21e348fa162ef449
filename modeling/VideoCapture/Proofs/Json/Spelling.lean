import VideoCapture.Json.Printer
import Mathlib.Tactic.Common

/-!
# The spelling of tokens

How the tokens of a JSON text are written: the grammar of strings and numerals, and the blanks that may
stand between tokens. The scanner finds exactly the tokens that a text spells.

## Main definitions

* `SpellsString` — what stands between quotes, and the text that it makes.
* `Numeral.WellFormed`, `Numeral.Spells` — numerals and how they are written.
* `Token.Spells` — one token.
* `Spells` — the tokens of a whole text.

The main statement is `run_of_spells`.
-/

namespace VideoCapture.Json

/-! ## One character at a time -/

namespace Scan

variable {s next : Scan} {ts : List Token} {c : Char}

theorem run_cons (h : s.feed c = (ts, next)) (rest : List Char) :
    s.run (c :: rest) = ts ++ next.run rest := by
  rw [run, h]

/-- A character that completes no token. -/
theorem run_cons_of_nil (h : s.feed c = ([], next)) (rest : List Char) :
    s.run (c :: rest) = next.run rest := run_cons h rest

end Scan

/-! ## Strings -/

/-- The hexadecimal digits of either case by their value. -/
def IsHexDigit (d : Nat) (c : Char) : Prop :=
  ['0', '1', '2', '3', '4', '5', '6', '7', '8', '9', 'a', 'b', 'c', 'd', 'e', 'f'][d]? = some c ∨
    ['0', '1', '2', '3', '4', '5', '6', '7', '8', '9', 'A', 'B', 'C', 'D', 'E', 'F'][d]? = some c

/-- Four hexadecimal digits and the code unit that they make. -/
inductive SpellsUnit : Nat → List Char → Prop
  | digits {d₁ d₂ d₃ d₄ : Nat} {c₁ c₂ c₃ c₄ : Char} (h₁ : IsHexDigit d₁ c₁)
    (h₂ : IsHexDigit d₂ c₂) (h₃ : IsHexDigit d₃ c₃) (h₄ : IsHexDigit d₄ c₄) :
    SpellsUnit (((d₁ * 16 + d₂) * 16 + d₃) * 16 + d₄) [c₁, c₂, c₃, c₄]

/-- A backslash with one letter, and the character that it stands for. -/
def shortEscapes : List (Char × Char) :=
  [('"', '"'), ('\\', '\\'), ('/', '/'), ('b', '\x08'), ('f', '\x0c'), ('n', '\n'), ('r', '\r'),
    ('t', '\t')]

/-- The first half of a surrogate pair. -/
abbrev IsHighSurrogate (unit : Nat) : Prop := 0xD800 ≤ unit ∧ unit ≤ 0xDBFF

/-- The second half of a surrogate pair. -/
abbrev IsLowSurrogate (unit : Nat) : Prop := 0xDC00 ≤ unit ∧ unit ≤ 0xDFFF

/-- The escape of a code unit. -/
def unitEscape (digits : List Char) : List Char := '\\' :: 'u' :: digits

/-- The characters go on with the second half of a surrogate pair. -/
def BeginsLow (cs : List Char) : Prop :=
  ∃ unit digits rest, IsLowSurrogate unit ∧ SpellsUnit unit digits ∧
    cs = unitEscape digits ++ rest

/-- What stands between quotes, and the characters that it makes. A surrogate without its partner is
well-formed, but the string has no text then. -/
inductive SpellsString : Option (List Char) → List Char → Prop
  | nil : SpellsString (some []) []
  | plain {s : Option (List Char)} {cs : List Char} {c : Char} (hcontrol : ' ' ≤ c) (hquote : c ≠ '"')
    (hbackslash : c ≠ '\\') (h : SpellsString s cs) : SpellsString (s.map (c :: ·)) (c :: cs)
  | short {s : Option (List Char)} {cs : List Char} {letter c : Char}
    (hletter : (letter, c) ∈ shortEscapes) (h : SpellsString s cs) :
    SpellsString (s.map (c :: ·)) ('\\' :: letter :: cs)
  | unit {s : Option (List Char)} {cs digits : List Char} {c : Char}
    (hunit : SpellsUnit c.toNat digits) (h : SpellsString s cs) :
    SpellsString (s.map (c :: ·)) (unitEscape digits ++ cs)
  | pair {s : Option (List Char)} {cs digits digits' : List Char} {c : Char} {high low : Nat}
    (hhigh : SpellsUnit high digits) (isHigh : IsHighSurrogate high)
    (hlow : SpellsUnit low digits') (isLow : IsLowSurrogate low)
    (hc : c.toNat = 0x10000 + (high - 0xD800) * 0x400 + (low - 0xDC00)) (h : SpellsString s cs) :
    SpellsString (s.map (c :: ·)) (unitEscape digits ++ (unitEscape digits' ++ cs))
  | loneLow {s : Option (List Char)} {cs digits : List Char} {low : Nat}
    (hlow : SpellsUnit low digits) (isLow : IsLowSurrogate low) (h : SpellsString s cs) :
    SpellsString none (unitEscape digits ++ cs)
  | loneHigh {s : Option (List Char)} {cs digits : List Char} {high : Nat}
    (hhigh : SpellsUnit high digits) (isHigh : IsHighSurrogate high) (hlone : ¬ BeginsLow cs)
    (h : SpellsString s cs) : SpellsString none (unitEscape digits ++ cs)

theorem hexadecimal?_of_isHexDigit {d : Nat} {c : Char} (h : IsHexDigit d c) :
    hexadecimal? c = some d := by
  have hdigits (digits : List Char)
      (hall : ∀ p ∈ digits.zipIdx, hexadecimal? p.1 = some p.2) (hd : digits[d]? = some c) :
      hexadecimal? c = some d :=
    hall (c, d) (List.mem_zipIdx_iff_getElem?.mpr hd)
  rcases h with h | h
  · exact hdigits _ (by decide) h
  · exact hdigits _ (by decide) h

theorem escaped?_of_mem {letter c : Char} (h : (letter, c) ∈ shortEscapes) :
    letter ≠ 'u' ∧ escaped? letter = some c := by
  have hall : ∀ p ∈ shortEscapes, p.1 ≠ 'u' ∧ escaped? p.1 = some p.2 := by decide
  exact hall (letter, c) h

namespace Draft

/-- The text of a string of which `d` has been read and whose remaining characters are `s`. -/
def completed (d : Draft) (s : Option (List Char)) : Option String :=
  if d.paired && d.high.isNone then s.map fun s => String.ofList (d.written.reverse ++ s) else none

theorem completed_push (d : Draft) (c : Char) (s : Option (List Char)) :
    (d.push c).completed s = d.completed (s.map (c :: ·)) := by
  obtain ⟨written, paired, high⟩ := d
  cases paired <;> cases high <;> cases s <;> simp [completed, push]

theorem pushUnit_toNat (d : Draft) (c : Char) : d.pushUnit c.toNat = d.push c := by
  have hvalid : c.toNat.isValidChar := c.valid
  have hhigh : ¬ IsHighSurrogate c.toNat := by
    simp only [Nat.isValidChar] at hvalid
    omega
  have hlow : ¬ IsLowSurrogate c.toNat := by
    simp only [Nat.isValidChar] at hvalid
    omega
  rw [pushUnit, if_neg hhigh, if_neg hlow, Char.ofNat_toNat]

theorem pushUnit_high (d : Draft) {high : Nat} (h : IsHighSurrogate high) :
    d.pushUnit high = ⟨d.written, d.paired && d.high.isNone, some high⟩ := by
  rw [pushUnit, if_pos h]

theorem pushUnit_low {d : Draft} {high low : Nat} (hd : d.high = some high)
    (h : IsLowSurrogate low) : d.pushUnit low = ⟨joined high low :: d.written, d.paired, none⟩ := by
  have hhigh : ¬ IsHighSurrogate low := by omega
  simp only [pushUnit, if_neg hhigh, if_pos h, hd]

theorem pushUnit_loneLow {d : Draft} {low : Nat} (hd : d.high = none) (h : IsLowSurrogate low) :
    d.pushUnit low = ⟨d.written, false, none⟩ := by
  have hhigh : ¬ IsHighSurrogate low := by omega
  simp only [pushUnit, if_neg hhigh, if_pos h, hd]

end Draft

namespace Scan

theorem run_unitEscape (d : Draft) {unit : Nat} {digits : List Char} (h : SpellsUnit unit digits)
    (rest : List Char) :
    (string d).run (unitEscape digits ++ rest) = (string (d.pushUnit unit)).run rest := by
  obtain ⟨h₁, h₂, h₃, h₄⟩ := h
  simp [unitEscape, run, feed, hexadecimal?_of_isHexDigit h₁, hexadecimal?_of_isHexDigit h₂,
    hexadecimal?_of_isHexDigit h₃, hexadecimal?_of_isHexDigit h₄]

/-- The rest of a string and the quote behind it. -/
theorem run_string {s : Option (List Char)} {cs : List Char} (h : SpellsString s cs) (d : Draft)
    (hd : d.high = none ∨ ¬ BeginsLow cs) (rest : List Char) :
    (string d).run (cs ++ '"' :: rest) = .text (d.completed s) :: start.run rest := by
  induction h generalizing d with
  | nil =>
    have htext : d.text = d.completed (some []) := by simp [Draft.text, Draft.completed]
    have hquote : (string d).feed '"' = ([.text d.text], start) := by simp [feed]
    rw [List.nil_append, run_cons hquote, htext]
    rfl
  | @plain s cs c hcontrol hquote hbackslash _ ih =>
    have hfeed : (string d).feed c = ([], string (d.push c)) := by
      simp [feed, hquote, hbackslash, Char.not_lt.mpr hcontrol]
    rw [List.cons_append, run_cons_of_nil hfeed, ih (d.push c) (.inl rfl), Draft.completed_push]
  | @short s cs letter c hletter _ ih =>
    obtain ⟨hu, hescaped⟩ := escaped?_of_mem hletter
    have hbackslash : (string d).feed '\\' = ([], escape d) := by simp [feed]
    have hfeed : (escape d).feed letter = ([], string (d.push c)) := by simp [feed, hu, hescaped]
    rw [List.cons_append, List.cons_append, run_cons_of_nil hbackslash, run_cons_of_nil hfeed,
      ih (d.push c) (.inl rfl), Draft.completed_push]
  | @unit s cs digits c hunit _ ih =>
    rw [List.append_assoc, run_unitEscape d hunit, Draft.pushUnit_toNat, ih (d.push c) (.inl rfl),
      Draft.completed_push]
  | @pair s cs digits digits' c high low hhigh isHigh hlow isLow hc _ ih =>
    have hjoined : Draft.joined high low = c := by
      rw [Draft.joined, ← hc, Char.ofNat_toNat]
    rw [List.append_assoc, run_unitEscape d hhigh, List.append_assoc, run_unitEscape _ hlow,
      Draft.pushUnit_high d isHigh, Draft.pushUnit_low rfl isLow, ih _ (.inl rfl), hjoined,
      ← Draft.completed_push]
    rfl
  | @loneLow s cs digits low hlow isLow _ ih =>
    -- No first half waits, as the characters begin with a second half.
    have hnone : d.high = none :=
      hd.resolve_right (not_not_intro ⟨low, digits, cs, isLow, hlow, rfl⟩)
    rw [List.append_assoc, run_unitEscape d hlow, Draft.pushUnit_loneLow hnone isLow,
      ih _ (.inl rfl)]
    simp [Draft.completed]
  | @loneHigh s cs digits high hhigh isHigh hlone _ ih =>
    rw [List.append_assoc, run_unitEscape d hhigh, Draft.pushUnit_high d isHigh,
      ih _ (.inr hlone)]
    simp [Draft.completed]

end Scan

/-! ## Numerals -/

namespace Numeral

/-- The digits of a numeral are decimal, there is a whole part without a leading zero, and an exponent has
digits. -/
structure WellFormed (n : Numeral) : Prop where
  whole : n.whole = [0] ∨ n.whole ≠ [] ∧ n.whole.head? ≠ some 0
  wholeDigits : ∀ d ∈ n.whole, d < 10
  fractionDigits : ∀ d ∈ n.fraction, d < 10
  exponent : ∀ negative digits, n.exponent = some (negative, digits) →
    digits ≠ [] ∧ ∀ d ∈ digits, d < 10

/-- The sign of an exponent, which may be left out or written as a plus. -/
def SpellsSign (negative : Bool) (sign : List Char) : Prop :=
  if negative then sign = ['-'] else sign = [] ∨ sign = ['+']

inductive SpellsExponent : Option (Bool × List Nat) → List Char → Prop
  | absent : SpellsExponent none []
  | present {negative : Bool} {digits : List Nat} {mark : Char} {sign : List Char}
    (hmark : mark = 'e' ∨ mark = 'E') (hsign : SpellsSign negative sign) :
    SpellsExponent (some (negative, digits)) (mark :: sign ++ digits.map digitChar)

/-- How a numeral is written. -/
def Spells (n : Numeral) (cs : List Char) : Prop :=
  n.WellFormed ∧ ∃ exponent, SpellsExponent n.exponent exponent ∧
    cs = (if n.negative then ['-'] else []) ++ n.whole.map digitChar
      ++ (if n.fraction = [] then [] else '.' :: n.fraction.map digitChar) ++ exponent

end Numeral

/-- No numeral goes on with the characters. -/
def EndsNumeral (rest : List Char) : Prop :=
  ∀ c ∈ rest.head?, ¬ ('0' ≤ c ∧ c ≤ '9') ∧ c ≠ '.' ∧ c ≠ 'e' ∧ c ≠ 'E'

theorem decimal?_digitChar {d : Nat} (h : d < 10) : decimal? (digitChar d) = some d := by
  have hall : ∀ d < 10, decimal? (digitChar d) = some d := by decide
  exact hall d h

theorem feed_start_digitChar {d : Nat} (h : d < 10) (hd : d ≠ 0) :
    Scan.start.feed (digitChar d) = ([], .numeral ⟨false, [d], [], none⟩ .whole) := by
  have hall : ∀ d < 10, d ≠ 0 →
      Scan.start.feed (digitChar d) = ([], .numeral ⟨false, [d], [], none⟩ .whole) := by decide
  exact hall d h hd

namespace Scan

variable {n : Numeral} {stage : Stage}

/-- Digits that are taken one after the other at the same stage. -/
theorem run_digits {push : Numeral → Nat → Numeral}
    (hpush : ∀ n, ∀ d < 10, (numeral n stage).feed (digitChar d) = ([], numeral (push n d) stage))
    {digits : List Nat} (hdigits : ∀ d ∈ digits, d < 10) (n : Numeral) (rest : List Char) :
    (numeral n stage).run (digits.map digitChar ++ rest) =
      (numeral (digits.foldl push n) stage).run rest := by
  induction digits generalizing n with
  | nil => rfl
  | cons d digits ih =>
    rw [List.map_cons, List.cons_append, run_cons_of_nil (hpush n d (hdigits d List.mem_cons_self)),
      ih fun d' h => hdigits d' (List.mem_cons_of_mem d h)]
    rfl

/-- The stage after the whole part. -/
def wholeStage (whole : List Nat) : Stage := if whole = [0] then .zero else .whole

theorem run_wholeDigits (n : Numeral) {digits : List Nat} (hdigits : ∀ d ∈ digits, d < 10)
    (rest : List Char) :
    (numeral n .whole).run (digits.map digitChar ++ rest) =
      (numeral { n with whole := n.whole ++ digits } .whole).run rest := by
  have hpush (n : Numeral) (d : Nat) (hd : d < 10) :
      (numeral n .whole).feed (digitChar d) =
        ([], numeral { n with whole := n.whole ++ [d] } .whole) := by
    simp [feed, feedNumeral, decimal?_digitChar hd]
  have hfoldl (digits : List Nat) (n : Numeral) :
      digits.foldl (fun n d => { n with whole := n.whole ++ [d] }) n =
        { n with whole := n.whole ++ digits } := by
    induction digits generalizing n with
    | nil => simp
    | cons d digits ih => rw [List.foldl_cons, ih]; simp
  rw [run_digits hpush hdigits, hfoldl]

/-- The sign and the whole part. -/
theorem run_whole (negative : Bool) {whole : List Nat}
    (hwhole : whole = [0] ∨ whole ≠ [] ∧ whole.head? ≠ some 0) (hdigits : ∀ d ∈ whole, d < 10)
    (rest : List Char) :
    start.run ((if negative then ['-'] else []) ++ whole.map digitChar ++ rest) =
      (numeral ⟨negative, whole, [], none⟩ (wholeStage whole)).run rest := by
  cases hwhole with
  | inl h =>
    subst h
    cases negative <;> rfl
  | inr h =>
    obtain ⟨hne, hhead⟩ := h
    obtain ⟨d, digits, rfl⟩ := List.exists_cons_of_ne_nil hne
    have hd : d < 10 := hdigits d List.mem_cons_self
    have hd₀ : d ≠ 0 := by simpa using hhead
    have hmore : ∀ d' ∈ digits, d' < 10 := fun d' h => hdigits d' (List.mem_cons_of_mem d h)
    have hstage : wholeStage (d :: digits) = .whole := if_neg (by simp [hd₀])
    have hfirst : start.run ((if negative then ['-'] else []) ++ (d :: digits).map digitChar ++ rest) =
        (numeral ⟨negative, [d], [], none⟩ .whole).run (digits.map digitChar ++ rest) := by
      cases negative with
      | false => exact run_cons_of_nil (feed_start_digitChar hd hd₀) _
      | true =>
        have hminus : start.feed '-' = ([], numeral ⟨true, [], [], none⟩ .sign) := rfl
        have hsign : (numeral ⟨true, [], [], none⟩ .sign).feed (digitChar d) =
            ([], numeral ⟨true, [d], [], none⟩ .whole) := by
          obtain ⟨d, rfl⟩ := Nat.exists_eq_succ_of_ne_zero hd₀
          simp [feed, feedNumeral, decimal?_digitChar hd]
        exact (run_cons_of_nil hminus _).trans (run_cons_of_nil hsign _)
    rw [hfirst, hstage, run_wholeDigits _ hmore]
    rfl

/-- The point and the fraction. -/
theorem run_fraction (hstage : stage = .zero ∨ stage = .whole) {digits : List Nat}
    (hne : digits ≠ []) (hdigits : ∀ d ∈ digits, d < 10) (rest : List Char) :
    (numeral n stage).run ('.' :: digits.map digitChar ++ rest) =
      (numeral { n with fraction := digits } .fraction).run rest := by
  have hpush (n : Numeral) (d : Nat) (hd : d < 10) :
      (numeral n .fraction).feed (digitChar d) =
        ([], numeral { n with fraction := n.fraction ++ [d] } .fraction) := by
    simp [feed, feedNumeral, decimal?_digitChar hd]
  have hfoldl (digits : List Nat) (n : Numeral) :
      digits.foldl (fun n d => { n with fraction := n.fraction ++ [d] }) n =
        { n with fraction := n.fraction ++ digits } := by
    induction digits generalizing n with
    | nil => simp
    | cons d digits ih => rw [List.foldl_cons, ih]; simp
  obtain ⟨d, digits, rfl⟩ := List.exists_cons_of_ne_nil hne
  have hpoint : (numeral n stage).feed '.' = ([], numeral n .point) := by
    rcases hstage with rfl | rfl <;> rfl
  have hfirst : (numeral n .point).feed (digitChar d) =
      ([], numeral { n with fraction := [d] } .fraction) := by
    simp [feed, feedNumeral, decimal?_digitChar (hdigits d List.mem_cons_self)]
  rw [List.cons_append, run_cons_of_nil hpoint, List.map_cons, List.cons_append,
    run_cons_of_nil hfirst, run_digits hpush fun d' h => hdigits d' (List.mem_cons_of_mem d h), hfoldl]
  rfl

/-- The exponent. -/
theorem run_exponent (hstage : stage = .zero ∨ stage = .whole ∨ stage = .fraction)
    {negative : Bool} {digits : List Nat} {mark : Char} {sign : List Char}
    (hmark : mark = 'e' ∨ mark = 'E') (hsign : Numeral.SpellsSign negative sign)
    (hne : digits ≠ []) (hdigits : ∀ d ∈ digits, d < 10) (rest : List Char) :
    (numeral n stage).run (mark :: sign ++ digits.map digitChar ++ rest) =
      (numeral { n with exponent := some (negative, digits) } .exponent).run rest := by
  have hpush (n : Numeral) (d : Nat) (hd : d < 10) :
      (numeral n .exponent).feed (digitChar d) = ([], numeral (pushExponent n d) .exponent) := by
    simp [feed, feedNumeral, decimal?_digitChar hd]
  have hfoldl (digits : List Nat) (n : Numeral) (read : List Nat)
      (hn : n.exponent = some (negative, read)) :
      digits.foldl pushExponent n = { n with exponent := some (negative, read ++ digits) } := by
    induction digits generalizing n read with
    | nil => rw [List.append_nil, ← hn]; rfl
    | cons d digits ih =>
      have hnext : (pushExponent n d).exponent = some (negative, read ++ [d]) := by
        simp [pushExponent, hn]
      rw [List.foldl_cons, ih _ _ hnext]
      simp [pushExponent, hn]
  obtain ⟨d, digits, rfl⟩ := List.exists_cons_of_ne_nil hne
  have hd := hdigits d List.mem_cons_self
  have hmore : ∀ d' ∈ digits, d' < 10 := fun d' h => hdigits d' (List.mem_cons_of_mem d h)
  have hfeedMark : (numeral n stage).feed mark =
      ([], numeral { n with exponent := some (false, []) } .mark) := by
    rcases hstage with rfl | rfl | rfl <;> rcases hmark with rfl | rfl <;> rfl
  -- Whether the sign is written or not, the first digit of the exponent is due.
  have hfirst : (numeral { n with exponent := some (false, []) } .mark).run
        (sign ++ (digitChar d :: (digits.map digitChar ++ rest))) =
      (numeral { n with exponent := some (negative, [d]) } .exponent).run
        (digits.map digitChar ++ rest) := by
    cases negative with
    | true =>
      obtain rfl : sign = ['-'] := hsign
      have hminus : (numeral { n with exponent := some (false, []) } .mark).feed '-' =
          ([], numeral { n with exponent := some (true, []) } .markSign) := rfl
      have hdigit : (numeral { n with exponent := some (true, []) } .markSign).feed (digitChar d) =
          ([], numeral { n with exponent := some (true, [d]) } .exponent) := by
        simp [feed, feedNumeral, decimal?_digitChar hd, pushExponent]
      exact (run_cons_of_nil hminus _).trans (run_cons_of_nil hdigit _)
    | false =>
      rcases (hsign : sign = [] ∨ sign = ['+']) with rfl | rfl
      · have hdigit : (numeral { n with exponent := some (false, []) } .mark).feed (digitChar d) =
            ([], numeral { n with exponent := some (false, [d]) } .exponent) := by
          simp [feed, feedNumeral, decimal?_digitChar hd, pushExponent]
        exact run_cons_of_nil hdigit _
      · have hplus : (numeral { n with exponent := some (false, []) } .mark).feed '+' =
            ([], numeral { n with exponent := some (false, []) } .markSign) := rfl
        have hdigit : (numeral { n with exponent := some (false, []) } .markSign).feed (digitChar d) =
            ([], numeral { n with exponent := some (false, [d]) } .exponent) := by
          simp [feed, feedNumeral, decimal?_digitChar hd, pushExponent]
        exact (run_cons_of_nil hplus _).trans (run_cons_of_nil hdigit _)
  rw [List.cons_append, List.cons_append, run_cons_of_nil hfeedMark, List.append_assoc, List.map_cons,
    List.cons_append, hfirst, run_digits hpush hmore, hfoldl _ _ [d] rfl]
  rfl

/-- A numeral that may end here does, where no numeral goes on. -/
theorem run_end (hstage : stage = .zero ∨ stage = .whole ∨ stage = .fraction ∨ stage = .exponent)
    {rest : List Char} (hrest : EndsNumeral rest) :
    (numeral n stage).run rest = .numeral n :: start.run rest := by
  cases rest with
  | nil => rcases hstage with rfl | rfl | rfl | rfl <;> rfl
  | cons c rest =>
    obtain ⟨hdigit, hpoint, he, hE⟩ := hrest c rfl
    have hnone : decimal? c = none := if_neg hdigit
    have hfeed : (numeral n stage).feed c = (.numeral n :: (begin c).1, (begin c).2) := by
      rcases hstage with rfl | rfl | rfl | rfl <;>
        simp [feed, feedNumeral, hnone, hpoint, he, hE]
    have hbegin : start.feed c = ((begin c).1, (begin c).2) := rfl
    rw [run_cons hfeed, run_cons hbegin]
    rfl

theorem run_numeral {cs rest : List Char} (h : n.Spells cs) (hrest : EndsNumeral rest) :
    start.run (cs ++ rest) = .numeral n :: start.run rest := by
  obtain ⟨hn, exponent, hexponent, rfl⟩ := h
  obtain ⟨negative, whole, fraction, exponent?⟩ := n
  have hwholeStage : wholeStage whole = .zero ∨ wholeStage whole = .whole := by
    unfold wholeStage
    split
    · exact .inl rfl
    · exact .inr rfl
  rw [List.append_assoc, List.append_assoc, run_whole negative hn.whole hn.wholeDigits]
  -- What the point and the fraction leave, whether they are there or not.
  obtain ⟨stage, hstage, hfraction⟩ : ∃ stage, (stage = .zero ∨ stage = .whole ∨ stage = .fraction) ∧
      ∀ more, (numeral ⟨negative, whole, [], none⟩ (wholeStage whole)).run
          ((if fraction = [] then [] else '.' :: fraction.map digitChar) ++ more) =
        (numeral ⟨negative, whole, fraction, none⟩ stage).run more := by
    by_cases hempty : fraction = []
    · subst hempty
      refine ⟨wholeStage whole, ?_, fun more => rfl⟩
      exact hwholeStage.imp_right .inl
    · refine ⟨.fraction, .inr (.inr rfl), fun more => ?_⟩
      rw [if_neg hempty]
      exact run_fraction hwholeStage hempty hn.fractionDigits more
  rw [hfraction]
  cases hexponent with
  | absent => exact run_end (by tauto) hrest
  | @present negative digits mark sign hmark hsign =>
    obtain ⟨hne, hdigits⟩ := hn.exponent _ _ rfl
    rw [run_exponent hstage hmark hsign hne hdigits]
    exact run_end (by tauto) hrest

end Scan

/-! ## Tokens -/

/-- How a token is written. -/
inductive Token.Spells : Token → List Char → Prop
  | braceOpen : Spells .braceOpen ['\x7b']
  | braceClose : Spells .braceClose ['\x7d']
  | bracketOpen : Spells .bracketOpen ['[']
  | bracketClose : Spells .bracketClose [']']
  | colon : Spells .colon [':']
  | comma : Spells .comma [',']
  | null : Spells .null ['n', 'u', 'l', 'l']
  | true : Spells (.boolean true) ['t', 'r', 'u', 'e']
  | false : Spells (.boolean false) ['f', 'a', 'l', 's', 'e']
  | numeral {n : Numeral} {cs : List Char} (h : n.Spells cs) : Spells (.numeral n) cs
  | text {s : Option (List Char)} {cs : List Char} (h : SpellsString s cs) :
    Spells (.text (s.map String.ofList)) ('"' :: cs ++ ['"'])

/-- Whether a token has no end of its own. -/
def Token.isNumeral : Token → Bool
  | numeral _ => true
  | _ => false

/-- The tokens of a text. Blanks may stand in front of every token and behind the last one; a numeral is
written up to where no numeral goes on. -/
inductive Spells : List Token → List Char → Prop
  | nil : Spells [] []
  | blank {ts : List Token} {c : Char} {cs : List Char} (hc : c ∈ [' ', '\n', '\t', '\r'])
    (h : Spells ts cs) : Spells ts (c :: cs)
  | token {t : Token} {ts : List Token} {cs rest : List Char} (ht : t.Spells cs)
    (hend : t.isNumeral = true → EndsNumeral rest) (h : Spells ts rest) :
    Spells (t :: ts) (cs ++ rest)

namespace Scan

theorem run_token {t : Token} {cs rest : List Char} (h : t.Spells cs)
    (hend : t.isNumeral = true → EndsNumeral rest) :
    start.run (cs ++ rest) = t :: start.run rest := by
  cases h with
  | numeral h => exact run_numeral h (hend rfl)
  | @text s cs h =>
    have hquote : start.feed '"' = ([], string Draft.empty) := rfl
    have hempty : Draft.empty.completed s = s.map String.ofList := by
      simp [Draft.completed, Draft.empty]
    rw [List.append_assoc, List.cons_append, run_cons_of_nil hquote, List.singleton_append,
      run_string h Draft.empty (.inl rfl), hempty]
  | _ => rfl

end Scan

/-- The scanner finds the tokens that a text spells, and nothing else. -/
theorem run_of_spells {ts : List Token} {cs : List Char} (h : Spells ts cs) :
    Scan.start.run cs = ts := by
  induction h with
  | nil => rfl
  | @blank ts c cs hc _ ih =>
    have hfeed : Scan.start.feed c = ([], .start) := by
      simp only [List.mem_cons, List.not_mem_nil, or_false] at hc
      rcases hc with rfl | rfl | rfl | rfl <;> rfl
    rw [Scan.run_cons_of_nil hfeed, ih]
  | token ht hend _ ih => rw [Scan.run_token ht hend, ih]

end VideoCapture.Json
