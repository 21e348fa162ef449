import VideoCapture.Proofs.Json.Tree

/-!
# Printed values are written as JSON

What the printer makes of a value is a JSON text for that value, so it is read back as the value. A value
can be printed if every string in it has a text, every numeral is well-formed, and nothing is missing.

## Main definitions

* `Value.Printable` — the values that can be printed.

The main statements are `Value.Printable.writtenAs` and `Numeral.reading_ofNat`.
-/

namespace VideoCapture.Json

/-! ## Strings -/

theorem isHexDigit_hexDigit {d : Nat} (h : d < 16) : IsHexDigit d (hexDigit d) := by
  have hall : ∀ d < 16, ['0', '1', '2', '3', '4', '5', '6', '7', '8', '9', 'a', 'b', 'c', 'd', 'e',
      'f'][d]? = some (hexDigit d) := by decide
  exact .inl (hall d h)

theorem SpellsString.escaped (c : Char) {s cs : List Char} (h : SpellsString (some s) cs) :
    SpellsString (some (c :: s)) (escapedChar c ++ cs) := by
  have hshort {letter : Char} (hletter : (letter, c) ∈ shortEscapes) :
      SpellsString (some (c :: s)) ('\\' :: letter :: cs) := .short hletter h
  unfold escapedChar
  split
  case h_8 hquote hbackslash _ _ _ _ _ =>
    split
    case isTrue hcontrol =>
      have hlt : c.toNat < 32 := hcontrol
      have hunit : SpellsUnit c.toNat ['0', '0', hexDigit (c.toNat / 16), hexDigit (c.toNat % 16)] := by
        have hdigits := SpellsUnit.digits (isHexDigit_hexDigit (d := 0) (by decide))
          (isHexDigit_hexDigit (d := 0) (by decide))
          (isHexDigit_hexDigit (d := c.toNat / 16) (by omega))
          (isHexDigit_hexDigit (d := c.toNat % 16) (by omega))
        have hvalue : ((0 * 16 + 0) * 16 + c.toNat / 16) * 16 + c.toNat % 16 = c.toNat := by omega
        rwa [hvalue] at hdigits
      exact .unit hunit h
    case isFalse hcontrol => exact .plain (Char.not_lt.mp hcontrol) hquote hbackslash h
  all_goals exact hshort (by simp [shortEscapes])

theorem spellsString_flatMap_escapedChar (s : List Char) :
    SpellsString (some s) (s.flatMap escapedChar) := by
  induction s with
  | nil => exact .nil
  | cons c s ih => exact ih.escaped c

theorem Token.spells_quotedText (s : String) : Token.Spells (.text (some s)) (quotedText s.toList) := by
  have h := Token.Spells.text (spellsString_flatMap_escapedChar s.toList)
  rwa [Option.map_some, String.ofList_toList] at h

/-! ## Numerals -/

theorem Numeral.spells_print {n : Numeral} (h : n.WellFormed) : n.Spells n.print := by
  obtain ⟨negative, whole, fraction, exponent⟩ := n
  cases exponent with
  | none => exact ⟨h, [], .absent, rfl⟩
  | some exponent =>
    obtain ⟨minus, digits⟩ := exponent
    have hsign : SpellsSign minus (if minus then ['-'] else []) := by
      cases minus
      · exact .inl rfl
      · rfl
    exact ⟨h, _, .present (.inl rfl) hsign, rfl⟩

/-! ## Values -/

/-- The values that can be printed and read back. -/
inductive Value.Printable : Value → Prop
  | null : Printable .null
  | boolean (b : Bool) : Printable (.boolean b)
  | numeral {n : Numeral} (h : n.WellFormed) : Printable (.numeral n)
  | text (s : String) : Printable (.text (some s))
  | list {items : List Value} (h : ∀ v ∈ items, Printable v) : Printable (.list items .closed)
  | record {entries : List (Option String × Value)} (hkeys : ∀ e ∈ entries, e.1.isSome)
    (h : ∀ e ∈ entries, Printable e.2) : Printable (.record entries .closed)

/-- What the text of a value at any depth spells in front of any further text. -/
def Value.PrintsTokens (v : Value) : Prop :=
  ∀ (depth : Nat) {ts : List Token} {rest : List Char}, EndsNumeral rest → Spells ts rest →
    Spells (v.tokens ++ ts) (v.pretty depth ++ rest)

section Printing

variable {ts : List Token} {rest : List Char}

theorem endsNumeral_cons {c : Char} (h : c ∈ [',', '\n', ']', '\x7d']) (rest : List Char) :
    EndsNumeral (c :: rest) := by
  rintro _ ⟨⟩
  simp only [List.mem_cons, List.not_mem_nil, or_false] at h
  rcases h with rfl | rfl | rfl | rfl <;> decide

theorem Spells.newLine (depth : Nat) (h : Spells ts rest) : Spells ts (newLine depth ++ rest) := by
  have hblanks (n : Nat) : Spells ts (List.replicate n ' ' ++ rest) := by
    induction n with
    | zero => exact h
    | succ n ih => exact .blank (by decide) ih
  exact .blank (by decide) (hblanks _)

/-- The comma in front of every item and entry but the first. -/
theorem Spells.comma (first : Bool) (h : Spells ts rest) :
    Spells ((if first then [] else [.comma]) ++ ts) ((if first then [] else [',']) ++ rest) := by
  cases first with
  | true => exact h
  | false => exact .token .comma (by simp [Token.isNumeral]) h

theorem spells_prettyItems {items : List Value} (hitems : ∀ v ∈ items, v.PrintsTokens) (depth : Nat)
    (first : Bool) (h : Spells ts rest) :
    Spells (itemTokens first items ++ ts) (prettyItems depth first items ++ rest) := by
  induction items generalizing first with
  | nil =>
    cases first with
    | true => exact h
    | false => exact h.newLine _
  | cons v items ih =>
    have hends : EndsNumeral (prettyItems depth false items ++ rest) := by
      cases items <;> exact endsNumeral_cons (by decide) _
    have hmore := ih (fun v hv => hitems v (List.mem_cons_of_mem _ hv)) false
    have hv := ((hitems v List.mem_cons_self depth hends hmore).newLine depth).comma first
    simpa only [itemTokens, prettyItems, List.append_assoc] using hv

theorem spells_prettyEntries {entries : List (Option String × Value)}
    (hkeys : ∀ e ∈ entries, e.1.isSome) (hentries : ∀ e ∈ entries, e.2.PrintsTokens) (depth : Nat)
    (first : Bool) (h : Spells ts rest) :
    Spells (entryTokens first entries ++ ts) (prettyEntries depth first entries ++ rest) := by
  induction entries generalizing first with
  | nil =>
    cases first with
    | true => exact h
    | false => exact h.newLine _
  | cons e entries ih =>
    obtain ⟨key, v⟩ := e
    obtain ⟨key, rfl⟩ := Option.isSome_iff_exists.mp (hkeys _ List.mem_cons_self)
    have hends : EndsNumeral (prettyEntries depth false entries ++ rest) := by
      cases entries <;> exact endsNumeral_cons (by decide) _
    have hmore := ih (fun e he => hkeys e (List.mem_cons_of_mem _ he))
      (fun e he => hentries e (List.mem_cons_of_mem _ he)) false
    have hvalue := hentries _ List.mem_cons_self depth hends hmore
    have hcolon := Spells.token .colon (by simp [Token.isNumeral])
      (Spells.blank (c := ' ') (by decide) hvalue)
    have hkey := Spells.token (Token.spells_quotedText key) (by simp [Token.isNumeral]) hcolon
    simpa [entryTokens, prettyEntries] using (hkey.newLine depth).comma first

end Printing

theorem Value.Printable.printsTokens {v : Value} (h : v.Printable) : v.PrintsTokens := by
  induction h with
  | null => exact fun _ _ _ _ h => .token .null (by simp [Token.isNumeral]) h
  | boolean b =>
    intro _ _ _ _ h
    cases b with
    | true => exact .token .true (by simp [Token.isNumeral]) h
    | false => exact .token .false (by simp [Token.isNumeral]) h
  | numeral hn => exact fun _ _ _ hends h => .token (.numeral (Numeral.spells_print hn)) (fun _ => hends) h
  | text s => exact fun _ _ _ _ h => .token (Token.spells_quotedText s) (by simp [Token.isNumeral]) h
  | list _ ih =>
    intro depth _ _ _ h
    have hclose := Spells.token .bracketClose (by simp [Token.isNumeral]) h
    have hopen := Spells.token .bracketOpen (by simp [Token.isNumeral])
      (spells_prettyItems ih (depth + 1) true hclose)
    simpa [tokens, pretty] using hopen
  | record hkeys _ ih =>
    intro depth _ _ _ h
    have hclose := Spells.token .braceClose (by simp [Token.isNumeral]) h
    have hopen := Spells.token .braceOpen (by simp [Token.isNumeral])
      (spells_prettyEntries hkeys ih (depth + 1) true hclose)
    simpa [tokens, pretty] using hopen

theorem Value.areIntact_iff {items : List Value} :
    areIntact items = true ↔ ∀ v ∈ items, v.isIntact = true := by
  induction items with
  | nil => simp [areIntact]
  | cons v items ih => simp [areIntact, ih]

theorem Value.entriesIntact_iff {entries : List (Option String × Value)} :
    entriesIntact entries = true ↔ ∀ e ∈ entries, e.2.isIntact = true := by
  induction entries with
  | nil => simp [entriesIntact]
  | cons e entries ih =>
    obtain ⟨key, v⟩ := e
    simp [entriesIntact, ih]

theorem Value.Printable.isIntact {v : Value} (h : v.Printable) : v.isIntact = true := by
  induction h with
  | list _ ih => simpa [Value.isIntact] using areIntact_iff.mpr ih
  | record _ _ ih => simpa [Value.isIntact] using entriesIntact_iff.mpr ih
  | _ => rfl

/-- What the printer makes of a value is a text for it. -/
theorem Value.Printable.writtenAs {v : Value} (h : v.Printable) :
    v.WrittenAs (String.ofList (v.pretty 0)) where
  intact := h.isIntact
  spells := by
    have hend : EndsNumeral [] := by simp [EndsNumeral]
    have hspells := h.printsTokens 0 hend .nil
    simpa using hspells

/-! ## Natural numbers -/

namespace Numeral

theorem digitsOf_of_lt {n : Nat} (h : n < 10) : digitsOf n = [n] := by
  have hall : ∀ n < 10, digitsOf n = [n] := by decide
  exact hall n h

theorem digitsOf_of_le {n : Nat} (h : 10 ≤ n) : digitsOf n = digitsOf (n / 10) ++ [n % 10] := by
  have hdigit : (Nat.digitChar (n % 10)).toNat - '0'.toNat = n % 10 := by
    have hall : ∀ d < 10, (Nat.digitChar d).toNat - '0'.toNat = d := by decide
    exact hall _ (Nat.mod_lt _ (by decide))
  rw [digitsOf, Nat.toDigits_eq_if (by decide), if_neg (by omega), List.map_append, List.map_singleton,
    hdigit]
  rfl

theorem ofDigits_digitsOf (n : Nat) : ofDigits (digitsOf n) = n := by
  induction n using Nat.strongRecOn with
  | ind n ih =>
    rcases Nat.lt_or_ge n 10 with h | h
    · rw [digitsOf_of_lt h]
      simp [ofDigits]
    · have hrest := ih (n / 10) (by omega)
      rw [ofDigits] at hrest
      rw [digitsOf_of_le h, ofDigits, List.foldl_append, hrest, List.foldl_cons, List.foldl_nil]
      omega

theorem lt_of_mem_digitsOf {n d : Nat} (h : d ∈ digitsOf n) : d < 10 := by
  induction n using Nat.strongRecOn with
  | ind n ih =>
    rcases Nat.lt_or_ge n 10 with hn | hn
    · rw [digitsOf_of_lt hn, List.mem_singleton] at h
      omega
    · rw [digitsOf_of_le hn, List.mem_append, List.mem_singleton] at h
      rcases h with h | rfl
      · exact ih (n / 10) (by omega) h
      · omega

/-- Only zero begins with a zero. -/
theorem digitsOf_head (n : Nat) :
    digitsOf n = [0] ∨ digitsOf n ≠ [] ∧ (digitsOf n).head? ≠ some 0 := by
  induction n using Nat.strongRecOn with
  | ind n ih =>
    rcases Nat.lt_or_ge n 10 with hn | hn
    · rw [digitsOf_of_lt hn]
      simpa using Decidable.em (n = 0)
    · -- The digits of a tenth of `n` come first, and that tenth is not zero.
      obtain ⟨hne, hhead⟩ : digitsOf (n / 10) ≠ [] ∧ (digitsOf (n / 10)).head? ≠ some 0 := by
        refine (ih (n / 10) (by omega)).resolve_left fun hzero => ?_
        have hvalue := ofDigits_digitsOf (n / 10)
        rw [hzero] at hvalue
        have hten : n / 10 = 0 := hvalue.symm
        omega
      obtain ⟨d, digits, hdigits⟩ := List.exists_cons_of_ne_nil hne
      rw [hdigits] at hhead
      rw [digitsOf_of_le hn, hdigits]
      exact .inr ⟨by simp, hhead⟩

theorem wellFormed_ofNat (n : Nat) : (ofNat n).WellFormed where
  whole := digitsOf_head n
  wholeDigits _ := lt_of_mem_digitsOf
  fractionDigits := by simp [ofNat]
  exponent := by simp [ofNat]

/-- A printed number is read as that number, as far as integers are exact. -/
theorem reading_ofNat {n : Nat} (h : n ≤ significandMax) : (ofNat n).reading = .integer n := by
  simp [reading, ofNat, ofDigits_digitsOf, h]

end Numeral

end VideoCapture.Json
