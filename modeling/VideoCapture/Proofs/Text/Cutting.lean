import Mathlib.Data.List.Infix
import Mathlib.Data.List.TakeWhile
import Mathlib.Tactic.Common
import VideoCapture.Text.Blank
import VideoCapture.Text.Split

/-!
# What cutting a text comes to

A text is cut at the first occurrence of a separator, into lines, and out of the blanks around it. Here
each of these is described without the way it is done.

## Main definitions

* `Text.Cuts` — what stands before and after the first occurrence of a separator.
* `Text.Trimmed` — a text without blanks around it.
* `Text.Numbered` — a line that begins with a number of 32 bits and a space.

The main statements are `Text.splitOnce_eq_some_iff`, `Text.lines_append` and `Text.numbered_iff`.
-/

namespace VideoCapture.Text

variable {separator s before after line rest : List Char} {c : Char}

/-! ## Separators -/

/-- The separator stands between `before` and `after` in `s`, and nowhere earlier. -/
structure Cuts (separator s before after : List Char) : Prop where
  eq : s = before ++ (separator ++ after)
  first : ∀ earlier later, s = earlier ++ (separator ++ later) → before.length ≤ earlier.length

/-- There is one first occurrence. -/
theorem Cuts.unique {before' after' : List Char} (h : Cuts separator s before after)
    (h' : Cuts separator s before' after') : before = before' ∧ after = after' := by
  have hlength : before.length = before'.length :=
    Nat.le_antisymm (h.first _ _ h'.eq) (h'.first _ _ h.eq)
  obtain ⟨hbefore, hrest⟩ := List.append_inj (h.eq.symm.trans h'.eq) hlength
  exact ⟨hbefore, List.append_cancel_left hrest⟩

theorem Cuts.occurs (h : Cuts separator s before after) : separator <:+: s :=
  ⟨before, after, by rw [h.eq, List.append_assoc]⟩

theorem cuts_of_splitOnce (h : splitOnce separator s = some (before, after)) :
    Cuts separator s before after := by
  induction s generalizing before with
  | nil =>
    unfold splitOnce at h
    split at h
    · rename_i hempty
      cases h
      subst hempty
      exact ⟨rfl, fun _ _ _ => Nat.zero_le _⟩
    · cases h
  | cons c rest ih =>
    unfold splitOnce at h
    split at h
    · rename_i hstarts
      cases h
      obtain ⟨tail, htail⟩ := List.isPrefixOf_iff_prefix.mp hstarts
      refine ⟨?_, fun _ _ _ => Nat.zero_le _⟩
      rw [← htail, List.drop_left, List.nil_append]
    · rename_i hstarts
      obtain ⟨⟨before, after⟩, hparts, hsame⟩ := Option.map_eq_some_iff.mp h
      cases hsame
      have hcuts := ih hparts
      refine ⟨by rw [hcuts.eq]; rfl, ?_⟩
      intro earlier later hsplit
      cases earlier with
      | nil => exact absurd (List.isPrefixOf_iff_prefix.mpr ⟨later, hsplit.symm⟩) hstarts
      | cons d earlier =>
        have hrest := hcuts.first earlier later (List.cons.inj hsplit).2
        exact Nat.succ_le_succ hrest

theorem absent_of_splitOnce (h : splitOnce separator s = none) : ¬separator <:+: s := by
  induction s with
  | nil =>
    unfold splitOnce at h
    split at h
    · cases h
    · rename_i hseparator
      intro hoccurs
      exact hseparator (List.eq_nil_of_infix_nil hoccurs)
  | cons c rest ih =>
    unfold splitOnce at h
    split at h
    · cases h
    · rename_i hstarts
      intro hoccurs
      rcases List.infix_cons_iff.mp hoccurs with hfront | hlater
      · exact hstarts (List.isPrefixOf_iff_prefix.mpr hfront)
      · exact ih (Option.map_eq_none_iff.mp h) hlater

/-- Cutting once finds the first occurrence. -/
theorem splitOnce_eq_some_iff :
    splitOnce separator s = some (before, after) ↔ Cuts separator s before after := by
  constructor
  · exact cuts_of_splitOnce
  · intro hcuts
    cases hsplit : splitOnce separator s with
    | none => exact absurd hcuts.occurs (absent_of_splitOnce hsplit)
    | some parts =>
      obtain ⟨hbefore, hafter⟩ := (cuts_of_splitOnce hsplit).unique hcuts
      rw [← hbefore, ← hafter]

theorem splitOnce_eq_none_iff : splitOnce separator s = none ↔ ¬separator <:+: s := by
  constructor
  · exact absent_of_splitOnce
  · intro hnot
    cases hsplit : splitOnce separator s with
    | none => rfl
    | some parts => exact absurd (cuts_of_splitOnce hsplit).occurs hnot

/-- An earlier occurrence begins in the part before. -/
theorem exists_of_earlier {tail earlier later : List Char}
    (h : before ++ (c :: tail ++ after) = earlier ++ (c :: tail ++ later))
    (hlength : earlier.length < before.length) :
    ∃ between, before = earlier ++ c :: between ∧ tail ++ later = between ++ (c :: tail ++ after) := by
  rcases List.append_eq_append_iff.mp h with ⟨gap, hearlier, -⟩ | ⟨gap, hbefore, hgap⟩
  · rw [hearlier, List.length_append] at hlength
    omega
  · cases gap with
    | nil =>
      rw [hbefore, List.append_nil] at hlength
      omega
    | cons d between =>
      obtain ⟨hd, htail⟩ := List.cons.inj hgap
      subst hd
      exact ⟨between, hbefore, htail⟩

/-- A text is cut behind a part in which the separator does not begin. -/
theorem cuts_of_notMem {tail : List Char} (h : c ∉ before) :
    Cuts (c :: tail) (before ++ (c :: tail ++ after)) before after := by
  refine ⟨rfl, ?_⟩
  intro earlier later hsplit
  by_contra hshorter
  obtain ⟨between, hbefore, -⟩ := exists_of_earlier hsplit (by omega)
  exact h (by simp [hbefore])

/-- A text is cut behind a part without the separator, if its first character stands in it only once. -/
theorem cuts_of_absent {tail : List Char} (htail : c ∉ tail) (h : ¬(c :: tail) <:+: before) :
    Cuts (c :: tail) (before ++ (c :: tail ++ after)) before after := by
  refine ⟨rfl, ?_⟩
  intro earlier later hsplit
  by_contra hshorter
  obtain ⟨between, hbefore, hoverlap⟩ := exists_of_earlier hsplit (by omega)
  -- the earlier occurrence ends in the part before, or holds the first character once more
  rcases List.append_eq_append_iff.mp hoverlap with ⟨gap, hbetween, -⟩ | ⟨gap, hgap, hrest⟩
  · apply h
    exact ⟨earlier, gap, by simp [hbefore, hbetween]⟩
  · cases gap with
    | nil =>
      apply h
      exact ⟨earlier, [], by simp [hbefore, hgap]⟩
    | cons d gap =>
      obtain ⟨hd, -⟩ := List.cons.inj hrest
      apply htail
      simp [hgap, hd]

/-! ## Lines -/

theorem linesFrom_append (hline : '\n' ∉ line) (seen rest : List Char) :
    linesFrom seen (line ++ '\n' :: rest) = chomp (seen.reverse ++ line) :: lines rest := by
  induction line generalizing seen with
  | nil => simp [linesFrom, lines]
  | cons c line ih =>
    obtain ⟨hc, htail⟩ := not_or.mp (mt List.mem_cons.mpr hline)
    rw [List.cons_append, linesFrom, if_neg (Ne.symm hc), ih htail]
    simp

/-- The first line of a text ends at the first line feed. -/
theorem lines_append (hline : '\n' ∉ line) (rest : List Char) :
    lines (line ++ '\n' :: rest) = chomp line :: lines rest :=
  linesFrom_append hline [] rest

/-- What stands behind the last line feed is a line, if it is anything. -/
theorem lines_of_notMem (hline : '\n' ∉ line) : lines line = if line = [] then [] else [line] := by
  have hlast (seen : List Char) : linesFrom seen line =
      if seen.reverse ++ line = [] then [] else [seen.reverse ++ line] := by
    induction line generalizing seen with
    | nil => simp [linesFrom]
    | cons c line ih =>
      obtain ⟨hc, htail⟩ := not_or.mp (mt List.mem_cons.mpr hline)
      rw [linesFrom, if_neg (Ne.symm hc), ih htail]
      simp
  exact hlast []

@[simp] theorem chomp_concat (line : List Char) : chomp (line ++ ['\r']) = line := by
  simp [chomp]

theorem chomp_of_ne (h : line.getLast? ≠ some '\r') : chomp line = line := if_neg h

theorem chomp_isPrefix (line : List Char) : chomp line <+: line := by
  unfold chomp
  split
  · exact List.dropLast_prefix line
  · exact List.prefix_refl line

/-! ## Blanks -/

theorem solid_of_all (h : s.all (!isBlank ·) = true) : ∀ c ∈ s, isBlank c = false := by
  intro c hc
  simpa using List.all_eq_true.mp h c hc

/-- There are no blanks around a text. -/
structure Trimmed (s : List Char) : Prop where
  first : ∀ c, s.head? = some c → isBlank c = false
  last : ∀ c, s.getLast? = some c → isBlank c = false

theorem trimmed_iff :
    Trimmed s ↔ s.head?.all (!isBlank ·) = true ∧ s.getLast?.all (!isBlank ·) = true := by
  constructor
  · rintro ⟨hfirst, hlast⟩
    constructor
    · cases hhead : s.head? with
      | none => rfl
      | some c => simp [hfirst c hhead]
    · cases hend : s.getLast? with
      | none => rfl
      | some c => simp [hlast c hend]
  · rintro ⟨hfirst, hlast⟩
    constructor
    · intro c hc
      simpa [hc] using hfirst
    · intro c hc
      simpa [hc] using hlast

theorem trimStart_of_head (h : ∀ c, s.head? = some c → isBlank c = false) : trimStart s = s := by
  cases s with
  | nil => rfl
  | cons c rest => exact List.dropWhile_cons_of_neg (by simp [h c rfl])

theorem trimStart_append (hblank : ∀ c ∈ before, isBlank c = true)
    (hfirst : ∀ c, s.head? = some c → isBlank c = false) : trimStart (before ++ s) = s :=
  (List.dropWhile_append_of_pos hblank).trans (trimStart_of_head hfirst)

/-- Blanks at the beginning, and what is left without them. -/
theorem exists_blanks (s : List Char) :
    ∃ blanks, s = blanks ++ trimStart s ∧ ∀ c ∈ blanks, isBlank c = true :=
  ⟨s.takeWhile isBlank, List.takeWhile_append_dropWhile.symm, fun _ => List.mem_takeWhile_imp⟩

theorem Trimmed.trim_eq (h : Trimmed s) : trim s = s := by
  have hend : trimStart s.reverse = s.reverse := by
    apply trimStart_of_head
    intro c hc
    rw [List.head?_reverse] at hc
    exact h.last c hc
  rw [trim, trimStart_of_head h.first, hend, List.reverse_reverse]

/-! ## Numbers -/

theorem digits_of_decimalFrom {n m : Nat} (h : decimalFrom n s = some m) :
    ∀ c ∈ s, '0' ≤ c ∧ c ≤ '9' := by
  induction s generalizing n with
  | nil => simp
  | cons d rest ih =>
    unfold decimalFrom at h
    split at h
    · rename_i hd
      intro c hc
      rcases List.mem_cons.mp hc with rfl | hc
      · exact hd
      · exact ih h c hc
    · cases h

/-- A number is written in digits, after a plus sign or not. -/
theorem characters_of_word (h : (word? s).isSome = true) :
    s ≠ [] ∧ ∀ c ∈ s, c = '+' ∨ '0' ≤ c ∧ c ≤ '9' := by
  obtain ⟨value, hvalue⟩ := Option.isSome_iff_exists.mp h
  unfold word? at hvalue
  dsimp only at hvalue
  split at hvalue
  · rename_i digits
    have hdigits (n : Nat) (hn : decimalFrom 0 digits = some n) := digits_of_decimalFrom hn
    grind
  · have hdigits (n : Nat) (hn : decimalFrom 0 s = some n) := digits_of_decimalFrom hn
    grind

theorem isBlank_of_mem_word {index : List Char} (h : (word? index).isSome = true) (hc : c ∈ index) :
    isBlank c = false := by
  have hcode : c.toNat = 43 ∨ 48 ≤ c.toNat ∧ c.toNat ≤ 57 := by
    rcases (characters_of_word h).2 c hc with rfl | ⟨hlow, hhigh⟩
    · exact .inl rfl
    · exact .inr ⟨UInt32.le_iff_toNat_le.mp hlow, UInt32.le_iff_toNat_le.mp hhigh⟩
  simp only [isBlank, blankCodes, List.contains_eq_mem, decide_eq_false_iff_not, List.mem_cons,
    List.not_mem_nil, or_false]
  omega

theorem decimalFrom_append (s t : List Char) (n : Nat) :
    decimalFrom n (s ++ t) = (decimalFrom n s).bind fun m => decimalFrom m t := by
  induction s generalizing n with
  | nil => rfl
  | cons c rest ih =>
    rw [List.cons_append, decimalFrom, decimalFrom]
    split
    · exact ih _
    · rfl

theorem decimalFrom_digitChar {d : Nat} (h : d < 10) (n : Nat) :
    decimalFrom n [Nat.digitChar d] = some (n * 10 + d) := by
  have hall : ∀ d < 10, '0' ≤ Nat.digitChar d ∧ Nat.digitChar d ≤ '9' ∧
      (Nat.digitChar d).toNat - '0'.toNat = d := by decide
  obtain ⟨hlow, hhigh, hvalue⟩ := hall d h
  rw [decimalFrom, if_pos ⟨hlow, hhigh⟩, hvalue, decimalFrom]

/-- The digits of a number have its value. -/
theorem decimalFrom_toDigits (n : Nat) : decimalFrom 0 (Nat.toDigits 10 n) = some n := by
  induction n using Nat.strongRecOn with
  | ind n ih =>
    rw [Nat.toDigits_eq_if (by decide)]
    split
    · rename_i hn
      rw [decimalFrom_digitChar hn, Nat.zero_mul, Nat.zero_add]
    · rename_i hn
      rw [decimalFrom_append, ih (n / 10) (by omega), Option.bind_some,
        decimalFrom_digitChar (Nat.mod_lt n (by decide))]
      congr 1
      omega

/-- Every number of 32 bits can be read from its digits. -/
theorem word?_toDigits (n : UInt32) : word? (Nat.toDigits 10 n.toNat) = some n := by
  have hvalue := decimalFrom_toDigits n.toNat
  have hbound : n.toNat < 0x100000000 := n.toNat_lt
  have hfirst : ∀ rest, Nat.toDigits 10 n.toNat ≠ '+' :: rest := by
    intro rest hplus
    have hdigit := digits_of_decimalFrom hvalue '+' (by simp [hplus])
    revert hdigit
    decide
  unfold word?
  dsimp only
  split
  · rename_i rest hplus
    exact absurd hplus (hfirst rest)
  · rw [if_neg Nat.toDigits_ne_nil, hvalue]
    simp [hbound]

/-- The line begins with a number of 32 bits, after blanks or not, and a space. -/
structure Numbered (line index rest : List Char) : Prop where
  word : (word? index).isSome = true
  split : ∃ blanks, (∀ c ∈ blanks, isBlank c = true) ∧ line = blanks ++ (index ++ ([' '] ++ rest))

/-- Such a line is recognised by what stands before its first space. -/
theorem numbered_iff {index : List Char} :
    Numbered line index rest ↔
      (word? index).isSome = true ∧ splitOnce [' '] (trimStart line) = some (index, rest) := by
  constructor
  · rintro ⟨hword, blanks, hblanks, rfl⟩
    refine ⟨hword, ?_⟩
    have hplain : ' ' ∉ index := fun hc => absurd (isBlank_of_mem_word hword hc) (by decide)
    have hstart : trimStart (blanks ++ (index ++ ([' '] ++ rest))) = index ++ ([' '] ++ rest) := by
      apply trimStart_append hblanks
      intro c hc
      apply isBlank_of_mem_word hword
      obtain ⟨hnonempty, -⟩ := characters_of_word hword
      rw [List.head?_append_of_ne_nil _ hnonempty] at hc
      exact List.mem_of_head? hc
    rw [hstart, splitOnce_eq_some_iff]
    exact cuts_of_notMem hplain
  · rintro ⟨hword, hsplit⟩
    obtain ⟨blanks, hline, hblanks⟩ := exists_blanks line
    have hcuts := splitOnce_eq_some_iff.mp hsplit
    exact ⟨hword, blanks, hblanks, by rw [← hcuts.eq]; exact hline⟩

theorem not_numbered (h : ((splitOnce [' '] (trimStart line)).bind fun parts => word? parts.1) = none)
    (index rest : List Char) : ¬Numbered line index rest := by
  intro hnumbered
  obtain ⟨hword, hsplit⟩ := numbered_iff.mp hnumbered
  rw [hsplit, Option.bind_some] at h
  rw [h] at hword
  cases hword

/-- What stands behind the number may be longer. -/
theorem Numbered.append {index : List Char} (h : Numbered line index rest) (more : List Char) :
    Numbered (line ++ more) index (rest ++ more) := by
  obtain ⟨hword, blanks, hblanks, rfl⟩ := h
  exact ⟨hword, blanks, hblanks, by simp⟩

end VideoCapture.Text
