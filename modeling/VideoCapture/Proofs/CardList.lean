import Mathlib.Data.List.Forall2
import Mathlib.Tactic.Common
import VideoCapture.Proofs.Text.Cutting
import VideoCapture.SoundCards

/-!
# Reading a list of sound cards

What a line of the list says about a card, and lists as the kernel writes them. The separators of a
header line may stand in the free text around them too: in the identifier, in the name and in the
description.

## Main definitions

* `SoundCards.Names` — a line that names a card, and the name.
* `SoundCards.Card` — the texts of a card of which its two lines consist.
* `SoundCards.written` — the list of some cards.

The main statement is `SoundCards.card_names_recovered`.
-/

namespace VideoCapture.SoundCards

open Text

variable {line : List Char}

/-! ## What a line says -/

/-- The name in the part of a header behind the bracket: what follows the driver, or all of it. -/
inductive NameIn (long : List Char) : List Char → Prop where
  | behindDriver {driver name : List Char} (cut : Cuts [' ', '-', ' '] long driver name) :
    NameIn long name
  | alone (whole : ¬[' ', '-', ' '] <:+: long) : NameIn long long

/-- The line begins with a number, and a bracket is closed later on. -/
def HeadsCard (line : List Char) : Prop :=
  ∃ index rest, Numbered line index rest ∧ [']', ':', ' '] <:+: rest

/-- The line is the header of a card of this name, which has no blanks around it. -/
def Names (line : List Char) (name : String) : Prop :=
  ∃ index rest bracket long text,
    Numbered line index rest ∧ Cuts [']', ':', ' '] rest bracket long ∧ NameIn long text ∧
      name = String.ofList (trim text)

theorem nameIn_splitOnce (long : List Char) :
    NameIn long (match splitOnce [' ', '-', ' '] long with
      | some (_, name) => name
      | none => long) := by
  split
  · rename_i hsplit
    exact .behindDriver (splitOnce_eq_some_iff.mp hsplit)
  · rename_i hsplit
    exact .alone (splitOnce_eq_none_iff.mp hsplit)

/-- The reader of a line finds the name that the line says, and none where it says none. -/
theorem nameOfLine?_eq_some_iff {found : String} : nameOfLine? line = some found ↔ Names line found := by
  constructor
  · intro h
    unfold nameOfLine? at h
    split at h
    · cases h
    · rename_i index rest hindex
      split at h
      · rename_i value bracket long hvalue hbracket
        cases h
        refine ⟨index, rest, bracket, long, _, numbered_iff.mpr ⟨?_, hindex⟩,
          splitOnce_eq_some_iff.mp hbracket, nameIn_splitOnce long, rfl⟩
        rw [hvalue, Option.isSome_some]
      · cases h
  · rintro ⟨index, rest, bracket, long, text, hnumbered, hbracket, htext, rfl⟩
    obtain ⟨hword, hindex⟩ := numbered_iff.mp hnumbered
    obtain ⟨value, hvalue⟩ := Option.isSome_iff_exists.mp hword
    rcases htext with ⟨hcut⟩ | ⟨hwhole⟩
    · simp only [nameOfLine?, hindex, hvalue, splitOnce_eq_some_iff.mpr hbracket,
        splitOnce_eq_some_iff.mpr hcut]
    · simp only [nameOfLine?, hindex, hvalue, splitOnce_eq_some_iff.mpr hbracket,
        splitOnce_eq_none_iff.mpr hwhole]

theorem headsCard_iff : HeadsCard line ↔ ∃ found, Names line found := by
  constructor
  · rintro ⟨index, rest, hnumbered, hbracket⟩
    cases hsplit : splitOnce [']', ':', ' '] rest with
    | none => exact absurd hbracket (splitOnce_eq_none_iff.mp hsplit)
    | some parts =>
      exact ⟨_, index, rest, parts.1, parts.2, _, hnumbered, splitOnce_eq_some_iff.mp hsplit,
        nameIn_splitOnce _, rfl⟩
  · rintro ⟨found, index, rest, bracket, long, text, hnumbered, hbracket, -, -⟩
    exact ⟨index, rest, hnumbered, hbracket.occurs⟩

theorem headsCard_iff_isSome : HeadsCard line ↔ (nameOfLine? line).isSome = true := by
  rw [headsCard_iff, Option.isSome_iff_exists]
  simp only [nameOfLine?_eq_some_iff]

instance : DecidablePred HeadsCard := fun _ => decidable_of_iff _ headsCard_iff_isSome.symm

/-- A line without a number says nothing. -/
theorem nameOfLine?_eq_none (h : ∀ index rest, ¬Numbered line index rest) : nameOfLine? line = none := by
  cases hname : nameOfLine? line with
  | none => rfl
  | some found =>
    obtain ⟨index, rest, -, -, -, hnumbered, -⟩ := nameOfLine?_eq_some_iff.mp hname
    exact absurd hnumbered (h index rest)

/-- One name is read from each header line, and no other, in the order of the lines. -/
theorem names_forall₂ (lines : List (List Char)) :
    List.Forall₂ Names (lines.filter (HeadsCard ·)) (lines.filterMap nameOfLine?) := by
  induction lines with
  | nil => exact .nil
  | cons line lines ih =>
    cases hname : nameOfLine? line with
    | none =>
      have hheads : ¬HeadsCard line := by simp [headsCard_iff_isSome, hname]
      simpa [hname, hheads] using ih
    | some found =>
      have hheads : HeadsCard line := by simp [headsCard_iff_isSome, hname]
      simpa [hname, hheads] using ⟨nameOfLine?_eq_some_iff.mp hname, ih⟩

/-! ## Lists of cards -/

/-- What the two lines of a card consist of. -/
structure Card where
  indent : List Char
  index : List Char
  id : List Char
  driver : List Char
  name : List Char
  description : List Char
  indent_blank : ∀ c ∈ indent, isBlank c = true ∧ c ≠ '\n'
  index_word : (word? index).isSome = true
  id_open : ¬[']', ':', ' '] <:+: id
  id_line : '\n' ∉ id
  driver_solid : ∀ c ∈ driver, isBlank c = false
  name_trimmed : Trimmed name
  name_line : '\n' ∉ name
  description_line : '\n' ∉ description
  /-- The description does not begin with a number and a space. -/
  description_plain : ∀ index rest, ¬Numbered description index rest

namespace Card

/-- What stands behind the bracket. -/
def long (card : Card) : List Char := card.driver ++ ([' ', '-', ' '] ++ card.name)

/-- The first line of a card, such as ` 0 [PCH]: HDA-Intel - HDA Intel PCH`. -/
def header (card : Card) : List Char :=
  card.indent ++ (card.index ++ ([' '] ++ ('[' :: card.id ++ ([']', ':', ' '] ++ card.long))))

theorem names_header (card : Card) : Names card.header (String.ofList card.name) := by
  have hnumbered : Numbered card.header card.index ('[' :: card.id ++ ([']', ':', ' '] ++ card.long)) :=
    ⟨card.index_word, card.indent, fun c hc => (card.indent_blank c hc).1, rfl⟩
  have hopen : ¬[']', ':', ' '] <:+: '[' :: card.id := by
    intro hoccurs
    rcases List.infix_cons_iff.mp hoccurs with hfront | hlater
    · simp at hfront
    · exact card.id_open hlater
  have hdriver : ' ' ∉ card.driver := fun hc => absurd (card.driver_solid _ hc) (by decide)
  refine ⟨_, _, _, _, _, hnumbered, cuts_of_absent (by decide) hopen,
    .behindDriver (cuts_of_notMem hdriver), ?_⟩
  rw [card.name_trimmed.trim_eq]

theorem header_line (card : Card) : '\n' ∉ card.header := by
  have hindex : '\n' ∉ card.index :=
    fun hc => absurd (isBlank_of_mem_word card.index_word hc) (by decide)
  have hdriver : '\n' ∉ card.driver := fun hc => absurd (card.driver_solid _ hc) (by decide)
  have hindent : '\n' ∉ card.indent := fun hc => (card.indent_blank _ hc).2 rfl
  simp [header, long, hindent, card.id_line, card.name_line, hindex, hdriver]

/-- A header ends in the name, or in the space before it. -/
theorem header_getLast? (card : Card) : card.header.getLast? ≠ some '\r' := by
  have hname : card.name.getLast? ≠ some '\r' := by
    intro hlast
    exact absurd (card.name_trimmed.last _ hlast) (by decide)
  cases hempty : card.name.getLast? with
  | none => simp [header, long, List.getLast?_append, List.getLast?_cons, hempty]
  | some c =>
    rw [hempty] at hname
    simpa [header, long, List.getLast?_append, List.getLast?_cons, hempty] using hname

end Card

/-- How a line may end. -/
inductive LineEnd where
  | lf
  | crlf
  deriving DecidableEq

namespace LineEnd

/-- What stands before the line feed. -/
def mark : LineEnd → List Char
  | lf => []
  | crlf => ['\r']

def chars (ending : LineEnd) : List Char := ending.mark ++ ['\n']

end LineEnd

/-- The list of the cards. -/
def written (ending : LineEnd) (cards : List Card) : List Char :=
  cards.flatMap fun card => card.header ++ ending.chars ++ (card.description ++ ending.chars)

theorem lines_line (ending : LineEnd) (hline : '\n' ∉ line) (rest : List Char) :
    lines (line ++ ending.chars ++ rest) = chomp (line ++ ending.mark) :: lines rest := by
  have hmark : '\n' ∉ line ++ ending.mark := by
    cases ending <;> simp [LineEnd.mark, hline]
  have hsame : line ++ ending.chars ++ rest = line ++ ending.mark ++ '\n' :: rest := by
    simp [LineEnd.chars]
  rw [hsame, lines_append hmark]

/-- A header is a line as it stands, whatever its end is. -/
theorem Card.chomp_header (card : Card) (ending : LineEnd) :
    chomp (card.header ++ ending.mark) = card.header := by
  cases ending with
  | lf =>
    rw [LineEnd.mark, List.append_nil]
    exact chomp_of_ne card.header_getLast?
  | crlf => exact chomp_concat _

/-- A description gives no name, also without a carriage return at its end. -/
theorem Card.nameOfLine?_description (card : Card) (ending : LineEnd) :
    nameOfLine? (chomp (card.description ++ ending.mark)) = none := by
  apply nameOfLine?_eq_none
  intro index rest hnumbered
  have hfront : chomp (card.description ++ ending.mark) <+: card.description := by
    cases ending with
    | lf => simpa [LineEnd.mark] using chomp_isPrefix card.description
    | crlf => simp [LineEnd.mark]
  obtain ⟨more, hmore⟩ := hfront
  have hwhole := hnumbered.append more
  rw [hmore] at hwhole
  exact card.description_plain _ _ hwhole

/-- The names in a list in front of further lines. -/
theorem names_written_append (ending : LineEnd) (cards : List Card) (rest : List Char) :
    (lines (written ending cards ++ rest)).filterMap nameOfLine? =
      cards.map (fun card => String.ofList card.name) ++ (lines rest).filterMap nameOfLine? := by
  induction cards with
  | nil => rfl
  | cons card cards ih =>
    have hfirst : nameOfLine? card.header = some (String.ofList card.name) :=
      nameOfLine?_eq_some_iff.mpr card.names_header
    have hsplit : written ending (card :: cards) ++ rest =
        card.header ++ ending.chars ++
          (card.description ++ ending.chars ++ (written ending cards ++ rest)) := by
      simp [written]
    rw [hsplit, lines_line ending card.header_line, lines_line ending card.description_line,
      card.chomp_header, List.filterMap_cons_some hfirst,
      List.filterMap_cons_none (card.nameOfLine?_description ending), ih]
    rfl

/-- A list that the kernel writes gives the names of its cards, also when its last line has no end; each
number of 32 bits may be an index. In any text, each line that begins with a number and closes a bracket
later on gives the name that it says, and nothing else gives any. -/
theorem card_names_recovered :
    (∀ ending cards,
        names (String.ofList (written ending cards)) = cards.map fun card => String.ofList card.name) ∧
      (∀ ending cards (last : Card),
        names (String.ofList (written ending cards ++ (last.header ++ ending.chars ++ last.description))) =
          (cards ++ [last]).map fun card => String.ofList card.name) ∧
      (∀ number : UInt32, word? (Nat.toDigits 10 number.toNat) = some number) ∧
      ∀ text : String,
        List.Forall₂ Names ((lines text.toList).filter (HeadsCard ·)) (names text) := by
  refine ⟨?_, ?_, word?_toDigits, fun text => names_forall₂ _⟩
  · intro ending cards
    have hnames := names_written_append ending cards []
    rw [names, String.toList_ofList]
    simpa [lines, linesFrom] using hnames
  · intro ending cards last
    have hheader : nameOfLine? last.header = some (String.ofList last.name) :=
      nameOfLine?_eq_some_iff.mpr last.names_header
    have hdescription : (lines last.description).filterMap nameOfLine? = [] := by
      rw [lines_of_notMem last.description_line]
      split
      · rfl
      · exact List.filterMap_cons_none (nameOfLine?_eq_none last.description_plain)
    rw [names, String.toList_ofList, names_written_append, lines_line ending last.header_line,
      last.chomp_header, List.filterMap_cons_some hheader, hdescription, List.map_append]
    rfl

theorem Card.indent_space : ∀ c ∈ [' '], isBlank c = true ∧ c ≠ '\n' := by
  intro c hc
  rw [List.mem_singleton.mp hc]
  decide

/-- The card of a computer's own sound. -/
def Card.onBoard : Card where
  indent := [' ']
  index := ['0']
  id := "PCH            ".toList
  driver := "HDA-Intel".toList
  name := "HDA Intel PCH".toList
  description := "    HDA Intel PCH at 0xf7f10000 irq 32".toList
  indent_blank := indent_space
  index_word := by decide
  id_open := by decide +kernel
  id_line := by decide +kernel
  driver_solid := solid_of_all (by decide +kernel)
  name_trimmed := trimmed_iff.mpr (by decide +kernel)
  name_line := by decide +kernel
  description_line := by decide +kernel
  description_plain := not_numbered (by decide +kernel)

/-- The card of a camera whose texts hold the separators too. -/
def Card.camera : Card where
  indent := []
  index := "12".toList
  id := "A - B]:".toList
  driver := "USB]:".toList
  name := "C]: D - E".toList
  description := " high]: speed - 480".toList
  indent_blank := by simp
  index_word := by decide
  id_open := by decide +kernel
  id_line := by decide +kernel
  driver_solid := solid_of_all (by decide +kernel)
  name_trimmed := trimmed_iff.mpr (by decide +kernel)
  name_line := by decide +kernel
  description_line := by decide +kernel
  description_plain := not_numbered (by decide +kernel)

theorem camera_recovered_behind_onBoard :
    written .crlf [.onBoard, .camera] =
        (" 0 [PCH            ]: HDA-Intel - HDA Intel PCH\r\n" ++
          "    HDA Intel PCH at 0xf7f10000 irq 32\r\n" ++
          "12 [A - B]:]: USB]: - C]: D - E\r\n high]: speed - 480\r\n").toList ∧
      names (String.ofList (written .crlf [.onBoard, .camera])) = ["HDA Intel PCH", "C]: D - E"] :=
  ⟨by decide +kernel, card_names_recovered.1 .crlf [.onBoard, .camera]⟩

end VideoCapture.SoundCards
