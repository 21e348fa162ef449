import VideoCapture.Json.Value
import VideoCapture.Proofs.Json.Spelling

/-!
# The tokens of a tree

A tree without damage has its tokens, and these make the tree again. So a text that spells the tokens of
a tree is a JSON text for it.

## Main definitions

* `Value.tokens` — the tokens of a tree.
* `Value.WrittenAs` — a text for a tree.

The main statement is `Document.ofText_of_writtenAs`.
-/

namespace VideoCapture.Json

mutual

/-- The tokens of a tree; a missing value has none. -/
def Value.tokens : Value → List Token
  | .null => [.null]
  | .boolean b => [.boolean b]
  | .numeral n => [.numeral n]
  | .text s => [.text s]
  | .list items _ => .bracketOpen :: itemTokens true items ++ [.bracketClose]
  | .record entries _ => .braceOpen :: entryTokens true entries ++ [.braceClose]
  | .broken => []

/-- The tokens of items, each but the first behind a comma. -/
def itemTokens (first : Bool) : List Value → List Token
  | [] => []
  | v :: rest => (if first then [] else [.comma]) ++ v.tokens ++ itemTokens false rest

/-- The tokens of entries, each but the first behind a comma. -/
def entryTokens (first : Bool) : List (Option String × Value) → List Token
  | [] => []
  | (key, v) :: rest =>
    (if first then [] else [.comma]) ++ .text key :: .colon :: v.tokens ++ entryTokens false rest

end

/-- The text is a JSON text for the value, which has no damage. -/
structure Value.WrittenAs (v : Value) (text : String) : Prop where
  intact : v.isIntact = true
  spells : Spells v.tokens text.toList

namespace Build

/-- The first item may stand where the list could end. -/
theorem feed_item {stack : List Frame} {t : Token} (ht : t ≠ .bracketClose) :
    feed (reading .item stack) t = value .item stack t := by
  cases stack with
  | nil => rfl
  | cons => cases t <;> first | rfl | exact absurd rfl ht

/-- A token that is a value on its own. -/
theorem feed_scalar {slot : Slot} (hslot : slot = .value ∨ slot = .item) (stack : List Frame)
    {t : Token} {v : Value} (ht : t.scalar? = some v) : feed (reading slot stack) t = put v stack := by
  have hvalue (slot : Slot) : value slot stack t = put v stack := by
    cases t <;> simp_all [value, Token.scalar?]
  rcases hslot with rfl | rfl
  · exact hvalue .value
  · rw [feed_item (by rintro rfl; cases ht), hvalue]

mutual

/-- The tokens of a value put it where one is due. -/
theorem foldl_tokens : ∀ {v : Value}, v.isIntact = true → ∀ {slot : Slot},
    slot = .value ∨ slot = .item → ∀ stack : List Frame,
      v.tokens.foldl feed (reading slot stack) = put v stack
  | .null, _, _, hslot, stack => feed_scalar hslot stack rfl
  | .boolean _, _, _, hslot, stack => feed_scalar hslot stack rfl
  | .numeral _, _, _, hslot, stack => feed_scalar hslot stack rfl
  | .text _, _, _, hslot, stack => feed_scalar hslot stack rfl
  | .list items ending, h, slot, hslot, stack => by
    obtain ⟨hending, hitems⟩ : ending = .closed ∧ Value.areIntact items = true := by
      simpa [Value.isIntact] using h
    have hopen : feed (reading slot stack) .bracketOpen = reading .item (.list [] :: stack) := by
      rcases hslot with rfl | rfl
      · rfl
      · exact feed_item (by simp)
    have hread := foldl_itemTokens hitems true [] stack
    rw [Value.tokens, List.cons_append, List.foldl_cons, hopen, List.foldl_append]
    refine (congrArg (List.foldl feed · [.bracketClose]) hread).trans ?_
    cases items <;> simp [feed, Frame.close, hending]
  | .record entries ending, h, slot, hslot, stack => by
    obtain ⟨hending, hentries⟩ : ending = .closed ∧ Value.entriesIntact entries = true := by
      simpa [Value.isIntact] using h
    have hopen : feed (reading slot stack) .braceOpen =
        reading .firstKey (.record [] none :: stack) := by
      rcases hslot with rfl | rfl
      · rfl
      · exact feed_item (by simp)
    obtain ⟨key, hread⟩ := foldl_entryTokens hentries true [] none stack
    rw [Value.tokens, List.cons_append, List.foldl_cons, hopen, List.foldl_append]
    refine (congrArg (List.foldl feed · [.braceClose]) hread).trans ?_
    cases entries <;> simp [feed, Frame.close, hending]

theorem foldl_itemTokens : ∀ {items : List Value}, Value.areIntact items = true →
    ∀ (first : Bool) (read : List Value) (stack : List Frame),
      (itemTokens first items).foldl feed
          (reading (if first then .item else .comma) (.list read :: stack)) =
        reading (if first && items.isEmpty then .item else .comma)
          (.list (items.reverse ++ read) :: stack)
  | [], _, first, read, stack => by cases first <;> rfl
  | v :: rest, h, first, read, stack => by
    obtain ⟨hv, hrest⟩ : v.isIntact = true ∧ Value.areIntact rest = true := by
      simpa [Value.areIntact] using h
    have hput : put v (.list read :: stack) = reading .comma (.list (v :: read) :: stack) := rfl
    have hfirst : ((if first then [] else [Token.comma]) ++ v.tokens).foldl feed
        (reading (if first then .item else .comma) (.list read :: stack)) =
          reading .comma (.list (v :: read) :: stack) := by
      cases first with
      | true => exact foldl_tokens hv (.inr rfl) _
      | false => exact foldl_tokens hv (.inl rfl) _
    rw [itemTokens, List.foldl_append, hfirst]
    refine (foldl_itemTokens hrest false (v :: read) stack).trans ?_
    simp

theorem foldl_entryTokens : ∀ {entries : List (Option String × Value)},
    Value.entriesIntact entries = true → ∀ (first : Bool) (read : List (Option String × Value))
      (key : Option String) (stack : List Frame),
      ∃ last, (entryTokens first entries).foldl feed
          (reading (if first then .firstKey else .comma) (.record read key :: stack)) =
        reading (if first && entries.isEmpty then .firstKey else .comma)
          (.record (entries.reverse ++ read) last :: stack)
  | [], _, first, read, key, stack => ⟨key, by cases first <;> rfl⟩
  | (k, v) :: rest, h, first, read, key, stack => by
    obtain ⟨hv, hrest⟩ : v.isIntact = true ∧ Value.entriesIntact rest = true := by
      simpa [Value.entriesIntact] using h
    have hfirst : ((if first then [] else [Token.comma]) ++ Token.text k :: Token.colon :: v.tokens).foldl
          feed (reading (if first then .firstKey else .comma) (.record read key :: stack)) =
        reading .comma (.record ((k, v) :: read) k :: stack) := by
      cases first with
      | true => exact foldl_tokens hv (.inl rfl) _
      | false => exact foldl_tokens hv (.inl rfl) _
    obtain ⟨last, hlast⟩ := foldl_entryTokens hrest false ((k, v) :: read) k stack
    refine ⟨last, ?_⟩
    rw [entryTokens, List.foldl_append, hfirst]
    refine hlast.trans ?_
    simp

end

end Build

/-- A text for a value is read as that value. -/
theorem Document.ofText_of_writtenAs {v : Value} {text : String} (h : v.WrittenAs text) :
    Document.ofText text = ⟨v, true⟩ := by
  rw [ofText, tokens, run_of_spells h.spells, ofTokens,
    Build.foldl_tokens h.intact (.inl rfl) []]
  rfl

end VideoCapture.Json
