import VideoCapture.Proofs.Settings.Fields
import Mathlib.Data.Set.Insert

/-!
# Settings documents

What a document of settings loads as. Whatever is saved is loaded again, and a document may leave out
fields, have them in another order and have unknown ones; the records inside it must be complete.

## Main definitions

* `Settings.HeldBy` — the entries of a document are some of the fields of given settings, among others
  that are unknown.

The main statements are `Settings.load_render` and `Settings.partial_documents_load`.
-/

namespace VideoCapture

open Json

namespace Settings

variable {s s' s₀ : Settings} {entries : List (Option String × Value)} {seen : List SettingsField}
  {text : String}

/-! ## Reading entries -/

/-- The keys that settings know. -/
def keys : List String := SettingsField.all.map SettingsField.key

theorem key_mem_keys (f : SettingsField) : f.key ∈ keys := by
  cases f <;> decide

/-- The fields whose values are there are those of `s`; the others stay. -/
theorem readFields_of_described (hkeyed : Keyed keys entries)
    (hintact : Value.entriesIntact entries = true)
    (hdescribed : ∀ (f : SettingsField) v, (some f.key, v) ∈ entries → f.DescribedBy s v)
    (seen : List SettingsField) (hseen : ∀ f ∈ seen, some f.key ∉ entries.map Prod.fst)
    (s₀ : Settings) :
    ∃ s', readFields seen s₀ entries = .ok s' ∧ ∀ f : SettingsField,
      f.Same s' (if some f.key ∈ entries.map Prod.fst then s else s₀) := by
  induction entries generalizing seen s₀ with
  | nil => exact ⟨s₀, rfl, fun f => f.same_refl s₀⟩
  | cons e entries ih =>
    obtain ⟨key, v⟩ := e
    obtain ⟨k, rfl⟩ := hkeyed.exists_text
    rw [Value.entriesIntact, Bool.and_eq_true] at hintact
    have htail (f : SettingsField) (w : Value) (hw : (some f.key, w) ∈ entries) : f.DescribedBy s w :=
      hdescribed f w (List.mem_cons_of_mem _ hw)
    cases hfind : SettingsField.ofKey? k with
    | none =>
      obtain ⟨s', hs', hsame⟩ := ih hkeyed.tail hintact.2 htail seen
        (fun f hf hmem => hseen f hf (List.mem_cons_of_mem _ hmem)) s₀
      refine ⟨s', ?_, fun f => ?_⟩
      · simpa [readFields, hfind, hintact.1] using hs'
      · rw [if_congr (mem_keys_cons_of_ne (SettingsField.key_ne_of_ofKey? hfind f)) rfl rfl]
        exact hsame f
    | some f =>
      obtain rfl := SettingsField.key_of_ofKey? hfind
      have hnot := hkeyed.notMem_tail (key_mem_keys f)
      have hfresh : f ∉ seen := fun hf => hseen f hf List.mem_cons_self
      have hread := SettingsField.read_of_describedBy hintact.1 (hdescribed f v List.mem_cons_self) s₀
      obtain ⟨s', hs', hsame⟩ := ih hkeyed.tail hintact.2 htail (f :: seen) (by
        intro g hg hmem
        rcases List.mem_cons.mp hg with rfl | hg
        · exact hnot hmem
        · exact hseen g hg (List.mem_cons_of_mem _ hmem)) (f.copy s s₀)
      refine ⟨s', ?_, fun g => ?_⟩
      · simpa [readFields, hfind, hfresh, hread] using hs'
      · have hg := hsame g
        by_cases heq : g = f
        · subst heq
          have hhere : some g.key ∈ ((some g.key, v) :: entries).map Prod.fst := List.mem_cons_self
          rw [if_neg hnot] at hg
          rw [if_pos hhere]
          exact hg.trans (g.same_copy s s₀)
        · have hkey : g.key ≠ f.key := fun h => heq (SettingsField.key_injective h)
          rw [if_congr (mem_keys_cons_of_ne hkey) rfl rfl]
          split
          · rwa [if_pos ‹_›] at hg
          · rw [if_neg ‹_›] at hg
            exact hg.trans (SettingsField.same_copy_of_ne heq s s₀)

/-- Entries are read only if no field stands among them once more. -/
theorem count_of_readFields (h : readFields seen s₀ entries = .ok s') (f : SettingsField) :
    (entries.map Prod.fst).count (some f.key) + (if f ∈ seen then 1 else 0) ≤ 1 := by
  induction entries generalizing seen s₀ with
  | nil =>
    rw [List.map_nil, List.count_nil]
    split <;> omega
  | cons e entries ih =>
    obtain ⟨k | k, v⟩ := e
    · simp [readFields] at h
    · rw [readFields] at h
      cases hfind : SettingsField.ofKey? k with
      | none =>
        have hne := (SettingsField.key_ne_of_ofKey? hfind f).symm
        simp only [hfind] at h
        split at h
        · simpa [hne] using ih h
        · cases h
      | some g =>
        obtain rfl := SettingsField.key_of_ofKey? hfind
        simp only [hfind] at h
        split at h
        · cases h
        · rename_i hfresh
          cases hread : g.read v s₀ with
          | error e => simp [hread] at h
          | ok s₁ =>
            simp only [hread] at h
            have hcount := ih h
            by_cases heq : f = g
            · subst heq
              simpa [hfresh] using hcount
            · have hkey : ¬ g.key = f.key := fun hk => heq (SettingsField.key_injective hk).symm
              simpa [heq, hkey] using hcount

/-- Entries are read only if every field among them is. -/
theorem read_of_readFields (h : readFields seen s₀ entries = .ok s') {f : SettingsField} {v : Value}
    (hmem : (some f.key, v) ∈ entries) : ∃ before after, f.read v before = .ok after := by
  induction entries generalizing seen s₀ with
  | nil => cases hmem
  | cons e entries ih =>
    obtain ⟨k | k, w⟩ := e
    · simp [readFields] at h
    · rw [readFields] at h
      cases hfind : SettingsField.ofKey? k with
      | none =>
        have hne := SettingsField.key_ne_of_ofKey? hfind f
        simp only [hfind] at h
        split at h
        · exact ih h (by simpa [hne] using hmem)
        · cases h
      | some g =>
        obtain rfl := SettingsField.key_of_ofKey? hfind
        simp only [hfind] at h
        split at h
        · cases h
        · cases hread : g.read w s₀ with
          | error e => simp [hread] at h
          | ok s₁ =>
            simp only [hread] at h
            rcases List.mem_cons.mp hmem with heq | hmem
            · obtain ⟨hkey, rfl⟩ : f.key = g.key ∧ v = w := by simpa using heq
              obtain rfl := SettingsField.key_injective hkey
              exact ⟨s₀, s₁, hread⟩
            · exact ih h hmem

/-! ## Documents -/

/-- The document is a record, and its fields are read from left to right. -/
theorem parse_of_writtenAs (h : (Value.record entries .closed).WrittenAs text) :
    parse text = readFields [] default entries := by
  rw [parse, Document.ofText_of_writtenAs h, ofValue]
  cases readFields [] default entries <;> rfl

theorem load_of_parse (h : parse text = .ok s) : load text = .ok s := by
  rw [load, h]
  rfl

theorem load_of_not_ok (h : ∀ s, parse text ≠ .ok s) :
    ∃ reason, load text = .error (.invalidSettings reason) := by
  cases hparse : parse text with
  | ok s => exact absurd hparse (h s)
  | error e => exact ⟨e.message, by rw [load, hparse]; rfl⟩

/-- The entries are the fields of `s` that are in `present`, each once and in any order, and any number of
entries with unknown keys anywhere among them. -/
structure HeldBy (s : Settings) (present : Set SettingsField)
    (entries : List (Option String × Value)) : Prop where
  keyed : Keyed keys entries
  mem_iff : ∀ f : SettingsField, some f.key ∈ entries.map Prod.fst ↔ f ∈ present
  described : ∀ (f : SettingsField) v, (some f.key, v) ∈ entries → f.DescribedBy s v

theorem parse_of_heldBy {present : Set SettingsField}
    (h : (Value.record entries .closed).WrittenAs text) (hs : s.HeldBy present entries) :
    ∃ loaded, parse text = .ok loaded ∧ ∀ f : SettingsField,
      (f ∈ present → f.Same loaded s) ∧ (f ∉ present → f.Same loaded default) := by
  have hintact : Value.entriesIntact entries = true := by simpa [Value.isIntact] using h.intact
  obtain ⟨loaded, hloaded, hsame⟩ :=
    readFields_of_described hs.keyed hintact hs.described [] (by simp) default
  refine ⟨loaded, (parse_of_writtenAs h).trans hloaded, fun f => ⟨fun hf => ?_, fun hf => ?_⟩⟩
  · simpa [(hs.mem_iff f).mpr hf] using hsame f
  · have hnot : some f.key ∉ entries.map Prod.fst := fun hmem => hf ((hs.mem_iff f).mp hmem)
    rw [← if_neg hnot (t := s) (e := default)]
    exact hsame f

/-! ## Saved settings -/

/-- The value that is written for a field. -/
def fieldJson (s : Settings) : SettingsField → Value
  | .device => s.device.toJson
  | .channel => jsonWord s.channel
  | .format => .text (some s.format.key)
  | .preview => s.preview.toJson
  | .stream => s.stream.toJson
  | .adjustments => s.adjustments.elim .null AdjustmentSet.toJson

theorem describedBy_fieldJson (s : Settings) (f : SettingsField) : f.DescribedBy s (s.fieldJson f) := by
  cases f with
  | device => exact holds_jsonTexts s.device.nodup_fields
  | channel => rfl
  | format => rfl
  | preview => exact holds_jsonWords s.preview.nodup_fields
  | stream => exact holds_jsonWords s.stream.nodup_fields
  | adjustments =>
    obtain ⟨device, channel, format, preview, stream, adjustments⟩ := s
    cases adjustments with
    | none => rfl
    | some a => exact holds_jsonWords a.nodup_fields

theorem printable_fieldJson (s : Settings) (f : SettingsField) : (s.fieldJson f).Printable := by
  cases f with
  | device => exact printable_jsonTexts s.device.fields
  | channel => exact printable_jsonWord s.channel
  | format => exact .text s.format.key
  | preview => exact printable_jsonWords s.preview.fields
  | stream => exact printable_jsonWords s.stream.fields
  | adjustments =>
    obtain ⟨device, channel, format, preview, stream, adjustments⟩ := s
    cases adjustments with
    | none => exact .null
    | some a => exact printable_jsonWords a.fields

/-- The entries of the given fields, one after the other. -/
def entriesOf (s : Settings) (fields : List SettingsField) : List (Option String × Value) :=
  fields.map fun f => (some f.key, s.fieldJson f)

theorem keys_entriesOf (s : Settings) (fields : List SettingsField) :
    (s.entriesOf fields).map Prod.fst = fields.map fun f => some f.key := by
  simp [entriesOf]

theorem heldBy_entriesOf (s : Settings) {fields : List SettingsField} (hnodup : fields.Nodup) :
    s.HeldBy {f | f ∈ fields} (s.entriesOf fields) where
  keyed := by
    refine ⟨?_, fun key _ => ?_⟩
    · simp [keys_entriesOf]
    · rw [keys_entriesOf]
      refine List.nodup_iff_count_le_one.mp (hnodup.map fun f g h => ?_) _
      exact SettingsField.key_injective (Option.some.inj h)
  mem_iff f := by
    rw [keys_entriesOf, List.mem_map]
    constructor
    · rintro ⟨g, hg, heq⟩
      exact SettingsField.key_injective (Option.some.inj heq) ▸ hg
    · exact fun hf => ⟨f, hf, rfl⟩
  described f v hv := by
    obtain ⟨g, -, heq⟩ := List.mem_map.mp hv
    obtain ⟨hkey, rfl⟩ : g.key = f.key ∧ s.fieldJson g = v := by simpa using heq
    obtain rfl := SettingsField.key_injective hkey
    exact s.describedBy_fieldJson g

theorem printable_entriesOf (s : Settings) (fields : List SettingsField) :
    (Value.record (s.entriesOf fields) .closed).Printable := by
  refine .record (fun e he => ?_) fun e he => ?_
  · obtain ⟨f, -, rfl⟩ := List.mem_map.mp he
    rfl
  · obtain ⟨f, -, rfl⟩ := List.mem_map.mp he
    exact s.printable_fieldJson f

/-- Saved settings are a JSON text, and they are loaded again as they were saved. -/
theorem load_render (s : Settings) : s.toJson.WrittenAs s.render ∧ load s.render = .ok s := by
  have hwritten : (Value.record (s.entriesOf SettingsField.all) .closed).WrittenAs s.render :=
    (s.printable_entriesOf SettingsField.all).writtenAs
  have hheld : s.HeldBy {f | f ∈ SettingsField.all} (s.entriesOf SettingsField.all) :=
    s.heldBy_entriesOf (by decide)
  obtain ⟨loaded, hloaded, hsame⟩ := parse_of_heldBy hwritten hheld
  obtain rfl : loaded = s := SettingsField.eq_of_same fun f => (hsame f).1 f.mem_all
  exact ⟨hwritten, load_of_parse hloaded⟩

/-! ## Partial documents -/

/-- A document that is a record takes its fields from the settings that it holds, and the defaults where it
leaves them out. It is refused if it has one of the fields twice, or if a record inside lacks a field or has
it twice. -/
theorem partial_documents_load (h : (Value.record entries .closed).WrittenAs text) :
    (∀ s present, HeldBy s present entries → ∃ loaded, load text = .ok loaded ∧
      (∀ f ∈ present, f.Same loaded s) ∧ ∀ f ∉ present, f.Same loaded default) ∧
    (∀ f : SettingsField, 2 ≤ (entries.map Prod.fst).count (some f.key) →
      ∃ reason, load text = .error (.invalidSettings reason)) ∧
    ∀ (f : SettingsField) v, (some f.key, v) ∈ entries → f.names ≠ [] → (f = .adjustments → v ≠ .null) →
      ¬ v.HasAll f.names → ∃ reason, load text = .error (.invalidSettings reason) := by
  refine ⟨fun s present hs => ?_, fun f hcount => ?_, fun f v hmem hnames hnull hlacks => ?_⟩
  · obtain ⟨loaded, hloaded, hsame⟩ := parse_of_heldBy h hs
    exact ⟨loaded, load_of_parse hloaded, fun f => (hsame f).1, fun f => (hsame f).2⟩
  · refine load_of_not_ok fun s hs => ?_
    rw [parse_of_writtenAs h] at hs
    have hle := count_of_readFields hs f
    simp only [List.not_mem_nil, if_false] at hle
    omega
  · refine load_of_not_ok fun s hs => ?_
    rw [parse_of_writtenAs h] at hs
    obtain ⟨before, after, hread⟩ := read_of_readFields hs hmem
    exact hlacks (SettingsField.hasAll_of_read hread hnames hnull)

/-- A record with the entries, as it is printed. -/
def documentOf (entries : List (Option String × Value)) : String :=
  String.ofList ((Value.record entries .closed).pretty 0)

/-- The stream and the channel, behind an unknown entry. The stream is out of order and has an unknown entry
of its own. -/
def sampleEntries : List (Option String × Value) :=
  [(some "note", .list [.boolean true, .record [(some "deep", .null)] .closed] .closed),
    (some "stream", .record
      [(some "fps", jsonWord 25), (some "codec", .text (some "raw")), (some "width", jsonWord 8),
        (some "height", jsonWord 6)] .closed),
    (some "channel", jsonWord 7)]

theorem partial_documents_load_of_samples :
    (∃ loaded, load (documentOf sampleEntries) = .ok loaded ∧ loaded.channel = 7 ∧
      loaded.stream = ⟨8, 6, 25⟩ ∧ loaded.preview = Geometry.previewDefault) ∧
    (∃ reason, load (documentOf [(some "channel", jsonWord 1), (some "channel", jsonWord 2)]) =
      .error (.invalidSettings reason)) ∧
    ∃ reason, load (documentOf [(some "preview", .record
      [(some "width", jsonWord 8), (some "fps", jsonWord 25)] .closed)]) =
        .error (.invalidSettings reason) := by
  have hword (n : UInt32) : (jsonWord n).Printable := printable_jsonWord n
  refine ⟨?_, ?_, ?_⟩
  · have hprintable : (Value.record sampleEntries .closed).Printable := by
      have hdeep : (Value.record [(some "deep", .null)] .closed).Printable :=
        .record (by simp) (by simp [Value.Printable.null])
      have hnote : (Value.list [.boolean true, .record [(some "deep", .null)] .closed] .closed).Printable :=
        .list (by simp [Value.Printable.boolean, hdeep])
      have hstream : (Value.record [(some "fps", jsonWord 25), (some "codec", .text (some "raw")),
          (some "width", jsonWord 8), (some "height", jsonWord 6)] .closed).Printable :=
        .record (by simp) (by simp [hword, Value.Printable.text])
      exact .record (by simp [sampleEntries]) (by simp [sampleEntries, hword, hnote, hstream])
    have hheld : HeldBy { default with channel := 7, stream := ⟨8, 6, 25⟩ } {.stream, .channel}
        sampleEntries := by
      refine ⟨⟨by decide, by decide⟩, fun f => ?_, fun f v hv => ?_⟩
      · cases f <;> simp [sampleEntries, SettingsField.key]
      · cases f <;> simp [sampleEntries, SettingsField.key] at hv
        · exact hv
        · refine ⟨_, hv, ⟨by decide, by decide⟩, ?_⟩
          simp [Geometry.fields, DescribesWord]
    obtain ⟨loaded, hloaded, hpresent, habsent⟩ :=
      (partial_documents_load hprintable.writtenAs).1 _ _ hheld
    exact ⟨loaded, hloaded, hpresent .channel (by simp), hpresent .stream (by simp),
      habsent .preview (by simp)⟩
  · have hprintable : (Value.record [(some "channel", jsonWord 1), (some "channel", jsonWord 2)]
        .closed).Printable := .record (by simp) (by simp [hword])
    exact (partial_documents_load hprintable.writtenAs).2.1 .channel (by decide)
  · have hprintable : (Value.record [(some "preview", .record
        [(some "width", jsonWord 8), (some "fps", jsonWord 25)] .closed)] .closed).Printable := by
      refine .record (by simp) ?_
      simpa using Value.Printable.record (by simp) (by simp [hword])
    refine (partial_documents_load hprintable.writtenAs).2.2 .preview _ List.mem_cons_self (by decide)
      (by simp) ?_
    simp [Value.HasAll, SettingsField.names]

end Settings

end VideoCapture
