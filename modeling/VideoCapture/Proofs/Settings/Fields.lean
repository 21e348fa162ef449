import VideoCapture.Proofs.Settings.Records

/-!
# The fields of a settings document

Which values stand for the fields of given settings, and what reading the entries of a document comes
to: the fields that are there are taken from the settings, the others stay as they were.

## Main definitions

* `SettingsField.Same` — two settings agree on a field.
* `SettingsField.DescribedBy` — a value stands for the field of given settings.
* `SettingsField.names` — the fields of the record that stands for a field.

The main statements are `readFields_of_described`, `count_of_readFields` and `hasAll_of_read`.
-/

namespace VideoCapture

open Json

/-! ## Records inside -/

def Descriptor.fields (d : Descriptor) : List (String × String) :=
  [("framework", d.framework), ("source", d.source), ("name", d.name)]

def Geometry.fields (g : Geometry) : List (String × UInt32) :=
  [("width", g.width), ("height", g.height), ("fps", g.fps)]

def AdjustmentSet.fields (s : AdjustmentSet) : List (String × UInt32) :=
  [("colour", s.colour), ("brightness", s.brightness), ("whiteness", s.whiteness),
    ("contrast", s.contrast)]

theorem Descriptor.nodup_fields (d : Descriptor) : (d.fields.map Prod.fst).Nodup := by
  simp [fields]

theorem Geometry.nodup_fields (g : Geometry) : (g.fields.map Prod.fst).Nodup := by
  simp [fields]

theorem AdjustmentSet.nodup_fields (s : AdjustmentSet) : (s.fields.map Prod.fst).Nodup := by
  simp [fields]

def DescribesText (s : String) (v : Value) : Prop := v = .text (some s)

def DescribesWord (n : UInt32) (v : Value) : Prop := v = jsonWord n

theorem readWord_jsonWord (n : UInt32) : readWord (jsonWord n) = .ok n := by
  have hn : n.toNat < 4294967296 := n.toNat_lt
  have hreading : (Numeral.ofNat n.toNat).reading = .integer n.toNat :=
    Numeral.reading_ofNat (by rw [Numeral.significandMax]; omega)
  have hbounds : 0 ≤ (n.toNat : Int) ∧ (n.toNat : Int) < 0x100000000 := by omega
  simp only [readWord, jsonWord, hreading, if_pos hbounds, Int.toNat_natCast, UInt32.ofNat_toNat]

theorem readText_of_describes (s : String) (v : Value) (h : DescribesText s v) :
    readText v = .ok s := by
  rw [h]
  rfl

theorem readWord_of_describes (n : UInt32) (v : Value) (h : DescribesWord n v) :
    readWord v = .ok n := by
  rw [h]
  exact readWord_jsonWord n

theorem printable_jsonRecord {fields : List (String × Value)} (h : ∀ f ∈ fields, f.2.Printable) :
    (jsonRecord fields).Printable := by
  refine .record (fun e he => ?_) fun e he => ?_
  · obtain ⟨f, -, rfl⟩ := List.mem_map.mp he
    rfl
  · obtain ⟨f, hf, rfl⟩ := List.mem_map.mp he
    exact h f hf

theorem printable_jsonWord (n : UInt32) : (jsonWord n).Printable :=
  .numeral (Numeral.wellFormed_ofNat n.toNat)

/-- A record of texts, as it is written. -/
def jsonTexts (fields : List (String × String)) : Value :=
  jsonRecord (fields.map fun f => (f.1, .text (some f.2)))

/-- A record of numbers, as it is written. -/
def jsonWords (fields : List (String × UInt32)) : Value :=
  jsonRecord (fields.map fun f => (f.1, jsonWord f.2))

theorem holds_jsonTexts {fields : List (String × String)} (h : (fields.map Prod.fst).Nodup) :
    (jsonTexts fields).Holds DescribesText fields := by
  have hwrite (s : String) : DescribesText s (.text (some s)) := rfl
  exact holds_jsonRecord hwrite h

theorem holds_jsonWords {fields : List (String × UInt32)} (h : (fields.map Prod.fst).Nodup) :
    (jsonWords fields).Holds DescribesWord fields := by
  have hwrite (n : UInt32) : DescribesWord n (jsonWord n) := rfl
  exact holds_jsonRecord hwrite h

theorem printable_jsonTexts (fields : List (String × String)) : (jsonTexts fields).Printable := by
  refine printable_jsonRecord fun f hf => ?_
  obtain ⟨g, -, rfl⟩ := List.mem_map.mp hf
  exact .text g.2

theorem printable_jsonWords (fields : List (String × UInt32)) : (jsonWords fields).Printable := by
  refine printable_jsonRecord fun f hf => ?_
  obtain ⟨g, -, rfl⟩ := List.mem_map.mp hf
  exact printable_jsonWord g.2

section Inside

variable {v : Value} (hintact : v.isIntact = true)

include hintact

theorem Descriptor.ofJson_of_holds {d : Descriptor} (h : v.Holds DescribesText d.fields) :
    Descriptor.ofJson v = .ok d := by
  have hstruct : readStruct "DeviceDescriptor" ["framework", "source", "name"] readText v =
      .ok [d.framework, d.source, d.name] :=
    readStruct_of_holds readText_of_describes hintact h
  simp [Descriptor.ofJson, hstruct]

theorem Geometry.ofJson_of_holds {g : Geometry} (h : v.Holds DescribesWord g.fields) :
    Geometry.ofJson v = .ok g := by
  have hstruct : readStruct "Geometry" ["width", "height", "fps"] readWord v =
      .ok [g.width, g.height, g.fps] :=
    readStruct_of_holds readWord_of_describes hintact h
  simp [Geometry.ofJson, hstruct]

theorem AdjustmentSet.ofJson_of_holds {s : AdjustmentSet} (h : v.Holds DescribesWord s.fields) :
    AdjustmentSet.ofJson v = .ok s := by
  have hstruct : readStruct "AdjustmentSet" ["colour", "brightness", "whiteness", "contrast"] readWord v =
      .ok [s.colour, s.brightness, s.whiteness, s.contrast] :=
    readStruct_of_holds readWord_of_describes hintact h
  simp [AdjustmentSet.ofJson, hstruct]

end Inside

namespace SettingsField

variable {f g : SettingsField} {s s' s₀ s₁ : Settings} {v : Value} {name : String}

/-! ## Keys -/

theorem ofKey?_key (f : SettingsField) : ofKey? f.key = some f := by
  cases f <;> decide

theorem key_of_ofKey? (h : ofKey? name = some f) : f.key = name := by
  simpa using List.find?_some h

theorem key_ne_of_ofKey? (h : ofKey? name = none) (f : SettingsField) : f.key ≠ name := by
  rintro rfl
  rw [ofKey?_key] at h
  cases h

theorem mem_all (f : SettingsField) : f ∈ all := by
  cases f <;> decide

theorem key_injective (h : f.key = g.key) : f = g := by
  have hf := ofKey?_key f
  rw [h, ofKey?_key] at hf
  exact (Option.some.inj hf).symm

/-! ## Agreement on a field -/

/-- Two settings agree on the field. -/
def Same (f : SettingsField) (s s' : Settings) : Prop :=
  match f with
  | device => s.device = s'.device
  | channel => s.channel = s'.channel
  | format => s.format = s'.format
  | preview => s.preview = s'.preview
  | stream => s.stream = s'.stream
  | adjustments => s.adjustments = s'.adjustments

/-- `s₀` with the field as it is in `s`. -/
def copy (f : SettingsField) (s s₀ : Settings) : Settings :=
  match f with
  | device => { s₀ with device := s.device }
  | channel => { s₀ with channel := s.channel }
  | format => { s₀ with format := s.format }
  | preview => { s₀ with preview := s.preview }
  | stream => { s₀ with stream := s.stream }
  | adjustments => { s₀ with adjustments := s.adjustments }

theorem same_refl (f : SettingsField) (s : Settings) : f.Same s s := by
  cases f <;> rfl

theorem Same.trans (h : f.Same s s') (h' : f.Same s' s₁) : f.Same s s₁ := by
  cases f <;> exact Eq.trans h h'

theorem eq_of_same (h : ∀ f : SettingsField, f.Same s s') : s = s' := by
  obtain ⟨device, channel, format, preview, stream, adjustments⟩ := s
  obtain ⟨device', channel', format', preview', stream', adjustments'⟩ := s'
  obtain rfl : device = device' := h .device
  obtain rfl : channel = channel' := h .channel
  obtain rfl : format = format' := h .format
  obtain rfl : preview = preview' := h .preview
  obtain rfl : stream = stream' := h .stream
  obtain rfl : adjustments = adjustments' := h .adjustments
  rfl

theorem same_copy (f : SettingsField) (s s₀ : Settings) : f.Same (f.copy s s₀) s := by
  cases f <;> rfl

theorem same_copy_of_ne (h : g ≠ f) (s s₀ : Settings) : g.Same (f.copy s s₀) s₀ := by
  cases f <;> cases g <;> first | rfl | exact absurd rfl h

/-! ## Values of a field -/

/-- The value stands for the field of the settings. -/
def DescribedBy (f : SettingsField) (s : Settings) (v : Value) : Prop :=
  match f with
  | device => v.Holds DescribesText s.device.fields
  | channel => DescribesWord s.channel v
  | format => DescribesText s.format.key v
  | preview => v.Holds DescribesWord s.preview.fields
  | stream => v.Holds DescribesWord s.stream.fields
  | adjustments =>
    match s.adjustments with
    | none => v = .null
    | some a => v.Holds DescribesWord a.fields

/-- The names of the fields inside, where the value is a record. -/
def names : SettingsField → List String
  | device => ["framework", "source", "name"]
  | preview => ["width", "height", "fps"]
  | stream => ["width", "height", "fps"]
  | adjustments => ["colour", "brightness", "whiteness", "contrast"]
  | channel => []
  | format => []

theorem readAdjustments_of_holds {a : AdjustmentSet} (hintact : v.isIntact = true)
    (h : v.Holds DescribesWord a.fields) : readAdjustments v = .ok (some a) := by
  have hset := AdjustmentSet.ofJson_of_holds hintact h
  obtain ⟨entries, rfl, -⟩ := h
  simp [readAdjustments, hset]

/-- Reading a value that stands for a field takes over that field and no other. -/
theorem read_of_describedBy (hintact : v.isIntact = true) (h : f.DescribedBy s v) (s₀ : Settings) :
    f.read v s₀ = .ok (f.copy s s₀) := by
  cases f with
  | device => simp [read, Descriptor.ofJson_of_holds hintact h, Except.map, copy]
  | channel => simp [read, readWord_of_describes _ _ h, Except.map, copy]
  | format =>
    obtain rfl : v = .text (some s.format.key) := h
    simp [read, VideoFormat.ofJson, VideoFormat.ofName, VideoFormat.ofKey?_key, Except.map, copy]
  | preview => simp [read, Geometry.ofJson_of_holds hintact h, Except.map, copy]
  | stream => simp [read, Geometry.ofJson_of_holds hintact h, Except.map, copy]
  | adjustments =>
    rw [DescribedBy] at h
    cases ha : s.adjustments with
    | none =>
      obtain rfl : v = .null := by simpa [ha] using h
      simp [read, readAdjustments, Except.map, copy, ha]
    | some a =>
      have hholds : v.Holds DescribesWord a.fields := by simpa [ha] using h
      simp [read, readAdjustments_of_holds hintact hholds, Except.map, copy, ha]

theorem exists_ok_of_map {ε α β : Type} {x : Except ε α} {update : α → β} {b : β}
    (h : x.map update = .ok b) : ∃ a, x = .ok a := by
  cases x with
  | ok a => exact ⟨a, rfl⟩
  | error e => cases h

theorem hasAll_of_descriptor {d : Descriptor} (h : Descriptor.ofJson v = .ok d) :
    v.HasAll (names device) := by
  rw [Descriptor.ofJson] at h
  split at h
  · rename_i hread
    exact hasAll_of_readStruct hread
  · cases h
  · cases h

theorem hasAll_of_geometry {g : Geometry} (h : Geometry.ofJson v = .ok g) :
    v.HasAll (names preview) := by
  rw [Geometry.ofJson] at h
  split at h
  · rename_i hread
    exact hasAll_of_readStruct hread
  · cases h
  · cases h

theorem hasAll_of_adjustmentSet {a : AdjustmentSet} (h : AdjustmentSet.ofJson v = .ok a) :
    v.HasAll (names adjustments) := by
  rw [AdjustmentSet.ofJson] at h
  split at h
  · rename_i hread
    exact hasAll_of_readStruct hread
  · cases h
  · cases h

/-- A record inside is read only if nothing is missing in it and nothing stands there twice. -/
theorem hasAll_of_read (h : f.read v s₀ = .ok s₁) (hnames : f.names ≠ [])
    (hnull : f = adjustments → v ≠ .null) : v.HasAll f.names := by
  cases f with
  | device =>
    obtain ⟨d, hd⟩ := exists_ok_of_map h
    exact hasAll_of_descriptor hd
  | preview =>
    obtain ⟨g, hg⟩ := exists_ok_of_map h
    exact hasAll_of_geometry hg
  | stream =>
    obtain ⟨g, hg⟩ := exists_ok_of_map h
    exact hasAll_of_geometry hg
  | adjustments =>
    obtain ⟨a, ha⟩ := exists_ok_of_map h
    unfold readAdjustments at ha
    split at ha
    · exact absurd rfl (hnull rfl)
    · split at ha
      · rename_i hset
        exact hasAll_of_adjustmentSet hset
      · cases ha
  | channel => exact absurd rfl hnames
  | format => exact absurd rfl hnames

end SettingsField

end VideoCapture
