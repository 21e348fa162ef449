import VideoCapture.Settings.Writer
import VideoCapture.Settings.Reader
import VideoCapture.Proofs.Json.Printing
import Mathlib.Data.List.Nodup

/-!
# Reading complete records

What `readStruct` makes of a record in which every field stands once, in whatever order and with whatever
entries of unknown keys among them, and what it refuses.

## Main definitions

* `Keyed` — every key is a text and no known key stands twice.
* `Value.Holds` — a record with the given fields.
* `Value.HasAll` — what a complete record or list cannot do without.

The main statements are `readStruct_of_holds` and `hasAll_of_readStruct`.
-/

namespace VideoCapture

open Json

/-- Every key is a text, and no known key stands twice. -/
structure Keyed (known : List String) (entries : List (Option String × Value)) : Prop where
  text : none ∉ entries.map Prod.fst
  once : ∀ key ∈ known, (entries.map Prod.fst).count (some key) ≤ 1

namespace Keyed

variable {known : List String} {entries : List (Option String × Value)} {key : Option String} {v : Value}

theorem tail (h : Keyed known ((key, v) :: entries)) : Keyed known entries where
  text hnone := h.text (List.mem_cons_of_mem _ hnone)
  once k hk := by
    have hle := h.once k hk
    rw [List.map_cons, List.count_cons] at hle
    omega

theorem exists_text (h : Keyed known ((key, v) :: entries)) : ∃ k, key = some k := by
  cases key with
  | none => exact absurd List.mem_cons_self h.text
  | some k => exact ⟨k, rfl⟩

/-- A known key does not stand once more behind its entry. -/
theorem notMem_tail {k : String} (h : Keyed known ((some k, v) :: entries)) (hk : k ∈ known) :
    some k ∉ entries.map Prod.fst := by
  have hle := h.once k hk
  rw [List.map_cons, List.count_cons_self] at hle
  exact List.count_eq_zero.mp (by omega)

end Keyed

section Records

variable {α : Type} {known names : List String} {read : Value → Except ReadError α}
  {entries : List (Option String × Value)} {v : Value}

theorem lookup_cons_of_ne {key k : String} (h : key ≠ k) (a : α) (got : List (String × α)) :
    ((k, a) :: got).lookup key = got.lookup key := by
  rw [List.lookup_cons, beq_false_of_ne h]

theorem any_eq_isSome_lookup (got : List (String × α)) (key : String) :
    got.any (fun f => f.1 = key) = (got.lookup key).isSome := by
  induction got with
  | nil => rfl
  | cons f got ih =>
    obtain ⟨k, a⟩ := f
    by_cases h : key = k
    · simp [h]
    · have hne : ¬ k = key := fun heq => h heq.symm
      rw [lookup_cons_of_ne h, ← ih]
      simp [hne]

theorem mem_keys_cons_of_ne {key k : String} (h : key ≠ k) :
    some key ∈ ((some k, v) :: entries).map Prod.fst ↔ some key ∈ entries.map Prod.fst := by
  simp [h]

/-! ## What is read -/

/-- The values read from a record: those of its known keys, and those read before. -/
theorem readEntries_of_keyed {fields : List (String × α)}
    (hkeyed : Keyed (fields.map Prod.fst) entries) (hintact : Value.entriesIntact entries = true)
    (hread : ∀ f ∈ fields, ∀ v, (some f.1, v) ∈ entries → read v = .ok f.2)
    (got : List (String × α))
    (hgot : ∀ f ∈ fields, some f.1 ∈ entries.map Prod.fst → got.lookup f.1 = none) :
    ∃ got', readEntries (fields.map Prod.fst) read got entries = .ok got' ∧ ∀ f ∈ fields,
      got'.lookup f.1 = if some f.1 ∈ entries.map Prod.fst then some f.2 else got.lookup f.1 := by
  induction entries generalizing got with
  | nil => exact ⟨got, rfl, fun f _ => by simp⟩
  | cons e entries ih =>
    obtain ⟨key, v⟩ := e
    obtain ⟨k, rfl⟩ := hkeyed.exists_text
    rw [Value.entriesIntact, Bool.and_eq_true] at hintact
    have hreadTail (f) (hf : f ∈ fields) (w) (hw : (some f.1, w) ∈ entries) : read w = .ok f.2 :=
      hread f hf w (List.mem_cons_of_mem _ hw)
    by_cases hknown : k ∈ fields.map Prod.fst
    · obtain ⟨f, hf, rfl⟩ := List.mem_map.mp hknown
      have hv : read v = .ok f.2 := hread f hf v List.mem_cons_self
      have hfresh : got.lookup f.1 = none := hgot f hf (by simp)
      have hnot := hkeyed.notMem_tail hknown
      obtain ⟨got', hgot', hlookup⟩ := ih hkeyed.tail hintact.2 hreadTail ((f.1, f.2) :: got) (by
        intro g hg hmem
        have hne : g.1 ≠ f.1 := fun heq => hnot (heq ▸ hmem)
        rw [lookup_cons_of_ne hne]
        exact hgot g hg (List.mem_cons_of_mem _ hmem))
      refine ⟨got', ?_, fun g hg => ?_⟩
      · rw [readEntries, if_pos hknown, any_eq_isSome_lookup, hfresh]
        simpa [hv] using hgot'
      · rw [hlookup g hg]
        by_cases heq : g.1 = f.1
        · -- Both fields are read from the same entry.
          have hsame : g.2 = f.2 := by
            have hg' := hread g hg v (heq ▸ List.mem_cons_self)
            exact Except.ok.inj (hg'.symm.trans hv)
          have hhere : some g.1 ∈ ((some f.1, v) :: entries).map Prod.fst := heq ▸ List.mem_cons_self
          rw [if_pos hhere, hsame, heq, if_neg hnot, List.lookup_cons_self]
        · rw [lookup_cons_of_ne heq, if_congr (mem_keys_cons_of_ne heq) rfl rfl]
    · obtain ⟨got', hgot', hlookup⟩ := ih hkeyed.tail hintact.2 hreadTail got fun g hg hmem =>
        hgot g hg (List.mem_cons_of_mem _ hmem)
      refine ⟨got', ?_, fun g hg => ?_⟩
      · rw [readEntries, if_neg hknown, if_pos hintact.1]
        exact hgot'
      · have hne : g.1 ≠ k := fun heq => hknown (heq ▸ List.mem_map_of_mem hg)
        rw [hlookup g hg, if_congr (mem_keys_cons_of_ne hne) rfl rfl]

theorem collectFields_of_lookup {got : List (String × α)} {fields : List (String × α)}
    (h : ∀ f ∈ fields, got.lookup f.1 = some f.2) :
    collectFields got (fields.map Prod.fst) = .ok (fields.map Prod.snd) := by
  induction fields with
  | nil => rfl
  | cons f fields ih =>
    rw [List.map_cons, collectFields, h f List.mem_cons_self]
    simp [ih fun g hg => h g (List.mem_cons_of_mem _ hg)]

/-- A record in which every field stands once, with a value that describes it. The order of the fields is
free, and there may be entries of other keys. -/
def Json.Value.Holds (Describes : α → Value → Prop) (fields : List (String × α)) (v : Value) : Prop :=
  ∃ entries, v = .record entries .closed ∧ Keyed (fields.map Prod.fst) entries ∧
    ∀ f ∈ fields, some f.1 ∈ entries.map Prod.fst ∧
      ∀ v, (some f.1, v) ∈ entries → Describes f.2 v

theorem readStruct_of_holds {Describes : α → Value → Prop} {fields : List (String × α)} {name : String}
    (hread : ∀ a v, Describes a v → read v = .ok a) (hintact : v.isIntact = true)
    (h : v.Holds Describes fields) :
    readStruct name (fields.map Prod.fst) read v = .ok (fields.map Prod.snd) := by
  obtain ⟨entries, rfl, hkeyed, hfields⟩ := h
  have hentries : Value.entriesIntact entries = true := by simpa [Value.isIntact] using hintact
  obtain ⟨got, hgot, hlookup⟩ := readEntries_of_keyed hkeyed hentries
    (fun f hf v hv => hread _ _ ((hfields f hf).2 v hv)) [] (fun _ _ _ => rfl)
  have hall (f) (hf : f ∈ fields) : got.lookup f.1 = some f.2 := by
    rw [hlookup f hf, if_pos (hfields f hf).1]
  simpa [readStruct, hgot] using collectFields_of_lookup hall

/-- A record of fields with different names, each written so that it is described. -/
theorem holds_jsonRecord {Describes : α → Value → Prop} {write : α → Value}
    (hwrite : ∀ a, Describes a (write a)) {fields : List (String × α)}
    (hnodup : (fields.map Prod.fst).Nodup) :
    (jsonRecord (fields.map fun f => (f.1, write f.2))).Holds Describes fields := by
  have hkeys : ((fields.map fun f => (f.1, write f.2)).map
      fun f => ((some f.1 : Option String), f.2)).map Prod.fst = (fields.map Prod.fst).map some := by
    simp
  refine ⟨_, rfl, ⟨?_, fun key _ => ?_⟩, fun f hf => ⟨?_, fun v hv => ?_⟩⟩
  · simp
  · rw [hkeys]
    exact List.nodup_iff_count_le_one.mp (hnodup.map fun _ _ => Option.some.inj) _
  · rw [hkeys]
    exact List.mem_map_of_mem (List.mem_map_of_mem hf)
  · obtain ⟨g, hg, heq⟩ : ∃ g ∈ fields, (some g.1, write g.2) = (some f.1, v) := by
      simpa using hv
    obtain ⟨hname, rfl⟩ : g.1 = f.1 ∧ write g.2 = v := by simpa using heq
    obtain rfl := List.inj_on_of_nodup_map hnodup hg hf hname
    exact hwrite _

/-! ## What is refused -/

/-- Once the entries are read, a known key has been met as often as it stands there, which is at most
once. -/
theorem count_of_readEntries {got got' : List (String × α)}
    (h : readEntries known read got entries = .ok got') {key : String} (hkey : key ∈ known) :
    (entries.map Prod.fst).count (some key) + (got.lookup key).isSome.toNat =
      (got'.lookup key).isSome.toNat := by
  induction entries generalizing got with
  | nil =>
    obtain rfl : got = got' := by simpa [readEntries] using h
    simp
  | cons e entries ih =>
    obtain ⟨k | k, v⟩ := e
    · simp [readEntries] at h
    · rw [readEntries] at h
      split at h
      · rw [any_eq_isSome_lookup] at h
        split at h
        · cases h
        · rename_i hfresh
          cases hv : read v with
          | error e => simp [hv] at h
          | ok a =>
            simp only [hv] at h
            rw [← ih h]
            by_cases heq : key = k
            · subst heq
              have hnone : got.lookup key = none := Option.not_isSome_iff_eq_none.mp hfresh
              rw [List.map_cons, List.count_cons_self, List.lookup_cons_self, hnone]
              rfl
            · have hne : ¬ k = key := fun hk => heq hk.symm
              rw [lookup_cons_of_ne heq]
              simp [hne]
      · rename_i hunknown
        split at h
        · have hne : ¬ k = key := fun hk => hunknown (hk ▸ hkey)
          rw [← ih h]
          simp [hne]
        · cases h

theorem isSome_lookup_of_collectFields {got : List (String × α)} {as : List α}
    (h : collectFields got names = .ok as) : ∀ name ∈ names, (got.lookup name).isSome := by
  induction names generalizing as with
  | nil => simp
  | cons name names ih =>
    rw [collectFields] at h
    cases hname : got.lookup name with
    | none => simp [hname] at h
    | some a =>
      cases hrest : collectFields got names with
      | error e => simp [hname, hrest] at h
      | ok as' =>
        intro n hn
        rcases List.mem_cons.mp hn with rfl | hn
        · simp [hname]
        · exact ih hrest n hn

theorem length_of_readItems {short : Nat → ReadError} {ending : Ending} {length due : Nat}
    {items : List Value} {as : List α} (h : readItems read short ending length due items = .ok as) :
    items.length = due := by
  induction items generalizing length due as with
  | nil =>
    cases due with
    | zero => rfl
    | succ due => simp [readItems] at h
  | cons v items ih =>
    cases due with
    | zero => simp [readItems] at h
    | succ due =>
      rw [readItems] at h
      cases hv : read v with
      | error e => simp [hv] at h
      | ok a =>
        cases hrest : readItems read short ending (length + 1) due items with
        | error e => simp [hv, hrest] at h
        | ok as' => rw [List.length_cons, ih hrest]

/-- A record in which each of the names stands exactly once, or a list of as many items. -/
def Json.Value.HasAll (names : List String) : Value → Prop
  | .record entries _ => ∀ name ∈ names, (entries.map Prod.fst).count (some name) = 1
  | .list items _ => items.length = names.length
  | _ => False

theorem hasAll_of_readStruct {name : String} {as : List α} (h : readStruct name names read v = .ok as) :
    v.HasAll names := by
  cases v with
  | record entries ending =>
    intro key hkey
    rw [readStruct] at h
    cases hread : readEntries names read [] entries with
    | error e => simp [hread] at h
    | ok got =>
      have hcollect : collectFields got names = .ok as := by
        simp only [hread] at h
        split at h
        · exact h
        · cases h
      have hcount := count_of_readEntries hread hkey
      simpa [isSome_lookup_of_collectFields hcollect key hkey] using hcount
  | list items ending => exact length_of_readItems h
  | _ => simp [readStruct] at h

end Records

end VideoCapture
