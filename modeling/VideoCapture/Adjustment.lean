/-!
# Picture adjustments

The four picture adjustments of a capture device, on a scale from 0 to 255, and the requests that
are still to be sent to it.

## Main definitions

* `AdjustmentSet` — one value for each adjustment.
* `AdjustmentRequests` — the values asked for; a request stays recorded so that a device opened
  later receives it too.
* `AdjustmentRequests.diff` — the requests that the hardware has not received yet.
-/

namespace VideoCapture

inductive Adjustment where
  | colour
  | brightness
  | whiteness
  | contrast
  deriving DecidableEq

namespace Adjustment

/-- Every adjustment, in the order in which they are sent to a device. -/
def all : List Adjustment := [colour, brightness, whiteness, contrast]

def label : Adjustment → String
  | colour => "Colour"
  | brightness => "Brightness"
  | whiteness => "Whiteness"
  | contrast => "Contrast"

theorem mem_all (kind : Adjustment) : kind ∈ all := by
  cases kind <;> decide

theorem nodup_all : all.Nodup := by
  decide

/-- What is found for the adjustments comes in their order. -/
theorem kinds_filterMap_sublist {β : Type} {f : Adjustment → Option (Adjustment × β)}
    (h : ∀ kind found, f kind = some found → found.1 = kind) (kinds : List Adjustment) :
    ((kinds.filterMap f).map Prod.fst).Sublist kinds := by
  induction kinds with
  | nil => simp
  | cons kind rest ih =>
    cases hc : f kind with
    | none =>
      rw [List.filterMap_cons_none hc]
      exact ih.cons kind
    | some found =>
      rw [List.filterMap_cons_some hc, List.map_cons, h kind found hc]
      exact ih.cons_cons kind

end Adjustment

/-- One value for each adjustment. -/
structure AdjustmentSet where
  colour : UInt32
  brightness : UInt32
  whiteness : UInt32
  contrast : UInt32
  deriving DecidableEq

namespace AdjustmentSet

/-- The middle of the scale. -/
def neutralValue : UInt32 := 127

/-- Every adjustment at the middle of the scale. -/
def neutral : AdjustmentSet := ⟨neutralValue, neutralValue, neutralValue, neutralValue⟩

def get (s : AdjustmentSet) : Adjustment → UInt32
  | .colour => s.colour
  | .brightness => s.brightness
  | .whiteness => s.whiteness
  | .contrast => s.contrast

/-- `s` with one adjustment at `value`. -/
def set (s : AdjustmentSet) (kind : Adjustment) (value : UInt32) : AdjustmentSet :=
  match kind with
  | .colour => { s with colour := value }
  | .brightness => { s with brightness := value }
  | .whiteness => { s with whiteness := value }
  | .contrast => { s with contrast := value }

/-- `s` after every listed value has been set, in order. -/
def setAll (s : AdjustmentSet) (changes : List (Adjustment × UInt32)) : AdjustmentSet :=
  changes.foldl (fun acc change => acc.set change.1 change.2) s

@[simp] theorem get_set_self (s : AdjustmentSet) (kind : Adjustment) (value : UInt32) :
    (s.set kind value).get kind = value := by
  cases kind <;> rfl

theorem get_set_of_ne (s : AdjustmentSet) {kind other : Adjustment} (value : UInt32)
    (h : other ≠ kind) : (s.set kind value).get other = s.get other := by
  cases kind <;> cases other <;> first | rfl | exact absurd rfl h

@[simp] theorem setAll_nil (s : AdjustmentSet) : s.setAll [] = s := rfl

@[simp] theorem setAll_cons (s : AdjustmentSet) (change : Adjustment × UInt32)
    (rest : List (Adjustment × UInt32)) :
    s.setAll (change :: rest) = (s.set change.1 change.2).setAll rest := rfl

theorem get_setAll_of_notMem {kind : Adjustment} {changes : List (Adjustment × UInt32)}
    (h : kind ∉ changes.map Prod.fst) (s : AdjustmentSet) :
    (s.setAll changes).get kind = s.get kind := by
  induction changes generalizing s with
  | nil => rfl
  | cons change rest ih =>
    rw [List.map_cons, List.mem_cons, not_or] at h
    rw [setAll_cons, ih h.2, get_set_of_ne s change.2 h.1]

/-- If no adjustment is listed twice, every listed value is in force afterwards. -/
theorem get_setAll_of_mem {kind : Adjustment} {value : UInt32}
    {changes : List (Adjustment × UInt32)} (hnodup : (changes.map Prod.fst).Nodup)
    (h : (kind, value) ∈ changes) (s : AdjustmentSet) :
    (s.setAll changes).get kind = value := by
  induction changes generalizing s with
  | nil => simp at h
  | cons change rest ih =>
    rw [List.map_cons, List.nodup_cons] at hnodup
    rcases List.mem_cons.mp h with rfl | h
    · rw [setAll_cons, get_setAll_of_notMem hnodup.1, get_set_self]
    · exact ih hnodup.2 h _

end AdjustmentSet

/-- The values asked for, where any were. -/
structure AdjustmentRequests where
  colour : Option UInt32
  brightness : Option UInt32
  whiteness : Option UInt32
  contrast : Option UInt32
  deriving DecidableEq

namespace AdjustmentRequests

def empty : AdjustmentRequests := ⟨none, none, none, none⟩

/-- Records that `kind` should become `value`. -/
def request (r : AdjustmentRequests) (kind : Adjustment) (value : UInt32) : AdjustmentRequests :=
  match kind with
  | .colour => { r with colour := some value }
  | .brightness => { r with brightness := some value }
  | .whiteness => { r with whiteness := some value }
  | .contrast => { r with contrast := some value }

def requested (r : AdjustmentRequests) : Adjustment → Option UInt32
  | .colour => r.colour
  | .brightness => r.brightness
  | .whiteness => r.whiteness
  | .contrast => r.contrast

/-- The request for `kind`, if `applied` does not meet it. -/
def change? (r : AdjustmentRequests) (applied : AdjustmentSet) (kind : Adjustment) :
    Option (Adjustment × UInt32) :=
  match r.requested kind with
  | some value => if value = applied.get kind then none else some (kind, value)
  | none => none

/-- The requests that `applied` does not meet. -/
def diff (r : AdjustmentRequests) (applied : AdjustmentSet) : List (Adjustment × UInt32) :=
  Adjustment.all.filterMap (r.change? applied)

@[simp] theorem requested_empty (kind : Adjustment) : empty.requested kind = none := by
  cases kind <;> rfl

@[simp] theorem requested_request_self (r : AdjustmentRequests) (kind : Adjustment)
    (value : UInt32) : (r.request kind value).requested kind = some value := by
  cases kind <;> rfl

theorem requested_request_of_ne (r : AdjustmentRequests) {kind other : Adjustment}
    (value : UInt32) (h : other ≠ kind) :
    (r.request kind value).requested other = r.requested other := by
  cases kind <;> cases other <;> first | rfl | exact absurd rfl h

theorem change?_eq_some_iff {r : AdjustmentRequests} {applied : AdjustmentSet} {kind : Adjustment}
    {change : Adjustment × UInt32} :
    r.change? applied kind = some change ↔
      change.1 = kind ∧ r.requested kind = some change.2 ∧ change.2 ≠ applied.get kind := by
  obtain ⟨other, value⟩ := change
  cases hr : r.requested kind with
  | none => simp [change?, hr]
  | some wanted =>
    by_cases hw : wanted = applied.get kind <;> simp [change?, hr, hw] <;> grind

/-- A request is outstanding if it was made and the value in force is another one. -/
theorem mem_diff_iff {r : AdjustmentRequests} {applied : AdjustmentSet} {kind : Adjustment}
    {value : UInt32} :
    (kind, value) ∈ r.diff applied ↔ r.requested kind = some value ∧ value ≠ applied.get kind := by
  simp only [diff, List.mem_filterMap, change?_eq_some_iff]
  constructor
  · rintro ⟨_, -, rfl, hrequested, hne⟩
    exact ⟨hrequested, hne⟩
  · rintro ⟨hrequested, hne⟩
    exact ⟨kind, kind.mem_all, rfl, hrequested, hne⟩

/-- Outstanding requests come in the order of all adjustments. -/
theorem kinds_diff_sublist (r : AdjustmentRequests) (applied : AdjustmentSet) :
    ((r.diff applied).map Prod.fst).Sublist Adjustment.all :=
  Adjustment.kinds_filterMap_sublist (fun _ _ hc => (change?_eq_some_iff.mp hc).1) Adjustment.all

/-- Once the outstanding requests are met, every request is. -/
theorem get_setAll_diff (r : AdjustmentRequests) (applied : AdjustmentSet) (kind : Adjustment) :
    (applied.setAll (r.diff applied)).get kind = (r.requested kind).getD (applied.get kind) := by
  have hnodup := (r.kinds_diff_sublist applied).nodup Adjustment.nodup_all
  by_cases h : ∃ value, (kind, value) ∈ r.diff applied
  · obtain ⟨value, hvalue⟩ := h
    rw [AdjustmentSet.get_setAll_of_mem hnodup hvalue, (mem_diff_iff.mp hvalue).1]
    rfl
  · have hnot : kind ∉ (r.diff applied).map Prod.fst := by simpa using h
    rw [AdjustmentSet.get_setAll_of_notMem hnot]
    cases hr : r.requested kind with
    | none => rfl
    | some value =>
      by_cases heq : value = applied.get kind
      · exact heq.symm
      · exact absurd ⟨value, mem_diff_iff.mpr ⟨hr, heq⟩⟩ h

/-- Nothing is outstanding after the outstanding requests have been met. -/
theorem diff_setAll_diff (r : AdjustmentRequests) (applied : AdjustmentSet) :
    r.diff (applied.setAll (r.diff applied)) = [] := by
  rw [List.eq_nil_iff_forall_not_mem]
  rintro ⟨kind, value⟩ hchange
  obtain ⟨hrequested, hne⟩ := mem_diff_iff.mp hchange
  rw [get_setAll_diff, hrequested] at hne
  exact hne rfl

end AdjustmentRequests

end VideoCapture
