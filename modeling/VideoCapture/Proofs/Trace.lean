import VideoCapture.Controller.State
import Mathlib.Tactic.Common

/-!
# What the calls to backends tell

The calls to backends, in order, tell by themselves which backend is open, which selection was
accepted last and how the open device is adjusted. They also tell whether the controller keeps the
rules: a backend is selected and opened only while none is open, and only the one that is open is
read, adjusted and closed.

## Main definitions

* `Trace` — calls to backends, each with the position of the backend.
* `Trace.isOpen`, `Trace.selection?` — which backend is open, and the selection accepted last.
* `Trace.settings?` — the adjustments of the open device.
* `Trace.Disciplined` — the rules are kept.
* `Trace.Reliable` — the first backend never refused the synthetic device, an opening or a read.
-/

namespace VideoCapture

/-- Calls to backends in order, each with the position of the backend. -/
abbrev Trace := List (Nat × Call)

/-- A device with the channel and the format it is selected with. -/
abbrev Selection := Descriptor × UInt32 × VideoFormat

/-- The call to a backend, where that is what was written down. -/
def Effect.call? : Effect → Option (Nat × Call)
  | .called i c => some (i, c)
  | _ => none

namespace Call

/-- Whether a backend is open after a call, if `held` tells whether it was before. Only a successful
opening opens it. -/
def holds (held : Bool) : Call → Bool
  | openAt _ settings => settings.isSome
  | close => false
  | _ => held

/-- The selection that a call made, if it was accepted. -/
def accepted? : Call → Option Selection
  | setDevice device channel format true => some (device, channel, format)
  | _ => none

/-- The adjustments of the open device after a call, where `known` are those before it. An opening
makes the device report them all, and one that is sent counts whatever the device answers. -/
def settle (known : Option AdjustmentSet) : Call → Option AdjustmentSet
  | openAt _ (some settings) => some settings
  | adjust kind value => known.map fun settings => settings.set kind value
  | _ => known

/-- The synthetic device never answers like this. -/
def Fails : Call → Prop
  | setDevice device _ _ accepted => device = Descriptor.fallback ∧ accepted = false
  | openAt _ settings => settings = none
  | read frame => frame = none
  | _ => False

end Call

namespace Trace

/-- Whether the backend at position `i` is open at the end. -/
def isOpen (t : Trace) (i : Nat) : Bool :=
  t.foldl (fun held e => if e.1 = i then e.2.holds held else held) false

/-- The last selection that any backend accepted, with the position of that backend. -/
def selection? (t : Trace) : Option (Nat × Selection) :=
  t.foldl (fun last e => (e.2.accepted?.map fun selection => (e.1, selection)).or last) none

/-- The adjustments that the last successful opening reported, with every one sent since. -/
def settings? (t : Trace) : Option AdjustmentSet := t.foldl (fun known e => e.2.settle known) none

/-- Whether a call may go to the backend at position `i` after `t`. -/
def Permits (t : Trace) (i : Nat) : Call → Prop
  | .devices => True
  | .setDevice .. | .openAt .. => ∀ j, t.isOpen j = false
  | .close | .read _ | .adjust .. => ∀ j, t.isOpen j = true ↔ j = i

/-- Every call was allowed when it was made. -/
def Disciplined (t : Trace) : Prop :=
  ∀ before i c after, t = before ++ (i, c) :: after → Permits before i c

/-- The first backend never failed. -/
def Reliable (t : Trace) : Prop := ∀ c, (0, c) ∈ t → ¬ c.Fails

@[simp] theorem isOpen_nil (i : Nat) : isOpen [] i = false := rfl

@[simp] theorem isOpen_concat (t : Trace) (i j : Nat) (c : Call) :
    isOpen (t ++ [(i, c)]) j = if i = j then c.holds (t.isOpen j) else t.isOpen j := by
  simp [isOpen]

@[simp] theorem selection?_nil : selection? [] = none := rfl

@[simp] theorem selection?_concat (t : Trace) (i : Nat) (c : Call) :
    selection? (t ++ [(i, c)]) =
      (c.accepted?.map fun selection => (i, selection)).or t.selection? := by
  simp [selection?]

@[simp] theorem settings?_nil : settings? [] = none := rfl

@[simp] theorem settings?_concat (t : Trace) (i : Nat) (c : Call) :
    settings? (t ++ [(i, c)]) = c.settle t.settings? := by
  simp [settings?]

/-- Where a backend is open that was not, it has been opened. -/
theorem exists_opening {t more : Trace} {i : Nat} (hclosed : t.isOpen i = false)
    (hopen : (t ++ more).isOpen i = true) :
    ∃ g settings, (i, .openAt g (some settings)) ∈ more := by
  induction more generalizing t with
  | nil =>
    rw [List.append_nil, hclosed] at hopen
    cases hopen
  | cons e rest ih =>
    obtain ⟨j, c⟩ := e
    rw [List.append_cons] at hopen
    cases hnext : (t ++ [(j, c)]).isOpen i with
    | false =>
      obtain ⟨g, settings, hmem⟩ := ih hnext hopen
      exact ⟨g, settings, List.mem_cons_of_mem _ hmem⟩
    | true =>
      rw [isOpen_concat] at hnext
      split at hnext
      · rename_i hj
        subst hj
        cases c with
        | openAt g settings =>
          obtain ⟨settings, rfl⟩ := Option.isSome_iff_exists.mp hnext
          exact ⟨g, settings, List.mem_cons_self⟩
        | close => cases hnext
        | _ => exact absurd hnext (by simp [Call.holds, hclosed])
      · exact absurd hnext (by simp [hclosed])

theorem disciplined_nil : Disciplined [] := by
  intro before i c after h
  simp at h

theorem Disciplined.concat {t : Trace} {i : Nat} {c : Call} (h : t.Disciplined)
    (hc : t.Permits i c) : Disciplined (t ++ [(i, c)]) := by
  intro before j d after heq
  rcases List.eq_nil_or_concat after with rfl | ⟨rest, e, rfl⟩
  · obtain ⟨rfl, hlast⟩ := List.append_inj' heq rfl
    obtain ⟨rfl, rfl⟩ : i = j ∧ c = d := by simpa using hlast
    exact hc
  · have hsplit : t ++ [(i, c)] = (before ++ (j, d) :: rest) ++ [e] := by simpa using heq
    exact h before j d rest (List.append_inj' hsplit rfl).1

theorem reliable_nil : Reliable [] := by
  intro c h
  simp at h

theorem Reliable.concat {t : Trace} {i : Nat} {c : Call} (h : t.Reliable)
    (hc : i = 0 → ¬ c.Fails) : Reliable (t ++ [(i, c)]) := by
  intro d hd
  rcases List.mem_append.mp hd with hd | hd
  · exact h d hd
  · obtain ⟨rfl, rfl⟩ : 0 = i ∧ d = c := by simpa using hd
    exact hc rfl

end Trace

end VideoCapture
