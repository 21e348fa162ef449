import VideoCapture.Controller.State
import VideoCapture.Scripted.Camera
import Mathlib.Tactic.Common

/-!
# Backends that announce what they open

A backend announces its device if it tells once of every successful opening, naming the device chosen
for it, and once of every closing of an open device, naming the device that was open. During any other
call it may complain, but it tells of no opening or closing.

## Main definitions

* `Reply.sessions` — what a backend told of openings and closings during a call.
* `Backend.Announces` — the backend announces its device.
* `Source.chosen`, `Source.held` — the chosen device and the open one, for a backend of either kind.

The main statement is `Backend.Announces.source`: beside backends that announce their devices, the
synthetic device announces itself.
-/

namespace VideoCapture

/-- Whether the signal tells that a device was opened or closed. -/
def Signal.isSession : Signal → Bool
  | opened .. | closed _ => true
  | error .. => false

namespace Reply

variable {β γ α : Type}

/-- What a backend told of openings and closings. -/
def sessions (r : Reply β α) : List Signal := r.signals.filter Signal.isSession

/-- The backend `b` told of no opening or closing, and the device it has chosen and the one it holds
open are as they were. -/
structure Keeps (chosen held : β → Option Descriptor) (b : β) (r : Reply β α) : Prop where
  sessions : r.sessions = []
  chosen : chosen r.backend = chosen b
  held : held r.backend = held b

end Reply

/-- Backends of type `β` announce their devices. The views are the device chosen for the next opening
and the one that is open; a device is selected and opened only while none is open. -/
structure Backend.Announces (β : Type) [Backend β] (chosen held : β → Option Descriptor) :
    Prop where
  devices : ∀ b : β, (Backend.devices b).Keeps chosen held b
  read : ∀ b : β, (Backend.read b).Keeps chosen held b
  adjust : ∀ kind value (b : β), (Backend.adjust kind value b).Keeps chosen held b
  /-- A refusal keeps the earlier choice. -/
  refused : ∀ device channel format (b : β), held b = none →
    (Backend.select device channel format b).value = false →
    (Backend.select device channel format b).Keeps chosen held b
  accepted : ∀ device channel format (b : β), held b = none →
    (Backend.select device channel format b).value = true →
    (Backend.select device channel format b).sessions = [] ∧
      chosen (Backend.select device channel format b).backend = some device ∧
      held (Backend.select device channel format b).backend = none
  failed : ∀ g (b : β) e, held b = none → (Backend.openAt g b).value = .error e →
    (Backend.openAt g b).Keeps chosen held b
  opened : ∀ g (b : β) settings device, held b = none → chosen b = some device →
    (Backend.openAt g b).value = .ok settings →
    ∃ config : DeviceConfig, config.geometry = g ∧
      (Backend.openAt g b).sessions = [.opened device config] ∧
      chosen (Backend.openAt g b).backend = some device ∧
      held (Backend.openAt g b).backend = some device
  closed : ∀ (b : β) device, held b = some device →
    (Backend.close b).sessions = [.closed device] ∧
      chosen (Backend.close b).backend = chosen b ∧ held (Backend.close b).backend = none

/-! ## The synthetic device -/

namespace Logo

/-- The device that the synthetic backend holds open: itself. -/
def held (l : Logo) : Option Descriptor := l.opened.map fun _ => Descriptor.fallback

theorem announces : Backend.Announces Logo (fun _ => some Descriptor.fallback) held where
  devices _ := ⟨rfl, rfl, rfl⟩
  read l := by
    show (Logo.read l).Keeps _ _ l
    cases h : l.opened with
    | none =>
      rw [Logo.read, h]
      exact ⟨rfl, rfl, rfl⟩
    | some g =>
      rw [Logo.read, h]
      exact ⟨rfl, rfl, rfl⟩
  adjust _ _ _ := ⟨rfl, rfl, rfl⟩
  refused _ _ _ _ _ _ := ⟨rfl, rfl, rfl⟩
  accepted device channel format l hclosed haccepted := by
    obtain rfl : device = Descriptor.fallback := (Descriptor.isFallback_iff device).mp haccepted
    exact ⟨rfl, rfl, hclosed⟩
  failed _ _ _ _ h := nomatch h
  opened g l settings device _ hchosen _ := by
    obtain rfl : Descriptor.fallback = device := Option.some.inj hchosen
    exact ⟨⟨g, AdjustmentSet.neutral, false⟩, rfl, rfl, rfl, rfl⟩
  closed l device hheld := by
    obtain ⟨g, hopened, rfl⟩ := Option.map_eq_some_iff.mp hheld
    refine ⟨?_, rfl, rfl⟩
    show List.filter Signal.isSession (if l.opened.isSome then _ else _) = _
    rw [hopened]
    rfl

end Logo

/-! ## Backends of either kind -/

namespace Source

variable {β : Type}

/-- The device chosen for the next opening. -/
def chosen (view : β → Option Descriptor) : Source β → Option Descriptor
  | logo _ => some Descriptor.fallback
  | device b => view b

/-- The device that is open. -/
def held (view : β → Option Descriptor) : Source β → Option Descriptor
  | logo l => l.held
  | device b => view b

end Source

section Source

variable {β α : Type} {chosen held : β → Option Descriptor}

theorem Reply.Keeps.logo {l : Logo} {r : Reply Logo α}
    (h : r.Keeps (fun _ => some Descriptor.fallback) Logo.held l) :
    (r.mapBackend Source.logo).Keeps (Source.chosen chosen) (Source.held held) (.logo l) :=
  ⟨h.sessions, h.chosen, h.held⟩

theorem Reply.Keeps.device {b : β} {r : Reply β α} (h : r.Keeps chosen held b) :
    (r.mapBackend Source.device).Keeps (Source.chosen chosen) (Source.held held) (.device b) :=
  ⟨h.sessions, h.chosen, h.held⟩

/-- The synthetic device announces itself, so backends of either kind announce their devices if those
of the caller's type do. -/
theorem Backend.Announces.source [Backend β] (h : Backend.Announces β chosen held) :
    Backend.Announces (Source β) (Source.chosen chosen) (Source.held held) where
  devices
    | .logo l => (Logo.announces.devices l).logo
    | .device b => (h.devices b).device
  read
    | .logo l => (Logo.announces.read l).logo
    | .device b => (h.read b).device
  adjust
    | kind, value, .logo l => (Logo.announces.adjust kind value l).logo
    | kind, value, .device b => (h.adjust kind value b).device
  refused
    | device, channel, format, .logo l, hclosed, hrefused =>
      (Logo.announces.refused device channel format l hclosed hrefused).logo
    | device, channel, format, .device b, hclosed, hrefused =>
      (h.refused device channel format b hclosed hrefused).device
  accepted
    | device, channel, format, .logo l => Logo.announces.accepted device channel format l
    | device, channel, format, .device b => h.accepted device channel format b
  failed
    | g, .logo l, e, hclosed, hfailed => (Logo.announces.failed g l e hclosed hfailed).logo
    | g, .device b, e, hclosed, hfailed => (h.failed g b e hclosed hfailed).device
  opened
    | g, .logo l => Logo.announces.opened g l
    | g, .device b => h.opened g b
  closed
    | .logo l => Logo.announces.closed l
    | .device b => h.closed b

end Source

/-! ## Scripted cameras -/

namespace Scripted.Camera

/-- The device that a scripted camera was opened for, while it is open. -/
def held (c : Camera) : Option Descriptor := c.opened.map Prod.snd

/-- Complaints at an opening tell of no opening. -/
theorem filter_complaints (device : Descriptor) (codes : List DeviceErrorCode) :
    (codes.map fun code => Signal.error device code).filter Signal.isSession = [] := by
  induction codes with
  | nil => rfl
  | cons _ rest ih => exact ih

theorem announces : Backend.Announces Camera (fun c => some c.selected) held where
  devices _ := ⟨rfl, rfl, rfl⟩
  read c := by
    show (Camera.read c).Keeps _ _ c
    unfold Camera.read
    split
    · exact ⟨rfl, rfl, rfl⟩
    · split <;> exact ⟨rfl, rfl, rfl⟩
  adjust _ _ _ := ⟨rfl, rfl, rfl⟩
  refused device _ _ c _ hrefused := by
    change (Camera.select device c).value = false at hrefused
    show (Camera.select device c).Keeps _ _ c
    unfold Camera.select at hrefused ⊢
    split at hrefused
    · cases hrefused
    · rename_i hcond
      rw [if_neg hcond]
      exact ⟨rfl, rfl, rfl⟩
  accepted device _ _ c hclosed haccepted := by
    change (Camera.select device c).value = true at haccepted
    show (Camera.select device c).sessions = [] ∧ some (Camera.select device c).backend.selected = _ ∧
      (Camera.select device c).backend.held = none
    unfold Camera.select at haccepted ⊢
    split at haccepted
    · rename_i hcond
      rw [if_pos hcond]
      exact ⟨rfl, rfl, hclosed⟩
    · cases haccepted
  failed g c e _ hfailed := by
    change (Camera.openAt g c).value = .error e at hfailed
    show (Camera.openAt g c).Keeps _ _ c
    simp only [Camera.openAt] at hfailed ⊢
    split at hfailed
    · rename_i hcond
      rw [if_pos hcond]
      exact ⟨filter_complaints c.selected c.openErrors, rfl, rfl⟩
    · cases hfailed
  opened g c settings device _ hchosen hopened := by
    obtain rfl : c.selected = device := Option.some.inj hchosen
    change (Camera.openAt g c).value = .ok settings at hopened
    show ∃ config : DeviceConfig, config.geometry = g ∧
      (Camera.openAt g c).sessions = [.opened c.selected config] ∧
      some (Camera.openAt g c).backend.selected = some c.selected ∧
      (Camera.openAt g c).backend.held = some c.selected
    simp only [Camera.openAt] at hopened ⊢
    split at hopened
    · cases hopened
    · rename_i hcond
      rw [if_neg hcond]
      refine ⟨⟨g, c.settings, c.modifiable⟩, rfl, ?_, rfl, rfl⟩
      rw [Reply.sessions, List.filter_append, filter_complaints]
      rfl
  closed c device hheld := by
    obtain ⟨⟨g, d⟩, hopened, rfl⟩ := Option.map_eq_some_iff.mp hheld
    show (Camera.close c).sessions = _ ∧ some (Camera.close c).backend.selected = _ ∧
      (Camera.close c).backend.held = none
    rw [Camera.close, hopened]
    exact ⟨rfl, rfl, rfl⟩

end Scripted.Camera

end VideoCapture
