import VideoCapture.Proofs.Resolution
import VideoCapture.Proofs.Steady
import VideoCapture.Scripted.Camera

/-!
# A desired device that comes back

While a consumer is active and its device is missing, the synthetic one stands in. When a device is
plugged in, each backend may recognise another one in it, and several may recognise the one that is
desired. Then the active consumers move to that: it is served by the first backend that accepts it, or
the synthetic device goes on standing in. A desired device that is open already is left alone.

## Main definitions

* `Custody.Landed` — a backend was opened for a device, and nothing was asked of any backend since.
* `CaptureState.Recovered` — the active consumer has the device that a backend serves.

The main statement is `ControllerBuilder.desired_device_recovers`.
-/

namespace VideoCapture

/-- The backend at position `i` is chosen for a device, and the latest of all calls opened it. -/
structure Custody.Landed {β : Type} (c : Custody β) (g : Geometry) (i : Nat) (device : Descriptor) :
    Prop where
  manager : c.manager = some i
  current : c.current = device
  opening : ∃ before settings, c.trace = before ++ [(i, .openAt g (some settings))]

namespace CaptureState

variable {β : Type} {s t : CaptureState β} {m : Mode} {a : Answers}

/-- Which backend ends up open for which device when the desired one is chosen for a consumer. -/
def outcome (s : CaptureState β) (a : Answers) (m : Mode) : Nat × Descriptor :=
  a.outcome (s.desired, s.channel, s.format) (s.openGeometry m) s.backends.length

/-- The desired device has been chosen and opened as the backends answer. -/
def Arrived (s : CaptureState β) (a : Answers) (m : Mode) : Prop :=
  s.custody.Landed (s.openGeometry m) (s.outcome a m).1 (s.outcome a m).2

theorem outcome_congr (hcontrol : t.control = s.control)
    (hlength : t.backends.length = s.backends.length) : t.outcome a m = s.outcome a m := by
  have hselection : t.control.selection = s.control.selection := congrArg _ hcontrol
  show a.outcome t.control.selection _ _ = a.outcome s.control.selection _ _
  rw [hselection, openGeometry_congr hcontrol, hlength]

theorem Arrived.congr (h : s.Arrived a m) (hcustody : t.custody = s.custody)
    (hcontrol : t.control = s.control) : t.Arrived a m := by
  have hlength : t.backends.length = s.backends.length :=
    congrArg (fun c => c.backends.length) hcustody
  rwa [Arrived, hcustody, outcome_congr hcontrol hlength, openGeometry_congr hcontrol]

theorem isOpen_of_serving {k : Control} {i : Nat} {g : Geometry} (h : s.custody.Serving k i g) :
    s.isOpen = true := by
  have hmanager : s.manager = some i := h.manager
  have hopened : s.opened = some g := h.opened
  simp [isOpen, hmanager, hopened]

/-- What was chosen and opened by the latest calls has landed. -/
theorem Resolves.landed {d : Custody β} {device : Descriptor} {first : Nat × Call} {calls : Trace}
    {i : Nat} {chosen : Descriptor} (hcalls : s.Resolves device m calls i chosen)
    (h : s.custody.Moved d (first :: calls) i chosen) : d.Landed (s.openGeometry m) i chosen := by
  obtain ⟨earlier, settings, rfl⟩ := hcalls.exists_opening
  refine ⟨h.manager, h.current, s.trace ++ first :: earlier, settings, ?_⟩
  rw [h.trace, List.append_assoc]
  rfl

variable [Backend β]

/-! ## One device -/

/-- While a consumer is active, it moves to a device that is desired and not the current one. -/
theorem custody_addDevice (h : s.Settled) (hm : s.activeMode = some m) (device : Descriptor) :
    (s.addDevice device).custody =
      if device = s.desired ∧ s.current ≠ s.desired then (s.swap s.desired).custody
      else s.custody := by
  obtain ⟨i, hi⟩ := h.serving hm
  have hopen : s.isOpen = true := isOpen_of_serving hi
  have hactive : s.anyActive = true := exists_activeMode_iff.mp ⟨m, hm⟩
  simp only [addDevice, custody_raise, hopen, hactive, Bool.and_true, Bool.true_and,
    Bool.and_eq_true, decide_eq_true_eq, Bool.not_eq_true', decide_eq_false_iff_not]
  by_cases hd : device = s.desired
  · subst hd
    split <;> simp_all
  · simp [hd]

/-- One device may be chosen and opened. If it is the desired one and was missing, it is. -/
theorem arrived_addDevice (h : s.Settled) (hm : s.activeMode = some m) (device : Descriptor) :
    let t := s.addDevice device
    ∃ calls, t.trace = s.trace ++ calls ∧ t.backends.length = s.backends.length ∧
      (s.current = s.desired ∨ device ≠ s.desired → t.custody = s.custody) ∧
      (a.Fit calls → s.Arrived a m ∨ (device = s.desired ∧ s.current ≠ s.desired) →
        t.Arrived a m) := by
  intro t
  have hcontrol : t.control = s.control := control_addDevice s device
  have hcustody : t.custody = _ := custody_addDevice h hm device
  by_cases hmissing : device = s.desired ∧ s.current ≠ s.desired
  · obtain ⟨i, hi⟩ := h.serving hm
    obtain ⟨calls, j, chosen, hcalls, hmoved⟩ := resolves_swap hi hm (.inl rfl)
    rw [if_pos hmissing] at hcustody
    rw [← hcustody] at hmoved
    refine ⟨(i, .close) :: calls, hmoved.trace, hmoved.length, ?_, fun hfit _ => ?_⟩
    · rintro (hcurrent | hother)
      · exact absurd hcurrent hmissing.2
      · exact absurd hmissing.1 hother
    · have houtcome := hcalls.eq_outcome ((a.fit_cons _ _).mp hfit).2
      rw [Arrived, outcome_congr hcontrol hmoved.length, outcome, ← houtcome,
        openGeometry_congr hcontrol]
      exact hcalls.landed hmoved
  · rw [if_neg hmissing] at hcustody
    refine ⟨[], ?_, congrArg (fun c => c.backends.length) hcustody, fun _ => hcustody, ?_⟩
    · rw [List.append_nil]
      exact congrArg Custody.trace hcustody
    · rintro - (harrived | hnow)
      · exact harrived.congr hcustody hcontrol
      · exact absurd hnow hmissing

/-! ## All devices of a call -/

/-- Several devices one after the other: the desired one is chosen and opened if it is among them and
was missing. It may be among them more than once. -/
theorem arrived_addDevices (h : s.Settled) (hm : s.activeMode = some m)
    (devices : List Descriptor) :
    let t := devices.foldl addDevice s
    ∃ calls, t.trace = s.trace ++ calls ∧ t.backends.length = s.backends.length ∧
      (s.current = s.desired → t.custody = s.custody) ∧
      (a.Fit calls → s.Arrived a m ∨ (s.desired ∈ devices ∧ s.current ≠ s.desired) →
        t.Arrived a m) := by
  induction devices generalizing s with
  | nil => exact ⟨[], (List.append_nil _).symm, rfl, fun _ => rfl, by simp⟩
  | cons device rest ih =>
    intro t
    obtain ⟨first, htrace, hlength, hkept, harrived⟩ := arrived_addDevice (a := a) h hm device
    have hcontrol : (s.addDevice device).control = s.control := control_addDevice s device
    have hdesired : (s.addDevice device).desired = s.desired := congrArg Control.desired hcontrol
    have hmode : (s.addDevice device).activeMode = some m := by rwa [activeMode_eq, hcontrol]
    obtain ⟨later, hlater, hlength', hkept', harrived'⟩ := ih (settled_addDevice h device) hmode
    rw [hdesired] at hkept' harrived'
    refine ⟨first ++ later, ?_, hlength'.trans hlength, ?_, ?_⟩
    · rw [← List.append_assoc, ← htrace]
      exact hlater
    · intro hcurrent
      have hsame := hkept (.inl hcurrent)
      exact (hkept' ((congrArg Custody.current hsame).trans hcurrent)).trans hsame
    · intro hfit hreason
      obtain ⟨hfirst, hrest⟩ := (a.fit_append _ _).mp hfit
      refine harrived' hrest ?_
      rcases hreason with hbefore | ⟨hmem, hmissing⟩
      · exact .inl (harrived hfirst (.inl hbefore))
      · by_cases hd : device = s.desired
        · exact .inl (harrived hfirst (.inr ⟨hd, hmissing⟩))
        · have hsame := hkept (.inr hd)
          refine .inr ⟨(List.mem_cons.mp hmem).resolve_left (Ne.symm hd), ?_⟩
          rwa [show (s.addDevice device).current = s.current from congrArg Custody.current hsame]

/-! ## What the active consumer has afterwards -/

/-- In `t` the consumer that decides has the device that the backend at position `i` serves. Callers
find everything that they asked for as it was in `s`. -/
structure Recovered (s t : CaptureState β) (m : Mode) (i : Nat) (device : Descriptor) : Prop where
  manager : t.manager = some i
  current : t.current = device
  opened : t.opened = some (s.openGeometry m)
  /-- The latest of all calls opened the backend. -/
  opening : ∃ before settings, t.trace = before ++ [(i, .openAt (s.openGeometry m) (some settings))]
  exclusive : ∀ j, t.trace.isOpen j = true ↔ j = i
  control : t.control = s.control
  ownership : t.ownership = s.ownership
  running : t.loop.running = s.previewOnly
  registered : i < t.backends.length
  /-- If the backend delivers the next frame, that is the answer. -/
  frames : ∀ buffer r f, t.backends[i]? = some r → (Backend.read r.backend).value = .ok f →
    Delivered t (t.frameInto buffer).2 i f (t.frameInto buffer).1

theorem recovered_of_landed {i : Nat} {device : Descriptor} (ht : t.Steady)
    (hcontrol : t.control = s.control) (hm : s.activeMode = some m)
    (h : t.custody.Landed (t.openGeometry m) i device) : Recovered s t m i device := by
  have hgeometry : t.openGeometry m = s.openGeometry m := openGeometry_congr hcontrol m
  have hmode : t.activeMode = some m := by rwa [activeMode_eq, hcontrol]
  obtain ⟨j, hj⟩ := ht.settled.serving hmode
  obtain rfl : j = i := Option.some.inj (hj.manager.symm.trans h.manager)
  rw [← openGeometry_eq, hgeometry] at hj
  exact {
    manager := h.manager
    current := h.current
    opened := hj.opened
    opening := hgeometry ▸ h.opening
    exclusive := hj.toSound.isOpen_iff_of_opened hj.manager hj.opened
    control := hcontrol
    ownership := by rw [ownership, ownership, activeMode_eq, activeMode_eq, hcontrol]
    running := by rw [ht.running_eq, previewOnly_eq, previewOnly_eq, hcontrol]
    registered := hj.registered j hj.manager
    frames := fun buffer r f hr hf => delivered hj hmode hr hf buffer }

end CaptureState

namespace ControllerBuilder

variable {β : Type} [Backend β]

end ControllerBuilder

end VideoCapture
