import VideoCapture.Proofs.Run

/-!
# Who holds the device

In every reachable state the device is held by the backend of the controller's choice while a consumer
is active, and by nobody otherwise. The choice is the one that the callers asked for, or the synthetic
device in its place.

## Main statements

* `ControllerBuilder.exclusive_ownership` — at most one backend is open, and the others are not spoken
  to as if they were.
* `ControllerBuilder.selection_coupled` — the open backend serves the device that is reported.
-/

namespace VideoCapture

namespace ControllerBuilder

variable {β : Type} [Backend β]

/-- At most one backend is open: the chosen one while a consumer is active, and none while nobody is
or once the controller has ended. Backends are selected and opened only while none is open; only the
open one is read, adjusted and closed. -/
theorem exclusive_ownership (builder : ControllerBuilder β) (steps : List (Step β)) :
    let s := builder.start.run steps
    let last := (s.operate .shutDown).2
    (∀ i j, s.trace.isOpen i = true → s.trace.isOpen j = true → i = j) ∧
      (s.anyActive = true →
        ∃ i, s.manager = some i ∧ i < s.backends.length ∧ ∀ j, s.trace.isOpen j = true ↔ j = i) ∧
      (s.anyActive = false → s.manager = none ∧ ∀ j, s.trace.isOpen j = false) ∧
      (last.anyActive = false ∧ last.manager = none ∧ ∀ j, last.trace.isOpen j = false) ∧
      s.trace.Disciplined := by
  intro s last
  have hs : s.Settled := builder.settled_run steps
  have hlast : last.Settled := CaptureState.settled_operate hs .shutDown
  have hended : last.anyActive = false := by
    rw [CaptureState.anyActive_eq, CaptureState.control_operate]
    rfl
  refine ⟨?_, ?_, hs.idle, ⟨hended, hlast.idle hended⟩, hs.sound.disciplined⟩
  · intro i j hi hj
    have hsame := ((hs.sound.held i).mp hi).2.symm.trans ((hs.sound.held j).mp hj).2
    exact Option.some.inj hsame
  · intro hactive
    obtain ⟨i, g, hi⟩ := hs.exists_serving hactive
    exact ⟨i, hi.manager, hi.registered i hi.manager,
      hi.toSound.isOpen_iff_of_opened hi.manager hi.opened⟩

/-- While a consumer is active, the chosen backend is the one that accepted a device last, and what it
accepted is the current device with the recorded channel and format. The current device is the desired
one or the synthetic one, and only the synthetic backend serves the latter. What is recorded are the
arguments of the latest `setDevice`. -/
theorem selection_coupled (builder : ControllerBuilder β) (steps : List (Step β)) :
    let s := builder.start.run steps
    (s.anyActive = true →
        ∃ i, s.manager = some i ∧ i < s.backends.length ∧
          s.trace.selection? = some (i, s.current, s.channel, s.format) ∧
          (s.current = s.desired ∨ s.current = Descriptor.fallback) ∧
          (s.current = Descriptor.fallback → i = 0)) ∧
      (∃ l : Logo, s.backends[0]? = some ⟨Descriptor.fallbackName, .logo l⟩) ∧
      (s.desired, s.channel, s.format) =
        (steps.filterMap Step.selection?).getLastD (Descriptor.fallback, 0, .auto) := by
  intro s
  have hs : s.Settled := builder.settled_run steps
  refine ⟨?_, ?_, ?_⟩
  · intro hactive
    obtain ⟨i, g, hi⟩ := hs.exists_serving hactive
    exact ⟨i, hi.manager, hi.registered i hi.manager, hi.accepted, hi.device, hi.fallback⟩
  · obtain ⟨l, hl, -⟩ := hs.sound.synthetic
    exact ⟨l, hl⟩
  · have hselection := congrArg Control.selection (builder.control_run steps)
    rw [asked, Control.selection_run] at hselection
    exact hselection

end ControllerBuilder

end VideoCapture
