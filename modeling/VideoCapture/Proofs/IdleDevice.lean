import VideoCapture.Proofs.Run
import VideoCapture.Scripted.Camera

/-!
# The device that is reported while nobody is active

Once nobody is active any more, the device is given up and the desired one is reported in its place.
Until somebody becomes active again this does not change, not even when another device is asked for:
that only changes what is desired, and what is reported falls behind.

## Main definitions

* `Step.givesUp` — whether a step gives the device up.
* `ControllerBuilder.givenUp` — the device that was desired when the device was last given up.

The main statement is `ControllerBuilder.idle_device`.
-/

namespace VideoCapture

/-- Whether a step gives the device up: the only active consumer stops, or the controller ends. -/
def Step.givesUp {β : Type} (c : Control) : Step β → Bool
  | operation .stopPreview => c.previewActive && !c.streamActive
  | operation .stopStream => c.streamActive && !c.previewActive
  | operation .shutDown => true
  | _ => false

/-- Only `setDevice` asks for a device. -/
theorem Step.exists_setDevice {β : Type} {e : Step β} {selection : Selection}
    (h : e.selection? = some selection) :
    ∃ device channel format, e = .operation (.setDevice device channel format) := by
  unfold selection? at h
  split at h
  · exact ⟨_, _, _, rfl⟩
  · cases h

theorem Step.selection?_of_givesUp {β : Type} {c : Control} {e : Step β}
    (h : e.givesUp c = true) : e.selection? = none := by
  unfold givesUp at h
  split at h <;> first | rfl | cases h

namespace CaptureState

variable {β : Type}

/-- The device that is desired in a moment in which the device is given up. -/
def givenUp? (moment : CaptureState β × Step β) : Option Descriptor :=
  if moment.2.givesUp moment.1.control then some moment.1.desired else none

variable [Backend β] {s : CaptureState β} {e : Step β}

/-- The device is given up by whoever ends all activity, and by the end of the controller. -/
theorem givesUp_iff : e.givesUp s.control = true ↔
    (s.step e).anyActive = false ∧ (s.anyActive = true ∨ e = .operation .shutDown) := by
  rw [anyActive_eq, anyActive_eq, control_step]
  cases e with
  | operation op =>
    cases op with
    | startPreview | stopPreview | startStream | stopStream | shutDown =>
      simp only [Control.step, Control.after, Step.givesUp]
      cases hp : s.control.previewActive <;> cases hs : s.control.streamActive <;>
        simp [Control.sync, hp, hs]
    | _ => simp [Step.givesUp, Control.step, Control.after]
  | _ => simp [Step.givesUp, Control.step]

theorem desired_step (h : e.selection? = none) : (s.step e).desired = s.desired := by
  have hselection := (Control.recorded_step s.control e).1
  rw [h, ← control_step] at hselection
  exact congrArg Prod.fst hselection

/-! ## When the device is given up -/

@[simp] theorem current_release (s : CaptureState β) : s.release.current = s.desired :=
  congrArg Control.desired (control_close s)

theorem current_step_of_givesUp (h : e.givesUp s.control = true) :
    (s.step e).current = s.desired := by
  unfold Step.givesUp at h
  split at h
  · obtain ⟨hp, hs⟩ : s.preview.active = true ∧ s.stream.active = false := by
      simpa [control] using h
    have hother : (s.setActive .preview false).stream.active = false := hs
    show s.stopPreview.current = _
    simp only [stopPreview, hp, hother, if_true, Bool.false_eq_true, if_false, syncModes,
      current_release]
    exact congrArg Control.desired (control_stopLoop _)
  · obtain ⟨hs, hp⟩ : s.stream.active = true ∧ s.preview.active = false := by
      simpa [control] using h
    have hother : (s.setActive .stream false).preview.active = false := hp
    show s.stopStream.current = _
    simp only [stopStream, hs, hother, if_true, Bool.false_eq_true, if_false, syncModes,
      current_release]
    rfl
  · show s.shutDown.current = _
    simp only [shutDown, syncModes, current_release]
    exact congrArg Control.desired (control_stopLoop _)
  · cases h

/-! ## Until somebody becomes active again -/

theorem addDevice_of_idle (h : s.anyActive = false) (device : Descriptor) :
    s.addDevice device = s.raise (.added device (device = s.desired)) := by
  simp [addDevice, h]

theorem removeDevice_of_unmanaged (h : s.manager = none) (device : Descriptor) :
    s.removeDevice device = s.raise (.removed device false) := by
  simp [removeDevice, isOpen, h]

theorem current_addDevices (h : s.anyActive = false) (devices : List Descriptor) :
    (devices.foldl addDevice s).current = s.current := by
  induction devices generalizing s with
  | nil => rfl
  | cons device rest ih =>
    rw [List.foldl_cons, addDevice_of_idle h]
    exact ih h

theorem current_removeDevices (h : s.manager = none) (devices : List Descriptor) :
    (devices.foldl removeDevice s).current = s.current := by
  induction devices generalizing s with
  | nil => rfl
  | cons device rest ih =>
    rw [List.foldl_cons, removeDevice_of_unmanaged h]
    exact ih h

/-- What is reported stays as it is, unless the device is given up again. -/
theorem current_step_of_idle (hs : s.Settled) (hidle : s.anyActive = false)
    (hlater : (s.step e).anyActive = false) (he : e.givesUp s.control = false) :
    (s.step e).current = s.current := by
  obtain ⟨hpreview, hstream⟩ : s.preview.active = false ∧ s.stream.active = false := by
    simpa [anyActive] using hidle
  cases e with
  | handOut => rfl
  | stir => rfl
  | operation op =>
    cases op with
    | setDevice device channel format =>
      show (s.setDevice device channel format).current = _
      simp [setDevice, anyActive, hpreview, hstream]
    | setPreview g =>
      show (s.setPreview g).current = _
      simp [setPreview, previewOnly, hpreview, setGeometry, updateMode]
    | startPreview | startStream =>
      -- Somebody would be active afterwards.
      rw [anyActive_eq, control_step] at hlater
      simp only [Control.step, Control.after] at hlater
      split at hlater <;> simp_all [Control.sync]
    | stopPreview =>
      show s.stopPreview.current = _
      simp [stopPreview, hpreview]
    | stopStream =>
      show s.stopStream.current = _
      simp [stopStream, hstream]
    | frame =>
      show s.readActive.2.current = _
      rw [readActive_of_idle (activeMode_eq_none_iff.mpr hidle)]
    | pull =>
      show s.pull.current = _
      simp [pull, previewOnly, hpreview]
    | addDevice => exact current_addDevices hidle _
    | removeDevice => exact current_removeDevices (hs.idle hidle).1 _
    | enumerate => exact (sound_enumerate _ 0 hs.sound).2.1.current
    | shutDown => cases he
    | _ => rfl

end CaptureState

namespace ControllerBuilder

variable {β : Type} [Backend β] (builder : ControllerBuilder β)

/-- The device that was desired when the device was last given up; the synthetic one before. -/
def givenUp (steps : List (Step β)) : Descriptor :=
  ((builder.start.moments steps).filterMap CaptureState.givenUp?).getLastD Descriptor.fallback

/-- The steps end with a wish for a device made while nobody is active. Nobody has become active since,
no other device has been asked for, and the controller has not ended. -/
def AskedIdly (steps : List (Step β)) (device : Descriptor) : Prop :=
  ∃ earlier channel format later,
    steps = earlier ++ .operation (.setDevice device channel format) :: later ∧
      (∀ more, more <+: .operation (.setDevice device channel format) :: later →
        (builder.start.run (earlier ++ more)).anyActive = false) ∧
      ∀ e ∈ later, e.selection? = none ∧ e ≠ .operation .shutDown

variable {builder}

theorem AskedIdly.concat {steps : List (Step β)} {device : Descriptor}
    (h : builder.AskedIdly steps device) {e : Step β} (hselection : e.selection? = none)
    (he : e ≠ .operation .shutDown)
    (hidle : (builder.start.run (steps ++ [e])).anyActive = false) :
    builder.AskedIdly (steps ++ [e]) device := by
  obtain ⟨earlier, channel, format, later, rfl, hsince, hlater⟩ := h
  refine ⟨earlier, channel, format, later ++ [e], by simp, ?_, ?_⟩
  · intro more hmore
    rw [← List.cons_append] at hmore
    rcases List.prefix_concat_iff.mp hmore with rfl | hbefore
    · simpa using hidle
    · exact hsince more hbefore
  · intro e' he'
    rcases List.mem_append.mp he' with hmem | hmem
    · exact hlater e' hmem
    · rw [List.mem_singleton.mp hmem]
      exact ⟨hselection, he⟩

theorem askedIdly_concat {steps : List (Step β)} {device : Descriptor} {channel : UInt32}
    {format : VideoFormat} (hidle : (builder.start.run steps).anyActive = false)
    (hlater : (builder.start.run (steps ++ [.operation (.setDevice device channel format)])).anyActive
      = false) :
    builder.AskedIdly (steps ++ [.operation (.setDevice device channel format)]) device := by
  refine ⟨steps, channel, format, [], rfl, fun more hmore => ?_, by simp⟩
  rcases List.prefix_concat_iff.mp (show more <+: [] ++ [_] from hmore) with rfl | hbefore
  · exact hlater
  · rw [List.prefix_nil.mp hbefore, List.append_nil]
    exact hidle

theorem current_start : builder.start.current = Descriptor.fallback :=
  List.foldlRecOn (motive := fun s : CaptureState β => s.current = Descriptor.fallback) _ _ rfl
    fun _ hs _ _ => hs

theorem givenUp_concat (steps : List (Step β)) (e : Step β) :
    builder.givenUp (steps ++ [e]) =
      if e.givesUp (builder.start.run steps).control then (builder.start.run steps).desired
      else builder.givenUp steps := by
  simp only [givenUp, CaptureState.moments_concat, List.filterMap_append]
  split <;> rename_i he <;> simp [CaptureState.givenUp?, he]

/-- What is reported while nobody is active was desired when the device was last given up. If another
device is desired now, it was asked for since. -/
theorem reported_of_idle (steps : List (Step β))
    (hidle : (builder.start.run steps).anyActive = false) :
    (builder.start.run steps).current = builder.givenUp steps ∧
      ((builder.start.run steps).current ≠ (builder.start.run steps).desired →
        builder.AskedIdly steps (builder.start.run steps).desired) := by
  induction steps using List.reverseRecOn with
  | nil =>
    refine ⟨current_start, fun hbehind => absurd ?_ hbehind⟩
    have hdesired := congrArg Control.desired (builder.control_run [])
    exact current_start.trans hdesired.symm
  | append_singleton steps e ih =>
    let s := builder.start.run steps
    have hconcat : builder.start.run (steps ++ [e]) = s.step e := CaptureState.run_concat _ steps e
    have hlater : (s.step e).anyActive = false := hconcat ▸ hidle
    rw [givenUp_concat, hconcat]
    cases he : e.givesUp s.control with
    | true =>
      have hcurrent := CaptureState.current_step_of_givesUp he
      refine ⟨hcurrent.trans (if_pos rfl).symm, fun hbehind => absurd ?_ hbehind⟩
      exact hcurrent.trans (CaptureState.desired_step (Step.selection?_of_givesUp he)).symm
    | false =>
      have hbefore : s.anyActive = false := by
        by_contra hactive
        have hgives := CaptureState.givesUp_iff.mpr ⟨hlater, .inl (by simpa using hactive)⟩
        simp [he] at hgives
      have hcurrent := CaptureState.current_step_of_idle (builder.settled_run steps) hbefore hlater he
      obtain ⟨hreported, hasked⟩ := ih hbefore
      refine ⟨?_, fun hbehind => ?_⟩
      · rw [hcurrent, if_neg Bool.false_ne_true]
        exact hreported
      · cases hselection : e.selection? with
        | none =>
          rw [hcurrent, CaptureState.desired_step hselection] at hbehind
          rw [CaptureState.desired_step hselection]
          refine (hasked hbehind).concat hselection ?_ hidle
          rintro rfl
          cases he
        | some selection =>
          obtain ⟨device, channel, format, rfl⟩ := Step.exists_setDevice hselection
          have hnow : (s.step (.operation (.setDevice device channel format))).desired = device :=
            congrArg Control.desired (CaptureState.control_step _ _)
          rw [hnow]
          exact askedIdly_concat hbefore hidle

/-- While nobody is active, the device that is reported is the one that was desired when the device
was last given up. It is the desired one unless another was asked for since, while nobody was active;
giving the device up makes the two agree again. -/
theorem idle_device (builder : ControllerBuilder β) (steps : List (Step β)) :
    let s := builder.start.run steps
    (s.anyActive = false → s.current = builder.givenUp steps) ∧
      (s.anyActive = false → s.current = s.desired ∨ builder.AskedIdly steps s.desired) ∧
      ∀ e : Step β, (s.anyActive = true ∨ e = .operation .shutDown) →
        (s.step e).anyActive = false → (s.step e).current = s.desired := by
  intro s
  refine ⟨fun hidle => (reported_of_idle steps hidle).1, fun hidle => ?_, fun e he hlater => ?_⟩
  · exact or_iff_not_imp_left.mpr (reported_of_idle steps hidle).2
  · exact CaptureState.current_step_of_givesUp (CaptureState.givesUp_iff.mpr ⟨hlater, he⟩)

/-- What is reported falls behind: with no consumer active, a camera is asked for and the synthetic
device goes on being reported. -/
theorem reported_device_behind :
    let builder : ControllerBuilder Scripted.Camera := ControllerBuilder.default
    let device : Descriptor := ⟨"v4l", "video0", "cam0"⟩
    let s := builder.start.run [.operation (.setDevice device 0 .auto)]
    s.anyActive = false ∧ s.desired = device ∧ s.current = Descriptor.fallback ∧
      s.current ≠ s.desired := by
  decide

end ControllerBuilder

end VideoCapture
