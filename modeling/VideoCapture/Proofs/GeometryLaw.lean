import VideoCapture.Proofs.Opening

/-!
# The geometry of the open device

While the stream is active the device is open at the geometry that was set for the stream when it last
started; settings made since do not matter, and neither does a start that finds the stream active.
While only the preview is active the device is open at the geometry last set for the preview. No
fallback, no move to another device and no device that comes or goes makes an exception.

## Main definitions

* `ControllerBuilder.lastPreview`, `ControllerBuilder.lastStream` — the geometries last set.
* `ControllerBuilder.Latched` — the geometry that was set for the stream when it last started.

The main statement is `ControllerBuilder.geometry_law`.
-/

namespace VideoCapture

namespace Control

variable {β : Type}

/-- While the stream stays active, only a start could change the geometry it uses. -/
theorem liveStream_step {c : Control} {e : Step β} (h : (c.step e).streamActive = true)
    (he : e = .operation .startStream → c.streamActive = true) :
    c.streamActive = true ∧ (c.step e).liveStream = c.liveStream := by
  cases e with
  | operation op =>
    cases op with
    | startStream =>
      have hactive := he rfl
      simp [step, after, hactive]
    | startPreview | stopPreview | stopStream =>
      simp only [step, after] at h ⊢
      split at h <;> grind [sync]
    | shutDown => simp [step, after, sync] at h
    | _ => exact ⟨h, rfl⟩
  | handOut => exact ⟨h, rfl⟩
  | stir => exact ⟨h, rfl⟩

end Control

namespace ControllerBuilder

variable {β : Type} (builder : ControllerBuilder β)

/-- The geometry last set for the preview. -/
def lastPreview (steps : List (Step β)) : Geometry :=
  (steps.filterMap Step.previewGeometry?).getLastD builder.preview

/-- The geometry last set for the stream. -/
def lastStream (steps : List (Step β)) : Geometry :=
  (steps.filterMap Step.streamGeometry?).getLastD builder.stream

theorem previewGeometry_asked (steps : List (Step β)) :
    (builder.asked steps).previewGeometry = builder.lastPreview steps :=
  Control.recorded_run (fun c e => (c.recorded_step e).2.1) _ steps

theorem streamGeometry_asked (steps : List (Step β)) :
    (builder.asked steps).streamGeometry = builder.lastStream steps :=
  Control.recorded_run (fun c e => (c.recorded_step e).2.2) _ steps

variable [Backend β]

/-- `g` is the geometry that was set for the stream when it last started. A start only counts if it
finds the stream inactive. -/
def Latched (steps : List (Step β)) (g : Geometry) : Prop :=
  ∃ earlier later, steps = earlier ++ .operation .startStream :: later ∧
    (builder.start.run earlier).stream.active = false ∧ g = builder.lastStream earlier ∧
    ∀ more rest, later = more ++ .operation .startStream :: rest →
      (builder.start.run (earlier ++ .operation .startStream :: more)).stream.active = true

/-- The effect that follows `before` in the log was written down by `op`, after the steps `done`. -/
structure WrittenBy (done : List (Step β)) (op : Operation β) (before : List Effect) (e : Effect) :
    Prop where
  started : (builder.start.run done).log <+: before
  ended : before ++ [e] <+: (builder.start.run (done ++ [.operation op])).log

theorem log_start : builder.start.log = [] :=
  List.foldlRecOn (motive := fun s : CaptureState β => s.log = []) _ _ rfl fun _ hs _ _ => hs

variable {builder}

theorem streamActive_asked (steps : List (Step β)) :
    (builder.asked steps).streamActive = (builder.start.run steps).stream.active :=
  (congrArg Control.streamActive (builder.control_run steps)).symm

/-- A step that does not start the stream leaves the geometry of the last start. -/
theorem Latched.concat {steps : List (Step β)} {g : Geometry} (h : builder.Latched steps g)
    {e : Step β}
    (he : e = .operation .startStream → (builder.start.run steps).stream.active = true) :
    builder.Latched (steps ++ [e]) g := by
  obtain ⟨earlier, later, rfl, hstart, hg, hlater⟩ := h
  refine ⟨earlier, later ++ [e], by simp, hstart, hg, ?_⟩
  intro more rest hsplit
  rcases List.eq_nil_or_concat rest with rfl | ⟨rest, last, rfl⟩
  · obtain ⟨rfl, hlast⟩ := List.append_inj' hsplit rfl
    exact he (List.singleton_inj.mp hlast)
  · have hinit : later ++ [e] = (more ++ .operation .startStream :: rest) ++ [last] := by
      simpa using hsplit
    exact hlater more rest (List.append_inj' hinit rfl).1

/-- An active stream uses the geometry of its last start. -/
theorem latched_liveStream (steps : List (Step β))
    (h : (builder.asked steps).streamActive = true) :
    builder.Latched steps (builder.asked steps).liveStream := by
  induction steps using List.reverseRecOn with
  | nil => simp [asked, Control.initial] at h
  | append_singleton steps e ih =>
    have hnext : builder.asked (steps ++ [e]) = (builder.asked steps).step e := by
      simp [asked]
    rw [hnext] at h ⊢
    by_cases hstart : e = .operation .startStream ∧ (builder.asked steps).streamActive = false
    · obtain ⟨rfl, hidle⟩ := hstart
      refine ⟨steps, [], rfl, (streamActive_asked steps).symm.trans hidle, ?_, by simp⟩
      rw [← streamGeometry_asked]
      simp [Control.step, Control.after, hidle, Control.sync]
    · have hactive : e = .operation .startStream → (builder.asked steps).streamActive = true :=
        fun he => by simpa [he] using hstart
      obtain ⟨hbefore, hsame⟩ := Control.liveStream_step h hactive
      rw [hsame]
      exact (ih hbefore).concat fun he => (streamActive_asked steps).symm.trans (hactive he)

theorem tracked_run (steps : List (Step β)) : (builder.start.run steps).Tracked := by
  induction steps using List.reverseRecOn with
  | nil =>
    rw [CaptureState.Tracked, builder.control_run, CaptureState.run_nil, builder.log_start]
    rfl
  | append_singleton steps e ih =>
    rw [CaptureState.run_concat, CaptureState.Tracked, CaptureState.control_step]
    cases e with
    | operation op => exact (CaptureState.acts_operate ih op).streaming_eq
    | handOut => exact ih
    | stir => exact ih

/-- Every opening of a run belongs to an operation, and is as the callers' side has it after that. -/
theorem exists_operation_of_opening {steps : List (Step β)} {before after : List Effect} {i : Nat}
    {g : Geometry} {r : Option AdjustmentSet}
    (h : (builder.start.run steps).log = before ++ .called i (.openAt g r) :: after) :
    ∃ done op rest, steps = done ++ .operation op :: rest ∧
      builder.WrittenBy done op before (.called i (.openAt g r)) ∧
      streaming before = (builder.asked (done ++ [.operation op])).streamActive ∧
      g = (builder.asked (done ++ [.operation op])).opening := by
  induction steps using List.reverseRecOn generalizing after with
  | nil => simp [builder.log_start] at h
  | append_singleton steps e ih =>
    by_cases hearlier : ∃ later,
        (builder.start.run steps).log = before ++ .called i (.openAt g r) :: later
    · obtain ⟨later, hlater⟩ := hearlier
      obtain ⟨done, op, rest, rfl, hbelongs⟩ := ih hlater
      exact ⟨done, op, rest ++ [e], by simp, hbelongs⟩
    · rw [CaptureState.run_concat] at h
      cases e with
      | operation op =>
        have hasked : builder.asked (steps ++ [.operation op]) =
            (builder.start.run steps).control.after op := by
          simp [builder.control_run, asked, Control.step]
        obtain ⟨more, hmore, hopens⟩ := (CaptureState.acts_operate (tracked_run steps) op).opens
        rw [CaptureState.step, hmore] at h
        rcases append_eq_append_cons h with ⟨between, rfl, rfl⟩ | ⟨late, hlate, -⟩
        · refine ⟨steps, op, [], rfl, ⟨List.prefix_append _ _, ?_⟩, ?_⟩
          · rw [CaptureState.run_concat, CaptureState.step, hmore]
            exact ⟨after, by simp⟩
          · rw [hasked]
            exact hopens between i g r after rfl
        · exact absurd ⟨late, hlate⟩ hearlier
      | handOut => exact absurd ⟨after, h⟩ hearlier
      | stir => exact absurd ⟨after, h⟩ hearlier

/-- Whatever opens the device, at whatever backend: while the stream is active it is opened at the
geometry set for the stream when it last started, and otherwise at the geometry last set for the
preview. So this is what the device is open at. -/
theorem geometry_law (builder : ControllerBuilder β) (steps : List (Step β)) :
    let s := builder.start.run steps
    (∀ before i g r after, s.log = before ++ .called i (.openAt g r) :: after →
        ∃ done op rest, steps = done ++ .operation op :: rest ∧
          builder.WrittenBy done op before (.called i (.openAt g r)) ∧
          (streaming before = true → builder.Latched (done ++ [.operation op]) g) ∧
          (streaming before = false → g = builder.lastPreview (done ++ [.operation op]))) ∧
      streaming s.log = s.stream.active ∧
      s.opened = s.activeMode.map s.openGeometry ∧
      (s.activeMode = some .stream → builder.Latched steps (s.openGeometry .stream)) ∧
      (s.activeMode = some .preview → s.openGeometry .preview = builder.lastPreview steps) := by
  intro s
  have hs : s.Settled := builder.settled_run steps
  have hcontrol : s.control = builder.asked steps := builder.control_run steps
  refine ⟨?_, tracked_run steps, ?_, ?_, ?_⟩
  · intro before i g r after h
    obtain ⟨done, op, rest, hsteps, hwritten, hstream, hg⟩ := exists_operation_of_opening h
    refine ⟨done, op, rest, hsteps, hwritten, ?_, ?_⟩
    · intro hactive
      have hlive := latched_liveStream (done ++ [.operation op]) (hstream.symm.trans hactive)
      rw [hg, Control.opening, if_pos (hstream.symm.trans hactive)]
      exact hlive
    · intro hidle
      rw [hg, Control.opening, if_neg (by simp [← hstream, hidle]), previewGeometry_asked]
  · cases hm : s.activeMode with
    | none => exact (hs.resting hm).closed
    | some m =>
      obtain ⟨i, hi⟩ := hs.serving hm
      rw [Option.map_some, CaptureState.openGeometry_eq]
      exact hi.opened
  · intro hm
    have hactive : (builder.asked steps).streamActive = true := by
      rw [streamActive_asked]
      by_contra hidle
      simp [s, CaptureState.activeMode, hidle] at hm
    rw [CaptureState.openGeometry_eq, hcontrol]
    exact latched_liveStream steps hactive
  · intro _
    rw [CaptureState.openGeometry_eq, hcontrol]
    exact builder.previewGeometry_asked steps

end ControllerBuilder

end VideoCapture
