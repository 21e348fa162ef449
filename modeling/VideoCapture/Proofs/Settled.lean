import VideoCapture.Proofs.Session

/-!
# Every operation settles

Between operations the device side is in the phase that the callers' side asks for: it rests while
nobody is active, and otherwise a backend is open at the geometry of the consumer that decides. Every
operation restores this, whatever backends answer on the way.

## Main definitions

* `CaptureState.Settled` — the device side is in the phase that the callers' side asks for.

The main statement is `CaptureState.settled_operate`.
-/

namespace VideoCapture

namespace CaptureState

variable {β : Type}

/-- The device side is in the phase that the callers' side asks for. -/
def Settled (s : CaptureState β) : Prop := s.custody.Settled s.control

variable {s : CaptureState β}

theorem settled_of_resting (h : s.custody.Resting) (hm : s.control.activeMode = none) :
    s.Settled := by
  rw [Settled, Custody.Settled, hm]
  exact h

theorem settled_of_serving {m : Mode} {i : Nat}
    (h : s.custody.Serving s.control i (s.control.openGeometry m))
    (hm : s.control.activeMode = some m) : s.Settled := by
  rw [Settled, Custody.Settled, hm]
  exact ⟨i, h⟩

theorem Settled.resting (h : s.Settled) (hm : s.control.activeMode = none) : s.custody.Resting := by
  rwa [Settled, Custody.Settled, hm] at h

theorem Settled.serving (h : s.Settled) {m : Mode} (hm : s.control.activeMode = some m) :
    ∃ i, s.custody.Serving s.control i (s.control.openGeometry m) := by
  rwa [Settled, Custody.Settled, hm] at h

theorem Settled.sound (h : s.Settled) : s.custody.Sound := by
  cases hm : s.control.activeMode with
  | none => exact (h.resting hm).toSound
  | some m =>
    obtain ⟨i, hi⟩ := h.serving hm
    exact hi.toSound

theorem activeMode_eq_none_iff : s.control.activeMode = none ↔ s.anyActive = false := by
  rw [Control.activeMode_eq_none_iff, anyActive_eq]
  simp

theorem exists_activeMode_iff : (∃ m, s.control.activeMode = some m) ↔ s.anyActive = true := by
  rw [← Option.isSome_iff_exists, Option.isSome_iff_ne_none, Ne, activeMode_eq_none_iff]
  simp

/-- While a consumer is active, some backend is open for it. -/
theorem Settled.exists_serving (h : s.Settled) (hactive : s.anyActive = true) :
    ∃ i g, s.custody.Serving s.control i g := by
  obtain ⟨m, hm⟩ := exists_activeMode_iff.mpr hactive
  obtain ⟨i, hi⟩ := h.serving hm
  exact ⟨i, _, hi⟩

/-- While nobody is active, no backend is chosen and none is open. -/
theorem Settled.idle (h : s.Settled) (hidle : s.anyActive = false) :
    s.manager = none ∧ ∀ j, s.trace.isOpen j = false := by
  have hrest := h.resting (activeMode_eq_none_iff.mpr hidle)
  exact ⟨hrest.unmanaged, hrest.toSound.isOpen_of_closed hrest.closed⟩

/-- The device is open at the geometry of the consumer that decides, if there is one. -/
theorem Settled.opened_eq (h : s.Settled) :
    s.opened = s.control.activeMode.map s.control.openGeometry := by
  cases hm : s.control.activeMode with
  | none => exact (h.resting hm).closed
  | some m =>
    obtain ⟨i, hi⟩ := h.serving hm
    exact hi.opened

/-- Settling looks at nothing but the two sides. -/
theorem Settled.congr {t : CaptureState β} (h : s.Settled) (hcustody : t.custody = s.custody)
    (hcontrol : t.control = s.control) : t.Settled := by
  rw [Settled, hcustody, hcontrol]
  exact h

theorem settled_raise (h : s.Settled) (n : Notification) : (s.raise n).Settled :=
  h.congr (custody_raise n s) (control_raise n s)

theorem settled_setSettings (h : s.Settled) (m : Mode) (settings : AdjustmentSet) :
    (s.setSettings m settings).Settled :=
  h.congr (custody_setSettings m settings s) (control_setSettings m settings s)

theorem settled_startLoop (h : s.Settled) : s.startLoop.Settled :=
  h.congr (custody_startLoop s) (control_startLoop s)

theorem settled_register (h : s.Settled) (b : Source β) (framework : String) :
    (s.register b framework).Settled := by
  have hpos : 0 < s.backends.length := by
    obtain ⟨l, hl, -⟩ := h.sound.synthetic
    exact (List.getElem?_eq_some_iff.mp hl).1
  refine Custody.Settled.withBackends (c := s.custody) h ?_ ?_
  · exact List.getElem?_append_left hpos
  · simp [custody, register]

/-- Backends of the caller's type may change on their own. -/
theorem settled_alter (h : s.Settled) (i : Nat) (f : β → β) : (s.alter i f).Settled := by
  refine Custody.Settled.withBackends (c := s.custody) h ?_ ?_
  · obtain ⟨l, hl, -⟩ := h.sound.synthetic
    simp only [custody] at hl ⊢
    simp only [alter, List.getElem?_modify, hl]
    split <;> rfl
  · simp [custody, alter]

/-- A change of what the callers ask for that touches neither the device recorded nor the geometry in
use. -/
theorem Settled.of_control {t : CaptureState β} (h : s.Settled) (hcustody : t.custody = s.custody)
    (hmode : t.control.activeMode = s.control.activeMode)
    (hselection : t.control.selection = s.control.selection)
    (hgeometry : ∀ m, s.control.activeMode = some m →
      t.control.openGeometry m = s.control.openGeometry m) : t.Settled := by
  cases hm : s.control.activeMode with
  | none =>
    refine settled_of_resting ?_ (hmode.trans hm)
    rw [hcustody]
    exact h.resting hm
  | some m =>
    obtain ⟨i, hi⟩ := h.serving hm
    refine settled_of_serving (m := m) (i := i) ?_ (hmode.trans hm)
    rw [hcustody, hgeometry m hm]
    exact hi.of_selection hselection

theorem settled_syncModes (h : s.Settled) : s.syncModes.Settled := by
  refine h.of_control (custody_syncModes s) rfl rfl ?_
  intro m _
  cases m <;> rfl

theorem settled_setStream (h : s.Settled) (g : Geometry) : (s.setGeometry .stream g).Settled := by
  refine h.of_control (custody_setGeometry _ _ _) rfl rfl ?_
  intro m _
  cases m <;> rfl

/-- Beside a stream it makes no difference to the device whether the preview is active. -/
theorem settled_setActive_preview (h : s.Settled) (hs : s.control.streamActive = true)
    (active : Bool) : (s.setActive .preview active).Settled := by
  refine h.of_control (custody_setActive _ _ _) ?_ rfl ?_
  · simp [control_setActive_preview, Control.activeMode, hs]
  · intro m _
    cases m <;> rfl

variable [Backend β]

/-! ## Frames -/

theorem settled_readFallback (h : s.Settled) {m : Mode} (hm : s.control.activeMode = some m) :
    (s.readFallback m).2.Settled := by
  obtain ⟨i, hi⟩ := h.serving hm
  have hclosed := ready_close hi
  have hready := ready_selectFallback hclosed.toSound hclosed.closed
  have hcontrol : s.close.selectFallback.control = s.close.control := by simp
  rw [← hcontrol] at hready
  obtain ⟨j, hj⟩ := openFor_spec hready m
  have hread := serving_read hj
  rw [readFallback_eq]
  refine settled_of_serving (m := m) (i := j) ?_ (by simpa using hm)
  simpa [openGeometry_eq] using hread

theorem settled_flushAdjustments (h : s.Settled) : s.flushAdjustments.Settled := by
  cases hm : s.control.activeMode with
  | none =>
    have hrest := h.resting hm
    have hnone : s.manager = none := hrest.unmanaged
    have hsame : s.flushAdjustments = s := by simp [flushAdjustments, hnone]
    rw [hsame]
    exact h
  | some m =>
    obtain ⟨i, hi⟩ := h.serving hm
    have hflush := serving_flushAdjustments hi
    refine settled_of_serving (m := m) (i := i) ?_ (by simpa using hm)
    simpa using hflush

theorem settled_readActive (h : s.Settled) : s.readActive.2.Settled := by
  cases hm : s.control.activeMode with
  | none =>
    rw [readActive_of_idle hm]
    exact h
  | some m =>
    obtain ⟨i, hi⟩ := h.serving hm
    have hread : s.read.2.Settled := by
      refine settled_of_serving (m := m) (i := i) ?_ (by simpa using hm)
      simpa using serving_read hi
    rw [readActive_of_activeMode hm]
    split
    · exact settled_flushAdjustments hread
    · exact settled_flushAdjustments (settled_readFallback hread (by simpa using hm))

theorem settled_pull (h : s.Settled) : s.pull.Settled := by
  let t := { s with loop := { s.loop with due := false } }
  have ht : t.Settled := h
  have hread := settled_readActive ht
  simp only [pull]
  split
  · split
    · rename_i frame u hu
      have hu' : t.readActive.2 = u := by rw [hu]
      exact (hu' ▸ hread).congr (custody_note rfl u) rfl
    · rename_i u hu
      have hu' : t.readActive.2 = u := by rw [hu]
      exact hu' ▸ hread
  · exact h

/-! ## Moving to another device -/

theorem swap_of_streaming (hs : s.control.streamActive = true) (device : Descriptor) :
    s.swap device = (s.close.select device).openFor .stream := by
  have hactive : s.stream.active = true := hs
  have hlater : (s.close.select device).stream.active = true := by
    show (s.close.select device).control.streamActive = true
    simpa using hs
  simp [swap, previewOnly, anyActive, hactive, hlater]

theorem swap_of_previewing (hp : s.control.previewActive = true)
    (hs : s.control.streamActive = false) (device : Descriptor) :
    s.swap device = ((s.stopLoop.close.select device).openFor .preview).startLoop := by
  have hpreview : s.preview.active = true := hp
  have hstream : s.stream.active = false := hs
  have hstopped : s.stopLoop.preview.active = true := by
    show s.stopLoop.control.previewActive = true
    simpa using hp
  have hlater : ((s.stopLoop.close.select device).openFor .preview).startLoop.stream.active =
      false := by
    show ((s.stopLoop.close.select device).openFor .preview).startLoop.control.streamActive = false
    simpa using hs
  simp [swap, previewOnly, anyActive, hpreview, hstream, hstopped, hlater]

/-- The open device is closed, and the desired or the synthetic one can be opened. -/
theorem ready_move {k : Control} {i : Nat} {g : Geometry} (h : s.custody.Serving k i g)
    {device : Descriptor} (hd : device = s.desired ∨ device = Descriptor.fallback) :
    ∃ j, (s.close.select device).custody.Ready (s.close.select device).control j := by
  have hclosed := ready_close h
  have hdesired : s.close.desired = s.desired := congrArg Control.desired (control_close s)
  obtain ⟨j, hj⟩ := ready_select hclosed.toSound hclosed.closed device (hdesired ▸ hd)
  exact ⟨j, by simpa using hj⟩

/-- Moving from any open device to the desired or the synthetic one settles again. -/
theorem settled_swap {k : Control} {i : Nat} {g : Geometry} (h : s.custody.Serving k i g)
    (hactive : s.anyActive = true) {device : Descriptor}
    (hd : device = s.desired ∨ device = Descriptor.fallback) : (s.swap device).Settled := by
  have hmove (t : CaptureState β) (ht : t.custody.Serving k i g) (hc : t.control = s.control)
      (m : Mode) : ∃ j, ((t.close.select device).openFor m).custody.Serving s.control j
        (s.control.openGeometry m) := by
    have hdesired : t.desired = s.desired := congrArg Control.desired hc
    obtain ⟨j, hj⟩ := ready_move ht (hdesired ▸ hd)
    obtain ⟨j', hj'⟩ := openFor_spec hj m
    exact ⟨j', by simpa [openGeometry_eq, hc] using hj'⟩
  cases hs : s.control.streamActive with
  | true =>
    rw [swap_of_streaming hs]
    obtain ⟨j, hj⟩ := hmove s h rfl .stream
    refine settled_of_serving (m := .stream) (i := j) (by simpa using hj) ?_
    simp [Control.activeMode, hs]
  | false =>
    have hp : s.control.previewActive = true := by
      rw [anyActive_eq, hs, Bool.or_false] at hactive
      exact hactive
    rw [swap_of_previewing hp hs]
    obtain ⟨j, hj⟩ := hmove s.stopLoop (by simpa using h) (by simp) .preview
    refine settled_of_serving (m := .preview) (i := j) (by simpa using hj) ?_
    simp [Control.activeMode, hs, hp]

/-! ## Handing the device over -/

/-- The device is closed, and it can be opened again; the choice stands. -/
theorem ready_reopen {k : Control} {i : Nat} {g : Geometry} (h : s.custody.Serving k i g)
    (hk : s.control.selection = k.selection) : s.close.custody.Ready s.close.control i := by
  rw [control_close]
  exact (ready_close h).of_selection hk

theorem serving_reopen {k : Control} {i : Nat} {g : Geometry} (h : s.custody.Serving k i g)
    (hk : s.control.selection = k.selection) (m : Mode) :
    ∃ j, (s.close.openFor m).custody.Serving s.control j (s.control.openGeometry m) := by
  obtain ⟨j, hj⟩ := openFor_spec (ready_reopen h hk) m
  exact ⟨j, by simpa [openGeometry_eq] using hj⟩

/-- A consumer becomes active while nobody else is: the desired device is chosen. -/
theorem ready_activate (h : s.custody.Resting) :
    ∃ j, s.selectDesiredIfNeeded.custody.Ready s.selectDesiredIfNeeded.control j := by
  have hnone : s.manager = none := h.unmanaged
  have hselect : s.selectDesiredIfNeeded = s.select s.desired := by
    simp [selectDesiredIfNeeded, hnone]
  obtain ⟨j, hj⟩ := ready_select h.toSound h.closed s.desired (.inl rfl)
  rw [hselect, control_select]
  exact ⟨j, hj⟩

theorem serving_activate (h : s.custody.Resting) (m : Mode) :
    ∃ j, (s.selectDesiredIfNeeded.openFor m).custody.Serving s.control j
      (s.control.openGeometry m) := by
  obtain ⟨i, hi⟩ := ready_activate h
  obtain ⟨j, hj⟩ := openFor_spec hi m
  exact ⟨j, by simpa [openGeometry_eq] using hj⟩

/-! ## Every operation -/

theorem settled_setDevice (h : s.Settled) (device : Descriptor) (channel : UInt32)
    (format : VideoFormat) : (s.setDevice device channel format).Settled := by
  let t := { s with desired := device, channel := channel, format := format }
  show (if t.anyActive then t.swap device else t).Settled
  split
  · rename_i hactive
    obtain ⟨i, g, hi⟩ := h.exists_serving hactive
    exact settled_swap (s := t) (k := s.control) hi hactive (.inl rfl)
  · rename_i hidle
    have hidle : s.control.activeMode = none :=
      activeMode_eq_none_iff.mpr (Bool.eq_false_iff.mpr hidle)
    exact settled_of_resting (s := t) (h.resting hidle) hidle

/-- The preview gets another geometry while the device is closed. -/
theorem ready_setPreview {i : Nat} {g : Geometry} (h : s.custody.Serving s.control i g)
    (h' : Geometry) :
    (s.stopLoop.close.setGeometry .preview h').custody.Ready
      (s.stopLoop.close.setGeometry .preview h').control i := by
  rw [← custody_stopLoop] at h
  refine Custody.Ready.of_selection (k := s.control) ?_ ?_
  · simpa using ready_close h
  · simp [control_setGeometry_preview, Control.selection]

theorem settled_setPreview (h : s.Settled) (g : Geometry) : (s.setPreview g).Settled := by
  unfold setPreview
  split
  · rename_i hcond
    obtain ⟨⟨hp, hs⟩, -⟩ : (s.control.previewActive = true ∧ s.control.streamActive = false) ∧
        s.preview.geometry ≠ g := by simpa [previewOnly_eq] using hcond
    have hm : s.control.activeMode = some .preview := by simp [Control.activeMode, hp, hs]
    obtain ⟨i, hi⟩ := h.serving hm
    obtain ⟨j, hj⟩ := openFor_spec (ready_setPreview hi g) .preview
    refine settled_of_serving (m := .preview) (i := j) ?_ ?_
    · simpa [openGeometry_eq] using hj
    · simp [control_setGeometry_preview, Control.activeMode, hp, hs]
  · rename_i hcond
    refine h.of_control (custody_setGeometry _ _ _) rfl rfl ?_
    intro m hm
    cases m with
    | stream => rfl
    | preview =>
      have hsame : s.preview.geometry = g := by
        by_contra hne
        apply hcond
        simp only [Control.activeMode] at hm
        split at hm <;> grind [previewOnly_eq]
      exact hsame.symm

theorem settled_startPreview (h : s.Settled) : s.startPreview.Settled := by
  simp only [startPreview]
  split
  · exact h
  · rename_i hp
    have hp : s.control.previewActive = false := Bool.eq_false_iff.mpr hp
    refine settled_syncModes ?_
    split
    · rename_i hs
      exact settled_setActive_preview h hs true
    · rename_i hs
      have hs : s.control.streamActive = false := Bool.eq_false_iff.mpr hs
      have hrest : (s.setActive .preview true).custody.Resting := by
        rw [custody_setActive]
        exact h.resting (by simp [Control.activeMode, hp, hs])
      obtain ⟨j, hj⟩ := serving_activate hrest .preview
      refine settled_of_serving (m := .preview) (i := j) (by simpa using hj) ?_
      simp [control_setActive_preview, Control.activeMode, hs]

theorem settled_stopPreview (h : s.Settled) : s.stopPreview.Settled := by
  simp only [stopPreview]
  split
  · rename_i hp
    have hp : s.control.previewActive = true := hp
    refine settled_syncModes ?_
    split
    · rename_i hs
      exact settled_setActive_preview h hs false
    · rename_i hs
      have hs : s.control.streamActive = false := Bool.eq_false_iff.mpr hs
      obtain ⟨i, hi⟩ := h.serving (m := .preview) (by simp [Control.activeMode, hp, hs])
      rw [← custody_setActive .preview false, ← custody_stopLoop] at hi
      refine settled_of_resting (resting_release hi) ?_
      simp [control_setActive_preview, Control.activeMode, hs]
  · exact h

theorem settled_startStream (h : s.Settled) : s.startStream.Settled := by
  let t := { s with liveStream := s.stream.geometry }
  simp only [startStream]
  split
  · exact h
  · rename_i hs
    have hs : s.control.streamActive = false := Bool.eq_false_iff.mpr hs
    refine settled_syncModes ?_
    split
    · rename_i hp
      have hp : s.control.previewActive = true := hp
      obtain ⟨i, hi⟩ := h.serving (m := .preview) (by simp [Control.activeMode, hp, hs])
      let u := t.stopLoop.setActive .stream true
      have hcustody : u.custody = s.custody := by
        simp only [u, custody_setActive, custody_stopLoop]
        rfl
      have hcontrol : u.control = { t.control with streamActive := true } := by
        simp [u, control_setActive_stream]
      rw [← hcustody] at hi
      have hu : u.custody.Serving u.control i (s.control.openGeometry .preview) :=
        hi.of_selection (by rw [hcontrol]; rfl)
      have hmode : u.control.activeMode = some .stream := by simp [hcontrol, Control.activeMode]
      split
      · -- The preview holds the device open at the very geometry of the stream.
        rename_i hsame
        have hgeometry : s.control.openGeometry .preview = u.control.openGeometry .stream :=
          Option.some.inj (hu.opened.symm.trans hsame)
        rw [hgeometry] at hu
        exact settled_setSettings (settled_of_serving hu hmode) _ _
      · obtain ⟨j, hj⟩ := serving_reopen hu rfl .stream
        refine settled_of_serving (m := .stream) (i := j) ?_ ?_
        · simpa using hj
        · simpa using hmode
    · rename_i hp
      have hp : s.control.previewActive = false := Bool.eq_false_iff.mpr hp
      have hrest : (t.setActive .stream true).custody.Resting := by
        rw [custody_setActive]
        exact h.resting (by simp [Control.activeMode, hp, hs])
      obtain ⟨j, hj⟩ := serving_activate hrest .stream
      refine settled_of_serving (m := .stream) (i := j) (by simpa using hj) ?_
      simp [control_setActive_stream, Control.activeMode]

theorem settled_stopStream (h : s.Settled) : s.stopStream.Settled := by
  simp only [stopStream]
  split
  · rename_i hs
    have hs : s.control.streamActive = true := hs
    obtain ⟨i, hi⟩ := h.serving (m := .stream) (by simp [Control.activeMode, hs])
    let u := s.setActive .stream false
    have hcontrol : u.control = { s.control with streamActive := false } := rfl
    rw [← custody_setActive .stream false] at hi
    have hu : u.custody.Serving u.control i (s.control.openGeometry .stream) :=
      hi.of_selection rfl
    refine settled_syncModes ?_
    split
    · rename_i hp
      have hp : s.control.previewActive = true := hp
      have hmode : u.control.activeMode = some .preview := by
        simp [hcontrol, Control.activeMode, hp]
      refine settled_startLoop ?_
      split
      · rename_i hsame
        have hgeometry : s.control.openGeometry .stream = u.control.openGeometry .preview :=
          Option.some.inj (hu.opened.symm.trans hsame)
        rw [hgeometry] at hu
        exact settled_setSettings (settled_of_serving hu hmode) _ _
      · obtain ⟨j, hj⟩ := serving_reopen hu rfl .preview
        refine settled_of_serving (m := .preview) (i := j) ?_ ?_
        · simpa using hj
        · simpa using hmode
    · rename_i hp
      have hp : s.control.previewActive = false := Bool.eq_false_iff.mpr hp
      refine settled_of_resting (resting_release hu) ?_
      simp [control_setActive_stream, Control.activeMode, hp]
  · exact h

theorem settled_shutDown (h : s.Settled) : s.shutDown.Settled := by
  let t := (s.stopLoop.setActive .preview false).setActive .stream false
  have hcustody : t.custody = s.custody := by simp [t]
  have hrest : t.release.custody.Resting := by
    cases hm : s.control.activeMode with
    | none =>
      apply resting_release_of_resting
      rw [hcustody]
      exact h.resting hm
    | some m =>
      obtain ⟨i, hi⟩ := h.serving hm
      rw [← hcustody] at hi
      exact resting_release hi
  refine settled_of_resting hrest ?_
  rw [control_shutDown]
  rfl

/-! ## Devices and backends that come and go -/

theorem settled_addDevice (h : s.Settled) (device : Descriptor) : (s.addDevice device).Settled := by
  simp only [addDevice]
  refine settled_raise ?_ _
  split
  · rename_i hcond
    obtain ⟨⟨hd, hactive⟩, -⟩ : (device = s.desired ∧ s.anyActive = true) ∧ _ := by
      simpa only [Bool.and_eq_true, decide_eq_true_eq] using hcond
    obtain ⟨i, g, hi⟩ := h.exists_serving hactive
    exact settled_swap hi hactive (.inl hd)
  · exact h

theorem settled_removeDevice (h : s.Settled) (device : Descriptor) :
    (s.removeDevice device).Settled := by
  simp only [removeDevice]
  refine settled_raise ?_ _
  split
  · rename_i hcond
    obtain ⟨hopen, -⟩ : s.isOpen = true ∧ _ := by
      simpa only [Bool.and_eq_true, decide_eq_true_eq] using hcond
    cases hactive : s.anyActive with
    | false => simp [isOpen, (h.idle hactive).1] at hopen
    | true =>
      obtain ⟨i, g, hi⟩ := h.exists_serving hactive
      exact settled_swap hi hactive (.inr rfl)
  · exact h

theorem settled_enumerate (h : s.Settled) (count i : Nat) : (s.enumerate count i).2.Settled := by
  obtain ⟨hsound, htalked, hselection⟩ := sound_enumerate count i h.sound
  cases hm : s.control.activeMode with
  | none =>
    refine settled_of_resting ((h.resting hm).of_talked hsound htalked) ?_
    rw [control_enumerate]
    exact hm
  | some m =>
    obtain ⟨j, hj⟩ := h.serving hm
    refine settled_of_serving (m := m) (i := j) ?_ ?_
    · rw [control_enumerate]
      exact hj.of_talked hsound htalked hselection
    · rw [control_enumerate]
      exact hm

/-- Every operation leaves the device side in the phase that the callers' side asks for. -/
theorem settled_operate (h : s.Settled) (op : Operation β) : (s.operate op).2.Settled := by
  cases op with
  | setDevice device channel format => exact settled_setDevice h device channel format
  | setPreview g => exact settled_setPreview h g
  | setStream g => exact settled_setStream h g
  | startPreview => exact settled_startPreview h
  | stopPreview => exact settled_stopPreview h
  | startStream => exact settled_startStream h
  | stopStream => exact settled_stopStream h
  | frame => exact settled_readActive h
  | pull => exact settled_pull h
  | adjust kind value =>
    refine h.of_control rfl rfl rfl ?_
    intro m _
    cases m <;> rfl
  | addDevice framework name capabilities =>
    exact List.foldlRecOn (motive := Settled) _ _ h fun t ht device _ => settled_addDevice ht device
  | removeDevice framework name capabilities =>
    exact List.foldlRecOn (motive := Settled) _ _ h
      fun t ht device _ => settled_removeDevice ht device
  | addBackend b => exact settled_register h (.device b) _
  | enumerate => exact settled_enumerate h _ 0
  | mode => exact h
  | shutDown => exact settled_shutDown h

end CaptureState

end VideoCapture
