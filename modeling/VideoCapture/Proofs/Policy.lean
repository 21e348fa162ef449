import VideoCapture.Proofs.Resolution
import VideoCapture.Proofs.Turns
import VideoCapture.Proofs.Run

/-!
# One policy for every opening

A consumer that becomes active, and one that is moved to another device, gets what is chosen anew: the
first backend that accepts the device, if it opens, and the synthetic device otherwise. Where only the
geometry or the consumer changes, the open device is closed and opened anew without any choice, and the
synthetic device stands in only if that fails. If the device is open at the right geometry already, it
is left alone.

## Main definitions

* `Trace.Renews` — the calls by which the open device is opened anew.
* `Operation.start` — the operation by which a consumer becomes active.
* `CaptureState.Reopening` — the operations that open the device anew, with the geometry.
* `CaptureState.Obtained` — what was obtained by some calls.

The main statement is `ControllerBuilder.one_resolution_policy`.
-/

namespace VideoCapture

/-- The calls by which the device that the backend at position `i` serves is closed and opened anew at
`g`, with the position of the backend that is open afterwards and the device that it serves. -/
inductive Trace.Renews (channel : UInt32) (format : VideoFormat) (g : Geometry) (i : Nat)
    (device : Descriptor) : Trace → Nat → Descriptor → Prop
  /-- The device opens again. -/
  | kept (settings : AdjustmentSet) :
    Renews channel format g i device [(i, .close), (i, .openAt g (some settings))] i device
  /-- The device does not open again. -/
  | lost :
    Renews channel format g i device
      ([(i, .close), (i, .openAt g none)] ++ fallingBack channel format g) 0 Descriptor.fallback

/-- The operation by which a consumer becomes active. -/
def Operation.start {β : Type} : Mode → Operation β
  | .preview => startPreview
  | .stream => startStream

namespace CaptureState

variable {β : Type} {s t u v : CaptureState β} {m : Mode}

/-- The operations that may open the device anew without choosing one, with the geometry that they
open it at. -/
inductive Reopening (s : CaptureState β) : Operation β → Geometry → Prop
  /-- The preview gets another geometry. -/
  | setPreview (alone : s.previewOnly = true) (g : Geometry) : Reopening s (.setPreview g) g
  /-- The stream takes the device over from the preview. -/
  | startStream (alone : s.previewOnly = true) : Reopening s .startStream s.stream.geometry
  /-- The stream gives the device back to the preview. -/
  | stopStream (preview : s.preview.active = true) (stream : s.stream.active = true) :
    Reopening s .stopStream s.preview.geometry

/-- From `s` to `t` the device was opened anew at `g`, unless it was open at `g` already. -/
structure Reopened (s t : CaptureState β) (g : Geometry) : Prop where
  left : s.opened = some g → t.custody = s.custody
  renewed : s.opened ≠ some g → ∃ i calls j chosen, s.manager = some i ∧
    Trace.Renews s.channel s.format g i s.current calls j chosen ∧
    s.custody.Moved t.custody calls j chosen

/-- By these calls the consumer that decides obtained a device that the backend at position `i` serves
and that is open at `g`. -/
structure Obtained (s t : CaptureState β) (calls : Trace) (g : Geometry) (i : Nat)
    (device : Descriptor) : Prop where
  trace : t.trace = s.trace ++ calls
  manager : t.manager = some i
  current : t.current = device
  opened : t.opened = some g
  exclusive : ∀ j, t.trace.isOpen j = true ↔ j = i

theorem obtained_of_moved {calls : Trace} {i : Nat} {device : Descriptor} (ht : t.Settled)
    (hm : t.control.activeMode = some m) (h : s.custody.Moved t.custody calls i device) :
    s.Obtained t calls (t.control.openGeometry m) i device := by
  obtain ⟨j, hj⟩ := ht.serving hm
  obtain rfl : j = i := Option.some.inj (hj.manager.symm.trans h.manager)
  exact ⟨h.trace, h.manager, h.current, hj.opened,
    hj.toSound.isOpen_iff_of_opened hj.manager hj.opened⟩

variable [Backend β]

/-! ## Becoming active -/

/-- While nothing is chosen, the desired device is chosen and opened for a consumer. -/
theorem resolves_activate (h : s.custody.Resting) (m : Mode) :
    ∃ calls i chosen, s.Resolves s.desired m calls i chosen ∧
      s.custody.Moved (s.selectDesiredIfNeeded.openFor m).custody calls i chosen := by
  have hnone : s.manager = none := h.unmanaged
  have hselect : s.selectDesiredIfNeeded = s.select s.desired := by
    simp [selectDesiredIfNeeded, hnone]
  rw [hselect]
  exact resolves_openFor h.toSound h.closed (.inl rfl) m

theorem resolves_start (h : s.Settled) (hidle : s.anyActive = false) (m : Mode) :
    ∃ calls i chosen,
      Trace.Resolves s.desired s.channel s.format (s.mode m).geometry s.backends.length calls i
        chosen ∧
      s.custody.Moved (s.operate (.start m)).2.custody calls i chosen := by
  have hrest := h.resting (activeMode_eq_none_iff.mpr hidle)
  obtain ⟨hp, hs⟩ : s.preview.active = false ∧ s.stream.active = false := by
    simpa [anyActive] using hidle
  cases m with
  | preview =>
    let u := s.setActive .preview true
    have hcustody : u.custody = s.custody := custody_setActive .preview true s
    have hstarted : s.startPreview.custody = (u.selectDesiredIfNeeded.openFor .preview).custody := by
      have hstream : u.stream.active = false := hs
      simp [startPreview, hp, u, hstream]
    obtain ⟨calls, i, chosen, hcalls, hmoved⟩ := resolves_activate (hcustody ▸ hrest) .preview
    rw [hcustody, ← hstarted] at hmoved
    exact ⟨calls, i, chosen, hcalls, hmoved⟩
  | stream =>
    let u := { s with liveStream := s.stream.geometry }.setActive .stream true
    have hcustody : u.custody = s.custody := custody_setActive .stream true _
    have hstarted : s.startStream.custody = (u.selectDesiredIfNeeded.openFor .stream).custody := by
      simp [startStream, hp, hs, u]
    obtain ⟨calls, i, chosen, hcalls, hmoved⟩ := resolves_activate (hcustody ▸ hrest) .stream
    rw [hcustody, ← hstarted] at hmoved
    exact ⟨calls, i, chosen, hcalls, hmoved⟩

/-! ## Moving to another device -/

theorem resolves_setDevice (h : s.Settled) (hm : s.activeMode = some m) (device : Descriptor)
    (channel : UInt32) (format : VideoFormat) :
    ∃ i calls j chosen, s.manager = some i ∧
      Trace.Resolves device channel format (s.openGeometry m) s.backends.length calls j chosen ∧
      s.custody.Moved (s.setDevice device channel format).custody ((i, .close) :: calls) j
        chosen := by
  let t : CaptureState β := { s with desired := device, channel := channel, format := format }
  have hactive : t.anyActive = true := exists_activeMode_iff.mp ⟨m, hm⟩
  have hswap : s.setDevice device channel format = t.swap device := if_pos hactive
  obtain ⟨i, hi⟩ := h.serving hm
  obtain ⟨calls, j, chosen, hcalls, hmoved⟩ := resolves_swap (s := t) hi hm (.inl rfl)
  rw [hswap]
  refine ⟨i, calls, j, chosen, hi.manager, ?_, hmoved⟩
  cases m <;> exact hcalls

/-! ## Opening anew -/

/-- The device is closed, with the preview loop out of the way. It opens again, or the synthetic one
opens in its place. -/
theorem renews_openFor {k : Control} {i : Nat} {g : Geometry} (h : s.custody.Serving k i g)
    (hv : v.custody = s.custody) (hu : u.custody = v.close.custody)
    (hselection : u.control.selection = s.control.selection) (m : Mode) :
    ∃ calls j chosen,
      Trace.Renews s.channel s.format (u.openGeometry m) i s.current calls j chosen ∧
      s.custody.Moved (u.openFor m).custody calls j chosen := by
  rw [← hv] at h
  obtain ⟨r, hr⟩ := h.exists_backend h.manager
  have hclosed : u.custody.Ready k i := hu ▸ ready_close h
  have hcustody := hu.trans (close_of_opened hr h.manager h.opened)
  rw [hv] at hcustody
  have htrace : u.trace = s.trace ++ [(i, .close)] := congrArg Custody.trace hcustody
  have hlength : u.backends.length = s.backends.length :=
    (congrArg (fun c => c.backends.length) hcustody).trans List.length_set
  have hcurrent : u.current = s.current := congrArg Custody.current hcustody
  obtain ⟨-, hchannel, hformat⟩ : u.desired = s.desired ∧ u.channel = s.channel ∧
      u.format = s.format := by simpa [Control.selection, control] using hselection
  rcases moved_openFor hclosed m with ⟨settings, hopened⟩ | hfailed
  · rw [hcurrent] at hopened
    exact ⟨_, _, _, .kept settings, hopened.cons htrace hlength⟩
  · rw [fallingBack, hchannel, hformat] at hfailed
    exact ⟨_, _, _, .lost, hfailed.cons htrace hlength⟩

/-- What is left alone at the right geometry, and otherwise closed and opened, is opened anew. -/
theorem reopened_of_custody {k : Control} {i : Nat} {g g' : Geometry}
    (hi : s.custody.Serving k i g') (hv : v.custody = s.custody)
    (hu : u.custody = v.close.custody) (hselection : u.control.selection = s.control.selection)
    (hg : u.openGeometry m = g)
    (ht : t.custody = if s.opened = some g then s.custody else (u.openFor m).custody) :
    s.Reopened t g where
  left hsame := ht.trans (if_pos hsame)
  renewed hother := by
    rw [if_neg hother] at ht
    obtain ⟨calls, j, chosen, hcalls, hmoved⟩ := renews_openFor hi hv hu hselection m
    rw [hg] at hcalls
    rw [← ht] at hmoved
    exact ⟨i, calls, j, chosen, hi.manager, hcalls, hmoved⟩

/-- The preview gets another geometry while it has the device to itself. -/
theorem reopened_setPreview (h : s.Settled) (hp : s.previewOnly = true) (g : Geometry) :
    s.Reopened (s.setPreview g) g := by
  obtain ⟨i, hi⟩ := h.serving (previewOnly_iff.mp hp)
  have hopened : s.opened = some s.preview.geometry := hi.opened
  let u := s.stopLoop.close.setGeometry .preview g
  have hselection : u.control.selection = s.control.selection := by
    simp [u, control_setGeometry_preview, Control.selection]
  refine reopened_of_custody (u := u) (m := .preview) hi (custody_stopLoop s)
    (custody_setGeometry .preview g s.stopLoop.close) hselection rfl ?_
  by_cases hg : s.preview.geometry = g
  · have hset : s.setPreview g = s.setGeometry .preview g := by simp [setPreview, hp, hg]
    rw [hset, hopened, hg, if_pos rfl]
    exact custody_setGeometry .preview g s
  · have hset : s.setPreview g = (u.openFor .preview).startLoop := by simp [setPreview, hp, hg, u]
    rw [hset, hopened, if_neg fun hsame => hg (Option.some.inj hsame), custody_startLoop]

/-- The stream takes the device over from the preview. -/
theorem reopened_startStream (h : s.Settled) (hp : s.previewOnly = true) :
    s.Reopened s.startStream s.stream.geometry := by
  obtain ⟨i, hi⟩ := h.serving (previewOnly_iff.mp hp)
  obtain ⟨hpreview, hstream⟩ : s.preview.active = true ∧ s.stream.active = false :=
    previewOnly_eq_true_iff.mp hp
  let t : CaptureState β := { s with liveStream := s.stream.geometry }
  let v := t.stopLoop.setActive .stream true
  have hcustody : v.custody = s.custody := by
    simp only [v, custody_setActive, custody_stopLoop]
    rfl
  have hcontrol : v.control = { t.control with streamActive := true } := by
    simp [v, control_setActive_stream]
  have hlive : v.liveStream = s.stream.geometry := congrArg Control.liveStream hcontrol
  have hopened : v.opened = s.opened := congrArg Custody.opened hcustody
  refine reopened_of_custody (u := v.close) (m := .stream) hi hcustody rfl
    (by rw [control_close, hcontrol]; rfl)
    ((openGeometry_congr (control_close v) .stream).trans hlive) ?_
  have hstarted : s.startStream =
      (if s.opened = some s.stream.geometry then v.setSettings .stream v.preview.settings
      else v.close.openFor .stream).syncModes := by
    rw [← hopened, ← hlive]
    simp [startStream, hpreview, hstream, v, t]
  rw [hstarted, custody_syncModes]
  split
  · exact (custody_setSettings _ _ v).trans hcustody
  · rfl

/-- The stream gives the device back to the preview. -/
theorem reopened_stopStream (h : s.Settled) (hp : s.preview.active = true)
    (hs : s.stream.active = true) : s.Reopened s.stopStream s.preview.geometry := by
  have hm : s.control.activeMode = some .stream := if_pos hs
  obtain ⟨i, hi⟩ := h.serving hm
  let v := s.setActive .stream false
  have hcustody : v.custody = s.custody := custody_setActive .stream false s
  have hpreview : v.preview = s.preview := rfl
  have hopened : v.opened = s.opened := congrArg Custody.opened hcustody
  refine reopened_of_custody (u := v.close) (m := .preview) hi hcustody rfl
    (by rw [control_close]; rfl) (openGeometry_congr (control_close v) .preview) ?_
  have hstopped : s.stopStream =
      (if s.opened = some s.preview.geometry then v.setSettings .preview v.stream.settings
      else v.close.openFor .preview).startLoop.syncModes := by
    rw [← hopened, ← hpreview]
    simp [stopStream, hs, v, hpreview, hp]
  rw [hstopped, custody_syncModes, custody_startLoop]
  split
  · exact (custody_setSettings _ _ v).trans hcustody
  · rfl

/-- A device that is open at the right geometry already is left alone. Any other is opened anew. -/
theorem Reopening.reopened {op : Operation β} {g : Geometry} (hop : s.Reopening op g)
    (h : s.Settled) : s.Reopened (s.operate op).2 g := by
  cases hop with
  | setPreview hp g => exact reopened_setPreview h hp g
  | startStream hp => exact reopened_startStream h hp
  | stopStream hp hs => exact reopened_stopStream h hp hs

/-- Afterwards the consumer that decides is the one that the geometry was meant for. -/
theorem Reopening.exists_mode {op : Operation β} {g : Geometry} (hop : s.Reopening op g) :
    ∃ m, (s.operate op).2.control.activeMode = some m ∧
      (s.operate op).2.control.openGeometry m = g := by
  rw [control_operate]
  cases hop with
  | setPreview hp g => exact ⟨.preview, previewOnly_iff.mp hp, rfl⟩
  | startStream hp =>
    have hs : s.control.streamActive = false := (previewOnly_eq_true_iff.mp hp).2
    refine ⟨.stream, ?_⟩
    simp [Control.after, hs, Control.sync, Control.activeMode, Control.openGeometry]
    rfl
  | stopStream hp hs =>
    have hp : s.control.previewActive = true := hp
    have hs : s.control.streamActive = true := hs
    refine ⟨.preview, ?_⟩
    simp [Control.after, hs, hp, Control.sync, Control.activeMode, Control.openGeometry]
    rfl

theorem mode_start (hidle : s.anyActive = false) (m : Mode) :
    (s.operate (.start m)).2.control.activeMode = some m ∧
      (s.operate (.start m)).2.control.openGeometry m = (s.mode m).geometry := by
  obtain ⟨hp, hs⟩ := (Control.activeMode_eq_none_iff _).mp (activeMode_eq_none_iff.mpr hidle)
  rw [control_operate]
  cases m <;>
    simp [Operation.start, Control.after, hp, hs, Control.sync, Control.activeMode,
      Control.openGeometry] <;> rfl

end CaptureState

namespace ControllerBuilder

variable {β : Type} [Backend β]

/-- A consumer that becomes active while nobody is, and one that is moved to another device, gets a
device that is chosen anew: it is offered to the backends in order of registration up to the first that
accepts it, and is opened at the geometry of the consumer. If nobody accepts it or it does not open,
the synthetic device is chosen and opened at the same geometry, and nobody else is tried.

Where only the geometry or the consumer changes, nothing is chosen: the open device is closed and
opened anew at the geometry that holds from now on, and the synthetic one is opened there if that
fails. A device that is open at this geometry already is left alone. -/
theorem one_resolution_policy (builder : ControllerBuilder β) (steps : List (Step β)) :
    let s := builder.start.run steps
    (s.anyActive = false → ∀ m : Mode, ∃ calls i chosen,
        Trace.Resolves s.desired s.channel s.format (s.mode m).geometry s.backends.length calls i
          chosen ∧
        s.Obtained (s.operate (.start m)).2 calls (s.mode m).geometry i chosen) ∧
      (∀ m, s.activeMode = some m → ∀ device channel format, ∃ i calls j chosen,
        s.manager = some i ∧
        Trace.Resolves device channel format (s.openGeometry m) s.backends.length calls j chosen ∧
        s.Obtained (s.operate (.setDevice device channel format)).2 ((i, .close) :: calls)
          (s.openGeometry m) j chosen) ∧
      (∀ op g, s.Reopening op g →
        (s.opened = some g → (s.operate op).2.custody = s.custody) ∧
        (s.opened ≠ some g → ∃ i calls j chosen, s.manager = some i ∧
          Trace.Renews s.channel s.format g i s.current calls j chosen ∧
          s.Obtained (s.operate op).2 calls g j chosen)) := by
  intro s
  have hs : s.Settled := builder.settled_run steps
  refine ⟨fun hidle m => ?_, fun m hm device channel format => ?_, fun op g hop => ⟨?_, ?_⟩⟩
  · obtain ⟨calls, i, chosen, hcalls, hmoved⟩ := CaptureState.resolves_start hs hidle m
    obtain ⟨hmode, hgeometry⟩ := CaptureState.mode_start hidle m
    have hsettled := CaptureState.settled_operate hs (.start m)
    have hobtained := CaptureState.obtained_of_moved hsettled hmode hmoved
    rw [hgeometry] at hobtained
    exact ⟨calls, i, chosen, hcalls, hobtained⟩
  · obtain ⟨i, calls, j, chosen, hi, hcalls, hmoved⟩ :=
      CaptureState.resolves_setDevice hs hm device channel format
    have hcontrol := CaptureState.control_setDevice device channel format s
    have hsettled := CaptureState.settled_setDevice hs device channel format
    have hmode : (s.setDevice device channel format).control.activeMode = some m := by
      rw [hcontrol]
      exact hm
    have hgeometry : (s.setDevice device channel format).control.openGeometry m =
        s.openGeometry m := by
      rw [hcontrol]
      cases m <;> rfl
    have hobtained := CaptureState.obtained_of_moved hsettled hmode hmoved
    rw [hgeometry] at hobtained
    exact ⟨i, calls, j, chosen, hi, hcalls, hobtained⟩
  · exact (hop.reopened hs).left
  · intro hother
    obtain ⟨i, calls, j, chosen, hi, hcalls, hmoved⟩ := (hop.reopened hs).renewed hother
    obtain ⟨m, hmode, rfl⟩ := hop.exists_mode
    have hsettled := CaptureState.settled_operate hs op
    exact ⟨i, calls, j, chosen, hi, hcalls, CaptureState.obtained_of_moved hsettled hmode hmoved⟩

end ControllerBuilder

end VideoCapture
