import VideoCapture.Controller.Operation
import Mathlib.Tactic.Common

/-!
# The callers' side of the controller

What the callers asked for is a part of the state that no backend can touch: whatever backends answer,
an operation changes this part by a rule that knows nothing of them.

## Main definitions

* `Control` — the callers' side of the state.
* `Control.after` — the rule of each operation.

The main statement is `CaptureState.control_operate`: an operation acts on the callers' side by its
rule alone.
-/

namespace VideoCapture

/-- What the callers of a controller asked for, as far as it still matters. -/
structure Control where
  desired : Descriptor
  channel : UInt32
  format : VideoFormat
  previewActive : Bool
  previewGeometry : Geometry
  streamActive : Bool
  streamGeometry : Geometry
  /-- The stream geometry at the latest start of a stream. -/
  liveStream : Geometry
  requests : Requests
  deriving DecidableEq

namespace Control

/-- Before anything was asked for. -/
def initial (preview stream : Geometry) : Control :=
  ⟨Descriptor.fallback, 0, .auto, false, preview, false, stream, stream, Requests.empty⟩

/-- What the latest `setDevice` recorded. -/
def selection (c : Control) : Descriptor × UInt32 × VideoFormat := (c.desired, c.channel, c.format)

/-- Copies who is active to the adjustment requests. -/
def sync (c : Control) : Control :=
  { c with
    requests := { c.requests with previewActive := c.previewActive, streamActive := c.streamActive } }

/-- The consumer that decides how the device is opened. -/
def activeMode (c : Control) : Option Mode :=
  if c.streamActive then some .stream
  else if c.previewActive then some .preview
  else none

/-- The geometry at which a consumer opens the device. -/
def openGeometry (c : Control) : Mode → Geometry
  | .preview => c.previewGeometry
  | .stream => c.liveStream

/-- What is asked for after one more operation. -/
def after {β : Type} (c : Control) : Operation β → Control
  | .setDevice device channel format =>
    { c with desired := device, channel := channel, format := format }
  | .setPreview g => { c with previewGeometry := g }
  | .setStream g => { c with streamGeometry := g }
  | .startPreview => if c.previewActive then c else { c with previewActive := true }.sync
  | .stopPreview => if c.previewActive then { c with previewActive := false }.sync else c
  | .startStream =>
    if c.streamActive then c
    else { c with streamActive := true, liveStream := c.streamGeometry }.sync
  | .stopStream => if c.streamActive then { c with streamActive := false }.sync else c
  | .adjust kind value => { c with requests := c.requests.request kind value }
  | .shutDown => { c with previewActive := false, streamActive := false }.sync
  | .frame | .pull | .addDevice .. | .removeDevice .. | .addBackend _ | .enumerate | .mode => c

theorem activeMode_eq_none_iff (c : Control) :
    c.activeMode = none ↔ c.previewActive = false ∧ c.streamActive = false := by
  cases hp : c.previewActive <;> cases hs : c.streamActive <;> simp [activeMode, hp, hs]

end Control

namespace CaptureState

variable {β : Type}

/-- The callers' side of the state. -/
def control (s : CaptureState β) : Control :=
  ⟨s.desired, s.channel, s.format, s.preview.active, s.preview.geometry, s.stream.active,
    s.stream.geometry, s.liveStream, s.requests⟩

/-! ## Looking at the callers' side -/

theorem activeMode_eq (s : CaptureState β) : s.activeMode = s.control.activeMode := rfl

theorem openGeometry_eq (s : CaptureState β) (m : Mode) :
    s.openGeometry m = s.control.openGeometry m := by
  cases m <;> rfl

theorem previewOnly_eq (s : CaptureState β) :
    s.previewOnly = (s.control.previewActive && !s.control.streamActive) := rfl

theorem previewOnly_eq_true_iff {s : CaptureState β} :
    s.previewOnly = true ↔ s.control.previewActive = true ∧ s.control.streamActive = false := by
  rw [previewOnly_eq, Bool.and_eq_true, Bool.not_eq_true']

theorem anyActive_eq (s : CaptureState β) :
    s.anyActive = (s.control.previewActive || s.control.streamActive) := rfl

/-! ## Steps that leave the callers' side alone -/

@[simp] theorem control_note (e : Effect) (s : CaptureState β) : (s.note e).control = s.control := rfl

@[simp] theorem control_raise (n : Notification) (s : CaptureState β) :
    (s.raise n).control = s.control := rfl

@[simp] theorem control_setSettings (m : Mode) (settings : AdjustmentSet) (s : CaptureState β) :
    (s.setSettings m settings).control = s.control := by
  cases m <;> rfl

@[simp] theorem control_startLoop (s : CaptureState β) : s.startLoop.control = s.control := by
  unfold startLoop
  split <;> rfl

@[simp] theorem control_stopLoop (s : CaptureState β) : s.stopLoop.control = s.control := by
  unfold stopLoop
  split <;> rfl

@[simp] theorem control_register (b : Source β) (framework : String) (s : CaptureState β) :
    (s.register b framework).control = s.control := rfl

/-! ## Steps that change it -/

theorem control_setActive_preview (active : Bool) (s : CaptureState β) :
    (s.setActive .preview active).control = { s.control with previewActive := active } := rfl

theorem control_setActive_stream (active : Bool) (s : CaptureState β) :
    (s.setActive .stream active).control = { s.control with streamActive := active } := rfl

theorem control_syncModes (s : CaptureState β) : s.syncModes.control = s.control.sync := rfl

theorem control_setGeometry_preview (g : Geometry) (s : CaptureState β) :
    (s.setGeometry .preview g).control = { s.control with previewGeometry := g } := rfl

/-! ## Talking to backends leaves it alone -/

/-- Raising notifications one by one puts them behind the others. -/
theorem raiseAll_eq (ns : List Notification) (s : CaptureState β) :
    s.raiseAll ns = { s with outbox := s.outbox ++ ns, log := s.log ++ ns.map Effect.raised } := by
  induction ns generalizing s with
  | nil => simp [raiseAll]
  | cons n rest ih =>
    have hcons : s.raiseAll (n :: rest) = (s.raise n).raiseAll rest := rfl
    rw [hcons, ih]
    simp [raise, note]

@[simp] theorem control_call {α : Type} (i : Nat) (act : Source β → Reply (Source β) α)
    (describe : α → Call) (s : CaptureState β) :
    (s.call i act describe).2.control = s.control := by
  unfold call
  split
  · rfl
  · simp only [raiseAll_eq]
    rfl

/-- Steps that leave the callers' side alone may be repeated. -/
theorem control_foldl {α : Type} {f : CaptureState β → α → CaptureState β}
    (h : ∀ s a, (f s a).control = s.control) (l : List α) (s : CaptureState β) :
    (l.foldl f s).control = s.control := by
  induction l generalizing s with
  | nil => rfl
  | cons a rest ih => rw [List.foldl_cons, ih, h]

section Calls

variable [Backend β]

/-! ## Case distinctions of the definitions -/

theorem offer_succ (device : Descriptor) (count i : Nat) (s : CaptureState β) :
    s.offer device (count + 1) i =
      let reply := s.call i (Backend.select device s.channel s.format)
        (Call.setDevice device s.channel s.format)
      if reply.1 = some true then (some i, reply.2) else reply.2.offer device count (i + 1) := by
  rw [offer]
  split <;> grind

theorem trySelect_eq (device : Descriptor) (s : CaptureState β) :
    s.trySelect device =
      let asked := { s with manager := none }.offer device s.backends.length 0
      match asked.1 with
      | some i => (true, { asked.2 with manager := some i, current := device })
      | none => (false, asked.2) := by
  simp only [trySelect]
  split <;> grind

theorem select_eq (device : Descriptor) (s : CaptureState β) :
    s.select device =
      if (s.trySelect device).1 then (s.trySelect device).2
      else (s.trySelect device).2.selectFallback := by
  simp only [select]
  split <;> grind

theorem tryOpen_of_manager {i : Nat} {s : CaptureState β} (h : s.manager = some i) (m : Mode) :
    s.tryOpen m =
      let reply := s.call i (Backend.openAt (s.openGeometry m))
        (fun r => Call.openAt (s.openGeometry m) r.toOption)
      match reply.1 with
      | some (.ok settings) =>
        (true, { reply.2 with opened := some (s.openGeometry m) }.setSettings m settings)
      | _ => (false, reply.2) := by
  simp only [tryOpen, h]
  split <;> grind

/-- An opening changes no backend but by the call itself. -/
theorem backends_tryOpen {i : Nat} {s : CaptureState β} (h : s.manager = some i) (m : Mode) :
    (s.tryOpen m).2.backends = (s.call i (Backend.openAt (s.openGeometry m))
      (fun r => Call.openAt (s.openGeometry m) r.toOption)).2.backends := by
  rw [tryOpen_of_manager h]
  dsimp only
  split
  · cases m <;> rfl
  · rfl

theorem openFor_eq (m : Mode) (s : CaptureState β) :
    s.openFor m =
      if (s.tryOpen m).1 then (s.tryOpen m).2 else ((s.tryOpen m).2.selectFallback.tryOpen m).2 := by
  simp only [openFor]
  split <;> grind

theorem read_of_opened {i : Nat} {g : Geometry} {s : CaptureState β} (hm : s.manager = some i)
    (ho : s.opened = some g) :
    s.read =
      let reply := s.call i Backend.read (fun r => Call.read r.toOption)
      (reply.1.bind Except.toOption, reply.2) := by
  simp only [read, hm, ho]
  generalize s.call i Backend.read (fun r => Call.read r.toOption) = reply
  obtain ⟨_ | _ | _, t⟩ := reply <;> rfl

theorem read_of_closed {s : CaptureState β} (h : s.manager = none ∨ s.opened = none) :
    s.read = (none, s) := by
  rcases h with h | h <;> simp [read, h]

theorem readFallback_eq (m : Mode) (s : CaptureState β) :
    s.readFallback m =
      let last := (s.close.selectFallback.openFor m).read
      (last.1.getD (Frame.blank (last.2.openGeometry m)), last.2) := by
  simp only [readFallback]
  split <;> grind

theorem readActive_of_activeMode {m : Mode} {s : CaptureState β} (h : s.activeMode = some m) :
    s.readActive =
      match s.read.1 with
      | some frame => (some frame, s.read.2.flushAdjustments)
      | none =>
        (some (s.read.2.readFallback m).1, (s.read.2.readFallback m).2.flushAdjustments) := by
  simp only [readActive, h]
  split <;> grind

theorem readActive_of_idle {s : CaptureState β} (h : s.activeMode = none) :
    s.readActive = (none, s) := by
  simp [readActive, h]

@[simp] theorem control_offer (device : Descriptor) (count i : Nat) (s : CaptureState β) :
    (s.offer device count i).2.control = s.control := by
  induction count generalizing i s with
  | zero => rfl
  | succ count ih =>
    rw [offer_succ]
    dsimp only
    split <;> simp [ih]

@[simp] theorem control_trySelect (device : Descriptor) (s : CaptureState β) :
    (s.trySelect device).2.control = s.control := by
  have hasked : ({ s with manager := none }.offer device s.backends.length 0).2.control =
      s.control := control_offer device s.backends.length 0 _
  rw [trySelect_eq]
  dsimp only
  split <;> exact hasked

@[simp] theorem control_selectFallback (s : CaptureState β) :
    s.selectFallback.control = s.control :=
  control_trySelect Descriptor.fallback s

@[simp] theorem control_select (device : Descriptor) (s : CaptureState β) :
    (s.select device).control = s.control := by
  rw [select_eq]
  split <;> simp

@[simp] theorem control_selectDesiredIfNeeded (s : CaptureState β) :
    s.selectDesiredIfNeeded.control = s.control := by
  unfold selectDesiredIfNeeded
  split <;> simp

@[simp] theorem control_tryOpen (m : Mode) (s : CaptureState β) :
    (s.tryOpen m).2.control = s.control := by
  cases h : s.manager with
  | none => simp [tryOpen, h]
  | some i =>
    rw [tryOpen_of_manager h]
    dsimp only
    split
    · rw [control_setSettings]
      exact control_call _ _ _ s
    · exact control_call _ _ _ s

@[simp] theorem control_openFor (m : Mode) (s : CaptureState β) :
    (s.openFor m).control = s.control := by
  rw [openFor_eq]
  split <;> simp

@[simp] theorem control_close (s : CaptureState β) : s.close.control = s.control := by
  unfold close
  split
  · exact control_call _ _ _ _
  · rfl

@[simp] theorem control_release (s : CaptureState β) : s.release.control = s.control :=
  control_close s

@[simp] theorem control_read (s : CaptureState β) : s.read.2.control = s.control := by
  cases hm : s.manager with
  | none => rw [read_of_closed (.inl hm)]
  | some i =>
    cases ho : s.opened with
    | none => rw [read_of_closed (.inr ho)]
    | some g =>
      rw [read_of_opened hm ho]
      exact control_call _ _ _ s

@[simp] theorem control_applyAdjustment (i : Nat) (m : Mode) (kind : Adjustment) (value : UInt32)
    (s : CaptureState β) : (s.applyAdjustment i m kind value).control = s.control := by
  simp [applyAdjustment]

@[simp] theorem control_flushAdjustments (s : CaptureState β) :
    s.flushAdjustments.control = s.control := by
  unfold flushAdjustments
  split
  · exact control_foldl (fun t change => control_applyAdjustment _ _ _ _ t) _ s
  · rfl

@[simp] theorem control_readFallback (m : Mode) (s : CaptureState β) :
    (s.readFallback m).2.control = s.control := by
  rw [readFallback_eq]
  simp

@[simp] theorem control_readActive (s : CaptureState β) : s.readActive.2.control = s.control := by
  cases h : s.activeMode with
  | none => rw [readActive_of_idle h]
  | some m =>
    rw [readActive_of_activeMode h]
    split <;> simp

@[simp] theorem control_pull (s : CaptureState β) : s.pull.control = s.control := by
  let t := { s with loop := { s.loop with due := false } }
  have hread : t.readActive.2.control = s.control := control_readActive t
  simp only [pull]
  split
  · split <;> simp_all [t]
  · rfl

@[simp] theorem control_swap (device : Descriptor) (s : CaptureState β) :
    (s.swap device).control = s.control := by
  simp only [swap]
  split <;> split <;> split <;> simp

@[simp] theorem control_enumerate (count i : Nat) (s : CaptureState β) :
    (s.enumerate count i).2.control = s.control := by
  induction count generalizing i s with
  | zero => rfl
  | succ count ih => simp [enumerate, ih]

/-! ## What operations do to the callers' side -/

@[simp] theorem control_setDevice (device : Descriptor) (channel : UInt32) (format : VideoFormat)
    (s : CaptureState β) :
    (s.setDevice device channel format).control =
      { s.control with desired := device, channel := channel, format := format } := by
  simp only [setDevice]
  split
  · rw [control_swap]
    rfl
  · rfl

@[simp] theorem control_setPreview (g : Geometry) (s : CaptureState β) :
    (s.setPreview g).control = { s.control with previewGeometry := g } := by
  unfold setPreview
  split <;> simp [control_setGeometry_preview]

@[simp] theorem control_startPreview (s : CaptureState β) :
    s.startPreview.control =
      if s.control.previewActive then s.control
      else { s.control with previewActive := true }.sync := by
  simp only [startPreview]
  split
  · rename_i h
    rw [if_pos (show s.control.previewActive = true from h)]
  · rename_i h
    rw [if_neg (show ¬ s.control.previewActive = true from h), control_syncModes]
    split <;> simp [control_setActive_preview]

@[simp] theorem control_stopPreview (s : CaptureState β) :
    s.stopPreview.control =
      if s.control.previewActive then { s.control with previewActive := false }.sync
      else s.control := by
  simp only [stopPreview]
  split
  · rename_i h
    rw [if_pos (show s.control.previewActive = true from h), control_syncModes]
    split <;> simp [control_setActive_preview]
  · rename_i h
    rw [if_neg (show ¬ s.control.previewActive = true from h)]

@[simp] theorem control_startStream (s : CaptureState β) :
    s.startStream.control =
      if s.control.streamActive then s.control
      else { s.control with streamActive := true, liveStream := s.control.streamGeometry }.sync := by
  have hlatch : { s with liveStream := s.stream.geometry }.control =
      { s.control with liveStream := s.control.streamGeometry } := rfl
  simp only [startStream]
  split
  · rename_i h
    rw [if_pos (show s.control.streamActive = true from h)]
  · rename_i h
    rw [if_neg (show ¬ s.control.streamActive = true from h), control_syncModes]
    split
    · split <;> simp [control_setActive_stream, hlatch]
    · simp [control_setActive_stream, hlatch]

@[simp] theorem control_stopStream (s : CaptureState β) :
    s.stopStream.control =
      if s.control.streamActive then { s.control with streamActive := false }.sync
      else s.control := by
  simp only [stopStream]
  split
  · rename_i h
    rw [if_pos (show s.control.streamActive = true from h), control_syncModes]
    split
    · split <;> simp [control_setActive_stream]
    · simp [control_setActive_stream]
  · rename_i h
    rw [if_neg (show ¬ s.control.streamActive = true from h)]

@[simp] theorem control_addDevice (s : CaptureState β) (device : Descriptor) :
    (s.addDevice device).control = s.control := by
  simp only [addDevice, control_raise]
  split <;> simp

@[simp] theorem control_removeDevice (s : CaptureState β) (device : Descriptor) :
    (s.removeDevice device).control = s.control := by
  simp only [removeDevice, control_raise]
  split <;> simp

@[simp] theorem control_shutDown (s : CaptureState β) :
    s.shutDown.control =
      { s.control with previewActive := false, streamActive := false }.sync := by
  simp [shutDown, control_syncModes, control_setActive_preview, control_setActive_stream]

/-- An operation acts on the callers' side by its rule alone: nothing that backends answer matters. -/
theorem control_operate (op : Operation β) (s : CaptureState β) :
    (s.operate op).2.control = s.control.after op := by
  cases op with
  | addDevice => exact control_foldl control_addDevice _ s
  | removeDevice => exact control_foldl control_removeDevice _ s
  | setStream | adjust => rfl
  | _ => simp [operate, Control.after]

end Calls

theorem control_initial [Backend β] (preview stream : Geometry) (backends : List β) :
    (initial preview stream backends).control = Control.initial preview stream := by
  unfold initial
  exact control_foldl (fun s b => control_register (.device b) _ s) backends _

end CaptureState

end VideoCapture
