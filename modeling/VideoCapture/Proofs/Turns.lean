import VideoCapture.Proofs.LoopTrace
import VideoCapture.Proofs.Settled

/-!
# What operations come to

Every operation that reads no frame keeps to one order. If the device has to be closed or opened,
the preview loop stands still by then; the device is released, opened for the consumer that decides
from now on, or handed over to it as it is; and if that consumer is the preview, the loop is started
last.

So between operations the loop runs exactly while the preview has the device to itself, and what is
recorded for the consumer that decides are the adjustments of the open device.

## Main definitions

* `CaptureState.Told`, `CaptureState.LoopFits` — what is recorded follows the device, and the loop
  follows the consumers.
* `CaptureState.Steady` — what holds between operations.
* `CaptureState.Prepared` — the loop is out of the way, and the settings are as they were.
* `CaptureState.Turned` — what an operation that reads no frame comes to.

The main statement is `CaptureState.turned_operate`.
-/

namespace VideoCapture

/-- Asking for a frame and a pull of the preview loop are the operations that read frames. -/
def Operation.readsFrame {β : Type} : Operation β → Bool
  | frame | pull => true
  | _ => false

namespace CaptureState

variable {β : Type}

/-- What is recorded for a consumer are the adjustments of the open device. -/
def Told (m : Mode) (s : CaptureState β) : Prop := s.trace.settings? = some (s.mode m).settings

/-- The loop runs while the preview has the device to itself, and at the size of the open device. -/
def LoopFits (s : CaptureState β) : Prop :=
  s.loop.size? = if s.previewOnly then s.opened.map Geometry.frameSize else none

/-- What holds between operations. -/
structure Steady (s : CaptureState β) : Prop where
  settled : s.Settled
  logged : s.Logged
  fits : s.LoopFits
  told : ∀ m, s.control.activeMode = some m → s.Told m

/-- The loop stands still and was kept out of the way so far, and nobody's settings have changed. -/
structure Prepared (s u : CaptureState β) : Prop where
  orderly : Orderly s u
  logged : u.Logged
  still : u.loop.running = false
  settings : ∀ m, (u.mode m).settings = (s.mode m).settings

/-- What an operation that reads no frame comes to: the loop was kept out of the way and fits again,
what is recorded for the consumer that decides now is the device's own, and nothing has changed in
what is recorded for others. -/
structure Turned (s t : CaptureState β) : Prop where
  orderly : Orderly s t
  logged : t.Logged
  fits : t.LoopFits
  told : ∀ m, t.control.activeMode = some m → t.Told m
  others : ∀ m, t.control.activeMode ≠ some m → (t.mode m).settings = (s.mode m).settings

variable {s t u v : CaptureState β} {m : Mode}

theorem previewOnly_iff : s.previewOnly = true ↔ s.control.activeMode = some .preview := by
  rw [previewOnly_eq, Control.activeMode]
  cases s.control.previewActive <;> cases s.control.streamActive <;> simp

theorem previewOnly_of_activeMode (h : t.control.activeMode = s.control.activeMode) :
    t.previewOnly = s.previewOnly := by
  rw [Bool.eq_iff_iff, previewOnly_iff, previewOnly_iff, h]

theorem LoopFits.still (h : s.LoopFits) (hs : s.previewOnly = false) : s.loop.running = false := by
  rw [LoopFits, hs, LoopStatus.size?] at h
  simpa using h

theorem settings_setActive (active : Bool) (s : CaptureState β) (n : Mode) :
    ((s.setActive m active).mode n).settings = (s.mode n).settings := by
  cases m <;> cases n <;> rfl

theorem settings_setGeometry (g : Geometry) (s : CaptureState β) (n : Mode) :
    ((s.setGeometry m g).mode n).settings = (s.mode n).settings := by
  cases m <;> cases n <;> rfl

/-! ## Preparing -/

theorem Steady.prepared (h : s.Steady) (hs : s.previewOnly = false) : Prepared s s :=
  ⟨.refl s, h.logged, h.fits.still hs, fun _ => rfl⟩

theorem Prepared.of_stopLoop (h : s.Logged) : Prepared s s.stopLoop where
  orderly := by
    unfold stopLoop
    split
    · exact (orderly_of_log rfl).trans (orderly_note trivial)
    · exact .refl s
  logged := h.stopLoop
  still := running_stopLoop s
  settings m := by
    unfold stopLoop
    split
    · cases m <;> rfl
    · rfl

theorem orderly_setActive (m : Mode) (active : Bool) (u : CaptureState β) :
    Orderly u (u.setActive m active) := by
  have hupdated : Orderly u (u.updateMode m fun c => { c with active := active }) :=
    orderly_of_log (by cases m <;> rfl)
  exact hupdated.trans (orderly_note trivial)

theorem Logged.setActive (h : u.Logged) (m : Mode) (active : Bool) :
    (u.setActive m active).Logged := by
  refine h.of_adds (P := Effect.SparesLoop) (adds_setActive trivial u) (fun _ => id) ?_
  cases m <;> rfl

theorem Prepared.setActive (h : Prepared s u) (m : Mode) (active : Bool) :
    Prepared s (u.setActive m active) where
  orderly := h.orderly.trans (orderly_setActive m active u)
  logged := h.logged.setActive m active
  still := by cases m <;> exact h.still
  settings n := (settings_setActive active u n).trans (h.settings n)

/-- Changes of what the callers asked for need no further preparation. -/
theorem Prepared.of_silent (h : Prepared s u) (hlog : v.log = u.log) (hloop : v.loop = u.loop)
    (hsettings : ∀ m, (v.mode m).settings = (u.mode m).settings) : Prepared s v where
  orderly := h.orderly.trans (orderly_of_log hlog)
  logged := h.logged.of_silent hlog hloop
  still := by rw [hloop]; exact h.still
  settings m := (hsettings m).trans (h.settings m)

theorem Prepared.converses (h : Prepared s u) (hv : Converses Call.IsPlain none u v) :
    Prepared s v where
  orderly :=
    h.orderly.trans (hv.orderly (fun _ => Call.IsPlain.not_adjusts)
      (h.logged.size?_eq_none h.still))
  logged := h.logged.converses hv
  still := by rw [hv.loop]; exact h.still
  settings m := (hv.settings m (by simp)).trans (h.settings m)

/-! ## Opening for the consumer that decides -/

/-- Once the device serves the preview alone, the loop is started. -/
def resume (m : Mode) (v : CaptureState β) : CaptureState β :=
  match m with
  | .preview => v.startLoop
  | .stream => v

theorem settings_startLoop (v : CaptureState β) (n : Mode) :
    (v.startLoop.mode n).settings = (v.mode n).settings := by
  unfold startLoop
  split <;> cases n <;> rfl

theorem Told.congr (h : s.Told m) (hcustody : t.custody = s.custody)
    (hsettings : (t.mode m).settings = (s.mode m).settings) : t.Told m := by
  have htrace : t.trace = s.trace := congrArg Custody.trace hcustody
  rw [Told, htrace, hsettings]
  exact h

theorem told_setSettings {settings : AdjustmentSet} (h : v.trace.settings? = some settings) :
    (v.setSettings m settings).Told m := by
  have htrace : (v.setSettings m settings).trace = v.trace :=
    congrArg Custody.trace (custody_setSettings m settings v)
  rw [Told, htrace, settings_setSettings, if_pos rfl]
  exact h

/-- The device is open for the consumer that decides, and its adjustments are recorded. -/
theorem turned_resume (horderly : Orderly s v) (hlogged : v.Logged)
    (hstill : v.loop.running = false) {k : Control} {i : Nat} {g : Geometry}
    (hopen : v.custody.Serving k i g) (hm : v.control.activeMode = some m) (htold : v.Told m)
    (hothers : ∀ n, n ≠ m → (v.mode n).settings = (s.mode n).settings) :
    Turned s (v.resume m) := by
  have hdecides (n : Mode) (hn : v.control.activeMode = some n) : v.Told n :=
    Option.some.inj (hm.symm.trans hn) ▸ htold
  have hrest (n : Mode) (hn : v.control.activeMode ≠ some n) :
      (v.mode n).settings = (s.mode n).settings :=
    hothers n fun heq => hn (heq ▸ hm)
  cases m with
  | preview =>
    have ho : v.opened = some g := hopen.opened
    have hstart := startLoop_of_still hstill ho
    refine ⟨?_, ?_, ?_, ?_, ?_⟩
    · rw [resume, hstart]
      refine horderly.trans ((orderly_of_log rfl).trans (orderly_note ?_))
      exact ⟨i, (hopen.isOpen_iff_of_opened hopen.manager hopen.opened i).mpr rfl⟩
    · exact hlogged.startLoop hstill ho
    · have honly : v.startLoop.previewOnly = true := previewOnly_iff.mpr (by simpa using hm)
      have hopened : v.startLoop.opened = some g :=
        (congrArg Custody.opened (custody_startLoop v)).trans ho
      rw [resume, LoopFits, honly, hopened, hstart]
      rfl
    · intro n hn
      rw [resume, control_startLoop] at hn
      exact (hdecides n hn).congr (custody_startLoop v) (settings_startLoop v n)
    · intro n hn
      rw [resume, control_startLoop] at hn
      exact (settings_startLoop v n).trans (hrest n hn)
  | stream =>
    refine ⟨horderly, hlogged, ?_, hdecides, hrest⟩
    have honly : v.previewOnly = false := by
      rw [Bool.eq_false_iff, Ne, previewOnly_iff, hm]
      simp
    rw [resume, LoopFits, honly, LoopStatus.size?, hstill]
    rfl

/-- The device is handed over as it is. -/
theorem turned_handOver (h : Prepared s u) {k : Control} {i : Nat} {g : Geometry}
    (hopen : u.custody.Serving k i g) (hm : u.control.activeMode = some m)
    {settings : AdjustmentSet} (htold : u.trace.settings? = some settings) :
    Turned s ((u.setSettings m settings).resume m) := by
  have hv : Converses Call.IsPlain (some m) u (u.setSettings m settings) :=
    converses_setSettings m settings u
  refine turned_resume (h.orderly.trans (orderly_of_log (by cases m <;> rfl)))
    (h.logged.converses hv) (by rw [hv.loop]; exact h.still) (k := k) (i := i) (g := g) ?_ ?_
    (told_setSettings htold) ?_
  · rw [custody_setSettings]
    exact hopen
  · simpa using hm
  · intro n hn
    rw [settings_setSettings, if_neg hn]
    exact h.settings n

section Calls

variable [Backend β]

theorem told_tryOpen (h : (u.tryOpen m).1 = true) : (u.tryOpen m).2.Told m := by
  cases hm : u.manager with
  | none => simp [tryOpen, hm] at h
  | some i =>
    cases hr : u.backends[i]? with
    | none => simp [tryOpen, hm, call, hr] at h
    | some r =>
      cases hv : (Backend.openAt (u.openGeometry m) r.backend).value with
      | error e => simp [(tryOpen_of_failed hr hm hv).1] at h
      | ok settings =>
        have htrace := congrArg Custody.trace (tryOpen_of_opened hr hm hv).2
        have hsettings : ((u.tryOpen m).2.mode m).settings = settings := by
          rw [tryOpen_of_manager hm]
          dsimp only
          rw [call_value hr, hv, settings_setSettings, if_pos rfl]
        rw [Told, hsettings]
        simp only [custody, Custody.reply] at htrace
        simp [htrace, Call.settle]

/-- Whichever device it is in the end: the consumer is told how it is adjusted. -/
theorem told_openFor {k : Control} {i : Nat} (h : u.custody.Ready k i) (m : Mode) :
    (u.openFor m).Told m := by
  have hfirst := tryOpen_spec h m
  rw [openFor_eq]
  split
  · rename_i hopened
    exact told_tryOpen hopened
  · rename_i hfailed
    rw [if_neg hfailed] at hfirst
    have hready := ready_selectFallback hfirst.toSound hfirst.closed
    obtain ⟨l, hl, -⟩ := hready.synthetic
    exact told_tryOpen (tryOpen_synthetic hl hready.manager m).1

/-- A device is opened for the consumer that decides. -/
theorem turned_openFor (h : Prepared s u) {i : Nat} (hready : u.custody.Ready u.control i)
    (hm : u.control.activeMode = some m) : Turned s ((u.openFor m).resume m) := by
  obtain ⟨j, hj⟩ := openFor_spec hready m
  have hv : Converses (Call.Opens (u.control.openGeometry m)) (some m) u (u.openFor m) :=
    converses_openFor rfl
  refine turned_resume ?_ (h.logged.converses hv) (by rw [hv.loop]; exact h.still) hj
    (by simpa using hm) (told_openFor hready m) ?_
  · exact h.orderly.trans
      (hv.orderly (fun _ => Call.Opens.not_adjusts) (h.logged.size?_eq_none h.still))
  · intro n hn
    exact (hv.settings n fun heq => hn (Option.some.inj heq).symm).trans (h.settings n)

/-- The device is released when nobody needs it any more. -/
theorem turned_release (h : Prepared s u) (hm : u.control.activeMode = none) :
    Turned s u.release := by
  have hv := h.converses (converses_release u)
  have hmode : u.release.control.activeMode = none := by simpa using hm
  refine ⟨hv.orderly, hv.logged, ?_, ?_, fun n _ => hv.settings n⟩
  · have honly : u.release.previewOnly = false := by
      rw [Bool.eq_false_iff, Ne, previewOnly_iff, hmode]
      simp
    rw [LoopFits, honly, LoopStatus.size?, hv.still]
    rfl
  · intro n hn
    simp [hm] at hn

end Calls

/-! ## Leaving the device alone -/

theorem turned_refl (h : s.Steady) : Turned s s :=
  ⟨.refl s, h.logged, h.fits, h.told, fun _ _ => rfl⟩

/-- A change that is not written down and leaves the loop, the device and who decides alone. -/
theorem Turned.of_silent (h : Turned s t) (hlog : u.log = t.log) (hloop : u.loop = t.loop)
    (hopened : u.opened = t.opened) (hmode : u.control.activeMode = t.control.activeMode)
    (hsettings : ∀ m, (u.mode m).settings = (t.mode m).settings) : Turned s u where
  orderly := h.orderly.trans (orderly_of_log hlog)
  logged := h.logged.of_silent hlog hloop
  fits := by
    rw [LoopFits, hloop, hopened, previewOnly_of_activeMode hmode]
    exact h.fits
  told m hm := by
    rw [Told, trace, hlog, hsettings]
    exact h.told m (hmode.symm.trans hm)
  others m hm := (hsettings m).trans (h.others m (by rwa [← hmode]))

/-- An operation may begin with a change of what the callers ask for. -/
theorem Turned.after (h : Turned t u) (horderly : Orderly s t)
    (hsettings : ∀ m, (t.mode m).settings = (s.mode m).settings) : Turned s u where
  orderly := horderly.trans h.orderly
  logged := h.logged
  fits := h.fits
  told := h.told
  others m hm := (h.others m hm).trans (hsettings m)

/-- Something is written down that is no call and says nothing of the loop. -/
theorem Turned.note (h : Turned s t) {e : Effect} (hcall : e.call? = none)
    (hspares : e.SparesLoop) : Turned s (t.note e) where
  orderly := by
    refine h.orderly.trans (orderly_note ?_)
    cases e with
    | called => simp [Effect.call?] at hcall
    | loopStarted => exact hspares.elim
    | _ => trivial
  logged := h.logged.of_adds (adds_note (P := Effect.SparesLoop) hspares t) (fun _ => id) rfl
  fits := h.fits
  told m hm := (h.told m hm).congr (custody_note hcall t) rfl
  others := h.others

theorem Turned.raise (h : Turned s t) (n : Notification) : Turned s (t.raise n) :=
  (h.of_silent (u := { t with outbox := t.outbox ++ [n] }) rfl rfl rfl rfl fun _ => rfl).note rfl
    trivial

theorem Turned.syncModes (h : Turned s t) : Turned s t.syncModes :=
  h.of_silent rfl rfl rfl rfl fun m => by cases m <;> rfl

/-- Two operations in a row, where both leave it at who decides. -/
theorem Turned.trans (h : Turned s t) (h' : Turned t u)
    (hmode : u.control.activeMode = t.control.activeMode) : Turned s u where
  orderly := h.orderly.trans h'.orderly
  logged := h'.logged
  fits := h'.fits
  told := h'.told
  others m hm := (h'.others m hm).trans (h.others m (by rwa [← hmode]))

/-- Beside a stream it makes no difference to the loop whether the preview is active. -/
theorem turned_setActive_preview (h : s.Steady) (hs : s.control.streamActive = true)
    (active : Bool) : Turned s (s.setActive .preview active) := by
  let t := s.updateMode .preview fun c => { c with active := active }
  have hmode : t.control.activeMode = s.control.activeMode := by
    show Control.activeMode { s.control with previewActive := active } = s.control.activeMode
    simp [Control.activeMode, hs]
  have ht : Turned s t :=
    (turned_refl h).of_silent rfl rfl rfl hmode fun m => by cases m <;> rfl
  exact ht.note (e := .switched .preview active) rfl trivial

/-- Devices that come or go one after the other. -/
theorem turned_foldl {f : CaptureState β → Descriptor → CaptureState β}
    (hcontrol : ∀ s d, (f s d).control = s.control)
    (hsettled : ∀ s d, s.Settled → (f s d).Settled) (hf : ∀ s d, s.Steady → Turned s (f s d))
    (h : s.Steady) (devices : List Descriptor) : Turned s (devices.foldl f s) := by
  let Reached (t : CaptureState β) : Prop :=
    t.Settled ∧ t.control = s.control ∧ Turned s t
  have hstart : Reached s := ⟨h.settled, rfl, turned_refl h⟩
  refine (List.foldlRecOn (motive := Reached) devices f hstart ?_).2.2
  rintro t ⟨hsettled', hcontrol', ht⟩ device -
  have hnext := hf t device ⟨hsettled', ht.logged, ht.fits, ht.told⟩
  exact ⟨hsettled t device hsettled', (hcontrol t device).trans hcontrol',
    ht.trans hnext (congrArg Control.activeMode (hcontrol t device))⟩

section Operations

variable [Backend β]

/-! ## Every operation -/

/-- The active consumers move from any open device to the desired or the synthetic one. -/
theorem turned_swap (hlogged : s.Logged) (hfits : s.LoopFits) {k : Control} {i : Nat}
    {g : Geometry} (h : s.custody.Serving k i g) (hactive : s.anyActive = true)
    {device : Descriptor} (hd : device = s.desired ∨ device = Descriptor.fallback) :
    Turned s (s.swap device) := by
  cases hs : s.control.streamActive with
  | true =>
    have honly : s.previewOnly = false := by simp [previewOnly_eq, hs]
    have hstart : Prepared s s := ⟨.refl s, hlogged, hfits.still honly, fun _ => rfl⟩
    have hmoved : Prepared s (s.close.select device) :=
      (hstart.converses (converses_close s)).converses (converses_select device _)
    obtain ⟨j, hj⟩ := ready_move h hd
    rw [swap_of_streaming hs]
    exact turned_openFor (m := .stream) hmoved hj (by simp [Control.activeMode, hs])
  | false =>
    have hp : s.control.previewActive = true := by
      rw [anyActive_eq, hs, Bool.or_false] at hactive
      exact hactive
    have hmoved : Prepared s (s.stopLoop.close.select device) :=
      ((Prepared.of_stopLoop hlogged).converses (converses_close _)).converses
        (converses_select device _)
    have hdesired : s.stopLoop.desired = s.desired :=
      congrArg Control.desired (control_stopLoop s)
    rw [← custody_stopLoop] at h
    obtain ⟨j, hj⟩ := ready_move h (hdesired ▸ hd)
    rw [swap_of_previewing hp hs]
    exact turned_openFor (m := .preview) hmoved hj (by simp [Control.activeMode, hp, hs])

theorem turned_setDevice (h : s.Steady) (device : Descriptor) (channel : UInt32)
    (format : VideoFormat) : Turned s (s.setDevice device channel format) := by
  let t := { s with desired := device, channel := channel, format := format }
  show Turned s (if t.anyActive then t.swap device else t)
  split
  · rename_i hactive
    obtain ⟨i, g, hi⟩ := h.settled.exists_serving hactive
    have hswap : Turned t (t.swap device) :=
      turned_swap (s := t) (k := s.control) (h.logged.of_silent rfl rfl) h.fits hi hactive (.inl rfl)
    exact hswap.after (orderly_of_log rfl) fun m => by cases m <;> rfl
  · exact (turned_refl h).of_silent rfl rfl rfl rfl fun m => by cases m <;> rfl

theorem turned_setPreview (h : s.Steady) (g : Geometry) : Turned s (s.setPreview g) := by
  unfold setPreview
  split
  · rename_i hcond
    have honly : s.previewOnly = true := by
      simp only [Bool.and_eq_true] at hcond
      exact hcond.1
    have hm := previewOnly_iff.mp honly
    obtain ⟨i, hi⟩ := h.settled.serving hm
    have hclosed : Prepared s (s.stopLoop.close.setGeometry .preview g) :=
      ((Prepared.of_stopLoop h.logged).converses (converses_close _)).of_silent rfl rfl
        (settings_setGeometry g _)
    refine turned_openFor (m := .preview) hclosed (ready_setPreview hi g) ?_
    rw [control_setGeometry_preview, control_close, control_stopLoop]
    exact hm
  · exact (turned_refl h).of_silent rfl rfl rfl rfl (settings_setGeometry g s)

theorem turned_startPreview (h : s.Steady) : Turned s s.startPreview := by
  simp only [startPreview]
  split
  · exact turned_refl h
  · rename_i hp
    have hp : s.control.previewActive = false := Bool.eq_false_iff.mpr hp
    refine Turned.syncModes ?_
    split
    · rename_i hs
      exact turned_setActive_preview h hs true
    · rename_i hs
      have hs : s.control.streamActive = false := Bool.eq_false_iff.mpr hs
      have hswitched : Prepared s (s.setActive .preview true) :=
        (h.prepared (by simp [previewOnly_eq, hp])).setActive .preview true
      have hrest : (s.setActive .preview true).custody.Resting := by
        rw [custody_setActive]
        exact h.settled.resting (by simp [Control.activeMode, hp, hs])
      obtain ⟨j, hj⟩ := ready_activate hrest
      refine turned_openFor (m := .preview)
        (hswitched.converses (converses_selectDesiredIfNeeded _)) hj ?_
      simp [control_setActive_preview, Control.activeMode, hs]

theorem turned_stopPreview (h : s.Steady) : Turned s s.stopPreview := by
  simp only [stopPreview]
  split
  · refine Turned.syncModes ?_
    split
    · rename_i hs
      exact turned_setActive_preview h hs false
    · rename_i hs
      have hs : s.control.streamActive = false := Bool.eq_false_iff.mpr hs
      have hstopped := Prepared.of_stopLoop (h.logged.setActive .preview false)
      refine (turned_release hstopped ?_).after (orderly_setActive .preview false s)
        (settings_setActive false s)
      simp [control_setActive_preview, Control.activeMode, hs]
  · exact turned_refl h

theorem turned_startStream (h : s.Steady) : Turned s s.startStream := by
  let t := { s with liveStream := s.stream.geometry }
  have ht (m : Mode) : (t.mode m).settings = (s.mode m).settings := by cases m <;> rfl
  simp only [startStream]
  split
  · exact turned_refl h
  · rename_i hs
    have hs : s.control.streamActive = false := Bool.eq_false_iff.mpr hs
    refine Turned.syncModes (Turned.after (t := t) ?_ (orderly_of_log rfl) ht)
    split
    · rename_i hp
      have hp : s.control.previewActive = true := hp
      have hm : s.control.activeMode = some .preview := by simp [Control.activeMode, hp, hs]
      obtain ⟨i, hi⟩ := h.settled.serving hm
      let u := t.stopLoop.setActive .stream true
      have hu : Prepared t u :=
        (Prepared.of_stopLoop (s := t) (h.logged.of_silent rfl rfl)).setActive .stream true
      have hcustody : u.custody = s.custody := by
        simp only [u, custody_setActive, custody_stopLoop]
        rfl
      have hcontrol : u.control = { t.control with streamActive := true } := by
        simp [u, control_setActive_stream]
      have hmode : u.control.activeMode = some .stream := by simp [hcontrol, Control.activeMode]
      rw [← hcustody] at hi
      split
      · refine turned_handOver (m := .stream) hu hi hmode ?_
        have htold := (h.told .preview hm).congr hcustody ((hu.settings .preview).trans (ht _))
        exact htold
      · refine turned_openFor (m := .stream) (hu.converses (converses_close u))
          (ready_reopen hi ?_) (by simpa using hmode)
        rw [hcontrol]
        rfl
    · rename_i hp
      have hp : s.control.previewActive = false := Bool.eq_false_iff.mpr hp
      have hswitched : Prepared t (t.setActive .stream true) := by
        have hstill : Prepared t t :=
          ⟨.refl t, h.logged.of_silent rfl rfl, h.fits.still (by simp [previewOnly_eq, hp]),
            fun _ => rfl⟩
        exact hstill.setActive .stream true
      have hrest : (t.setActive .stream true).custody.Resting := by
        rw [custody_setActive]
        exact h.settled.resting (by simp [Control.activeMode, hp, hs])
      obtain ⟨j, hj⟩ := ready_activate hrest
      refine turned_openFor (m := .stream)
        (hswitched.converses (converses_selectDesiredIfNeeded _)) hj ?_
      simp [control_setActive_stream, Control.activeMode]

theorem turned_stopStream (h : s.Steady) : Turned s s.stopStream := by
  simp only [stopStream]
  split
  · rename_i hs
    have hs : s.control.streamActive = true := hs
    have hm : s.control.activeMode = some .stream := by simp [Control.activeMode, hs]
    obtain ⟨i, hi⟩ := h.settled.serving hm
    let u := s.setActive .stream false
    have hu : Prepared s u :=
      (h.prepared (by simp [previewOnly_eq, hs])).setActive .stream false
    rw [← custody_setActive .stream false] at hi
    refine Turned.syncModes ?_
    split
    · rename_i hp
      have hp : s.control.previewActive = true := hp
      have hmode : u.control.activeMode = some .preview := by
        simp [u, control_setActive_stream, Control.activeMode, hp]
      split
      · refine turned_handOver (m := .preview) hu hi hmode ?_
        exact (h.told .stream hm).congr (custody_setActive .stream false s) (hu.settings .stream)
      · exact turned_openFor (m := .preview) (hu.converses (converses_close u))
          (ready_reopen hi rfl) (by simpa using hmode)
    · rename_i hp
      have hp : s.control.previewActive = false := Bool.eq_false_iff.mpr hp
      exact turned_release hu (by simp [control_setActive_stream, Control.activeMode, hp])
  · exact turned_refl h

theorem turned_shutDown (h : s.Steady) : Turned s s.shutDown := by
  have hstopped : Prepared s ((s.stopLoop.setActive .preview false).setActive .stream false) :=
    ((Prepared.of_stopLoop h.logged).setActive .preview false).setActive .stream false
  refine (turned_release hstopped ?_).syncModes
  simp [control_setActive_preview, control_setActive_stream, Control.activeMode]

theorem turned_addDevice (h : s.Steady) (device : Descriptor) :
    Turned s (s.addDevice device) := by
  simp only [addDevice]
  refine Turned.raise ?_ _
  split
  · rename_i hcond
    obtain ⟨⟨hd, hactive⟩, -⟩ : (device = s.desired ∧ s.anyActive = true) ∧ _ := by
      simpa only [Bool.and_eq_true, decide_eq_true_eq] using hcond
    obtain ⟨i, g, hi⟩ := h.settled.exists_serving hactive
    exact turned_swap h.logged h.fits hi hactive (.inl hd)
  · exact turned_refl h

theorem turned_removeDevice (h : s.Steady) (device : Descriptor) :
    Turned s (s.removeDevice device) := by
  simp only [removeDevice]
  refine Turned.raise ?_ _
  split
  · rename_i hcond
    obtain ⟨hopen, -⟩ : s.isOpen = true ∧ _ := by
      simpa only [Bool.and_eq_true, decide_eq_true_eq] using hcond
    cases hactive : s.anyActive with
    | false => simp [isOpen, (h.settled.idle hactive).1] at hopen
    | true =>
      obtain ⟨i, g, hi⟩ := h.settled.exists_serving hactive
      exact turned_swap h.logged h.fits hi hactive (.inr rfl)
  · exact turned_refl h

theorem turned_enumerate (h : s.Steady) (count i : Nat) :
    Turned s (s.enumerate count i).2 := by
  have hsaid := converses_enumerate count i s
  have htalked := (sound_enumerate count i h.settled.sound).2.1
  have hopened : (s.enumerate count i).2.opened = s.opened := htalked.opened
  have hmode := congrArg Control.activeMode (control_enumerate count i s)
  refine ⟨?_, h.logged.converses hsaid, ?_, ?_, fun m _ => hsaid.settings m (by simp)⟩
  · obtain ⟨more, hmore, heach⟩ := hsaid.adds
    refine ⟨more, hmore, ?_⟩
    rintro before e after rfl
    exact (heach e (by simp)).orderly_of_lists _
  · rw [LoopFits, hsaid.loop, hopened, previewOnly_of_activeMode hmode]
    exact h.fits
  · intro m hm
    rw [Told, (hsaid.mono fun _ => Call.Lists.isPlain).settings?_trace,
      hsaid.settings m (by simp)]
    exact h.told m (hmode.symm.trans hm)

/-- Every operation that reads no frame keeps to the order. -/
theorem turned_operate (h : s.Steady) {op : Operation β} (hop : op.readsFrame = false) :
    Turned s (s.operate op).2 := by
  cases op with
  | setDevice device channel format => exact turned_setDevice h device channel format
  | setPreview g => exact turned_setPreview h g
  | setStream g =>
    exact (turned_refl h).of_silent rfl rfl rfl rfl (settings_setGeometry g s)
  | startPreview => exact turned_startPreview h
  | stopPreview => exact turned_stopPreview h
  | startStream => exact turned_startStream h
  | stopStream => exact turned_stopStream h
  | frame => simp [Operation.readsFrame] at hop
  | pull => simp [Operation.readsFrame] at hop
  | adjust kind value =>
    exact (turned_refl h).of_silent rfl rfl rfl rfl fun m => by cases m <;> rfl
  | addDevice =>
    exact turned_foldl control_addDevice (fun _ d ht => settled_addDevice ht d)
      (fun _ d ht => turned_addDevice ht d) h _
  | removeDevice =>
    exact turned_foldl control_removeDevice (fun _ d ht => settled_removeDevice ht d)
      (fun _ d ht => turned_removeDevice ht d) h _
  | addBackend b => exact (turned_refl h).of_silent rfl rfl rfl rfl fun m => by cases m <;> rfl
  | enumerate => exact turned_enumerate h _ 0
  | mode => exact turned_refl h
  | shutDown => exact turned_shutDown h

end Operations

end CaptureState

end VideoCapture
