import VideoCapture.Proofs.Policy
import VideoCapture.Proofs.Steady
import VideoCapture.Scripted.Camera

/-!
# Preview operations during a stream

While a stream is active, starting and stopping the preview and setting geometries are only booked:
nothing happens to the device, nobody is told anything, and frames come as before. When the stream
stops, the latest bookings are honoured, and nothing else of what was booked matters.

## Main definitions

* `Booking` — what is booked.
* `Step.books` — the steps that book something during a stream.
* `CaptureState.book` — a state with another booking.
* `CaptureState.recast` — a state with another past and another geometry for the next stream.

The main statement is `ControllerBuilder.preview_only_booked`.
-/

namespace VideoCapture

/-- What is booked for the end of a stream: whether the preview is wanted then, its geometry, and the
geometry of the next stream. -/
structure Booking where
  wanted : Bool
  preview : Geometry
  next : Geometry
  deriving DecidableEq

namespace Step

variable {β : Type}

/-- During a stream the step does nothing but book something. -/
def books : Step β → Bool
  | operation (.setPreview _) | operation (.setStream _) => true
  | operation .startPreview | operation .stopPreview => true
  | _ => false

/-- Whether the preview is wanted from now on, if the step says so. -/
def wanted? : Step β → Option Bool
  | operation .startPreview => some true
  | operation .stopPreview => some false
  | _ => none

end Step

namespace Booking

variable {β : Type}

/-- What is booked after a step. -/
def after (b : Booking) : Step β → Booking
  | .operation (.setPreview g) => { b with preview := g }
  | .operation (.setStream g) => { b with next := g }
  | .operation .startPreview => { b with wanted := true }
  | .operation .stopPreview => { b with wanted := false }
  | _ => b

/-- The latest step decides. -/
theorem foldl_after (b : Booking) (steps : List (Step β)) :
    steps.foldl after b =
      ⟨(steps.filterMap Step.wanted?).getLastD b.wanted,
        (steps.filterMap Step.previewGeometry?).getLastD b.preview,
        (steps.filterMap Step.streamGeometry?).getLastD b.next⟩ := by
  have hstep (b : Booking) (e : Step β) :
      (b.after e).wanted = e.wanted?.getD b.wanted ∧
        (b.after e).preview = e.previewGeometry?.getD b.preview ∧
        (b.after e).next = e.streamGeometry?.getD b.next := by
    cases e with
    | operation op => cases op <;> exact ⟨rfl, rfl, rfl⟩
    | handOut => exact ⟨rfl, rfl, rfl⟩
    | stir => exact ⟨rfl, rfl, rfl⟩
  rw [← foldl_recorded wanted (fun b e => (hstep b e).1),
    ← foldl_recorded preview (fun b e => (hstep b e).2.1),
    ← foldl_recorded next (fun b e => (hstep b e).2.2)]

end Booking

namespace CaptureState

variable {β : Type} {s : CaptureState β}

/-! ## What does not depend on the past -/

/-- The same state with other things done before, and another geometry for the next stream. -/
def recast (past : List Effect) (next : Geometry) (s : CaptureState β) : CaptureState β :=
  { s with stream := { s.stream with geometry := next }, log := past ++ s.log }

section Recast

variable (past : List Effect) (next : Geometry)

section Fields

variable (s : CaptureState β)

@[simp] theorem backends_recast : (s.recast past next).backends = s.backends := rfl

@[simp] theorem manager_recast : (s.recast past next).manager = s.manager := rfl

@[simp] theorem opened_recast : (s.recast past next).opened = s.opened := rfl

@[simp] theorem channel_recast : (s.recast past next).channel = s.channel := rfl

@[simp] theorem format_recast : (s.recast past next).format = s.format := rfl

@[simp] theorem preview_recast : (s.recast past next).preview = s.preview := rfl

end Fields

theorem recast_setSettings (m : Mode) (settings : AdjustmentSet) (s : CaptureState β) :
    (s.recast past next).setSettings m settings = (s.setSettings m settings).recast past next := by
  cases m <;> rfl

theorem recast_setActive (m : Mode) (active : Bool) (s : CaptureState β) :
    (s.recast past next).setActive m active = (s.setActive m active).recast past next := by
  cases m <;> simp [setActive, updateMode, note, recast]

theorem recast_syncModes (s : CaptureState β) :
    (s.recast past next).syncModes = s.syncModes.recast past next := rfl

theorem recast_startLoop (s : CaptureState β) :
    (s.recast past next).startLoop = s.startLoop.recast past next := by
  unfold startLoop
  cases h : s.loop.running <;> simp [h, note, recast]

theorem recast_call {α : Type} (i : Nat) (act : Source β → Reply (Source β) α)
    (describe : α → Call) (s : CaptureState β) :
    (s.recast past next).call i act describe =
      ((s.call i act describe).1, (s.call i act describe).2.recast past next) := by
  unfold call
  simp only [backends_recast]
  split
  · rfl
  · simp [raiseAll_eq, note, recast]

section Calls

variable [Backend β]

theorem recast_offer (device : Descriptor) (count i : Nat) (s : CaptureState β) :
    (s.recast past next).offer device count i =
      ((s.offer device count i).1, (s.offer device count i).2.recast past next) := by
  induction count generalizing i s with
  | zero => rfl
  | succ count ih =>
    rw [offer_succ, offer_succ]
    have hcall := recast_call past next i
      (Backend.select device s.channel s.format) (Call.setDevice device s.channel s.format) s
    simp only [channel_recast, format_recast, hcall, ih]
    split <;> rfl

theorem recast_trySelect (device : Descriptor) (s : CaptureState β) :
    (s.recast past next).trySelect device =
      ((s.trySelect device).1, (s.trySelect device).2.recast past next) := by
  have hoffer := recast_offer past next device s.backends.length 0
    { s with manager := none }
  change offer device (s.recast past next).backends.length 0
    { s.recast past next with manager := none } = _ at hoffer
  rw [trySelect_eq, trySelect_eq]
  dsimp only at hoffer ⊢
  rw [hoffer]
  cases ({ s with manager := none }.offer device s.backends.length 0).1 <;> rfl

theorem recast_selectFallback (s : CaptureState β) :
    (s.recast past next).selectFallback = s.selectFallback.recast past next := by
  rw [selectFallback, recast_trySelect, selectFallback]

theorem recast_tryOpen (m : Mode) (s : CaptureState β) :
    (s.recast past next).tryOpen m = ((s.tryOpen m).1, (s.tryOpen m).2.recast past next) := by
  cases h : s.manager with
  | none => simp [tryOpen, h]
  | some i =>
    have hgeometry : (s.recast past next).openGeometry m = s.openGeometry m := by cases m <;> rfl
    rw [tryOpen_of_manager (s := s.recast past next) h, tryOpen_of_manager h, hgeometry,
      recast_call]
    dsimp only
    split
    · rw [← recast_setSettings]
      rfl
    · rfl

theorem recast_openFor (m : Mode) (s : CaptureState β) :
    (s.recast past next).openFor m = (s.openFor m).recast past next := by
  simp only [openFor_eq, recast_tryOpen, recast_selectFallback]
  split <;> rfl

theorem recast_close (s : CaptureState β) :
    (s.recast past next).close = s.close.recast past next := by
  have hcall (i : Nat) := recast_call past next i Backend.close
    (fun _ => Call.close) { s with opened := none }
  unfold close
  simp only [manager_recast, opened_recast]
  split
  · exact congrArg Prod.snd (hcall _)
  · rfl

theorem recast_release (s : CaptureState β) :
    (s.recast past next).release = s.release.recast past next := by
  simp only [release, recast_close]
  rfl

/-- Stopping the stream takes no notice of the past and of the geometry of the next stream. -/
theorem recast_stopStream (s : CaptureState β) :
    (s.recast past next).stopStream = s.stopStream.recast past next := by
  have hactive : (s.recast past next).stream.active = s.stream.active := rfl
  have hsettings (u : CaptureState β) : (u.recast past next).stream.settings = u.stream.settings :=
    rfl
  unfold stopStream
  rw [hactive]
  split
  · dsimp only
    rw [recast_setActive]
    simp only [preview_recast, opened_recast, hsettings]
    split
    · split <;>
        simp only [recast_setSettings, recast_close, recast_openFor, recast_startLoop,
          recast_syncModes]
    · rw [recast_release, recast_syncModes]
  · rfl

end Calls

end Recast

/-! ## Booking -/

/-- What is booked in a state. -/
def booking (s : CaptureState β) : Booking := ⟨s.preview.active, s.preview.geometry, s.stream.geometry⟩

/-- The same state with another booking, and with more written down. -/
def book (b : Booking) (more : List Effect) (s : CaptureState β) : CaptureState β :=
  { s with
    preview := { s.preview with active := b.wanted, geometry := b.preview }
    stream := { s.stream with geometry := b.next }
    requests := { s.requests with previewActive := b.wanted }
    log := s.log ++ more }

/-- The preview was switched on or off, and nothing else happened. -/
def Switches (more : List Effect) : Prop := ∀ e ∈ more, ∃ active, e = .switched .preview active

theorem switches_append {more last : List Effect} (h : Switches more) (h' : Switches last) :
    Switches (more ++ last) := by
  intro e he
  exact (List.mem_append.mp he).elim (h e) (h' e)

theorem Switches.filterMap_call? {more : List Effect} (h : Switches more) :
    more.filterMap Effect.call? = [] := by
  rw [List.filterMap_eq_nil_iff]
  intro e he
  obtain ⟨active, rfl⟩ := h e he
  rfl

/-- A state has its own booking. -/
theorem book_booking (hsync : s.control.Synced) : s.book s.booking [] = s := by
  have hpreview : s.requests.previewActive = s.preview.active := hsync.preview
  have hrequests : { s.requests with previewActive := s.preview.active } = s.requests := by
    rw [← hpreview]
  simp only [book, booking, hrequests, List.append_nil]

section Operations

variable [Backend β]

/-- During a stream an operation on the preview is only booked. -/
theorem step_book (hstream : s.stream.active = true) (hsync : s.control.Synced) {e : Step β}
    (he : e.books = true) (b : Booking) (more : List Effect) :
    ∃ last, Switches last ∧ (s.book b more).step e = s.book (b.after e) (more ++ last) := by
  have hactive : s.requests.streamActive = true := hsync.stream.trans hstream
  have hsilent (h : (s.book b more).step e = s.book (b.after e) more) :
      ∃ last, Switches last ∧ (s.book b more).step e = s.book (b.after e) (more ++ last) :=
    ⟨[], by simp [Switches], by rw [h, List.append_nil]⟩
  cases e with
  | operation op =>
    cases op with
    | setPreview g =>
      have halone : (s.book b more).previewOnly = false := by simp [previewOnly, book, hstream]
      have hset : (s.book b more).setPreview g = (s.book b more).setGeometry .preview g := by
        simp [setPreview, halone]
      exact hsilent hset
    | setStream g => exact hsilent rfl
    | startPreview =>
      cases hw : b.wanted with
      | true => exact hsilent (by simp [step, operate, startPreview, book, hw, Booking.after])
      | false =>
        refine ⟨[.switched .preview true], by simp [Switches], ?_⟩
        simp [step, operate, startPreview, book, hw, hstream, hactive, setActive, updateMode, note,
          syncModes, Booking.after]
    | stopPreview =>
      cases hw : b.wanted with
      | true =>
        refine ⟨[.switched .preview false], by simp [Switches], ?_⟩
        simp [step, operate, stopPreview, book, hw, hstream, hactive, setActive, updateMode, note,
          syncModes, Booking.after]
      | false => exact hsilent (by simp [step, operate, stopPreview, book, hw, Booking.after])
    | _ => cases he
  | handOut => cases he
  | stir i change => cases he

theorem run_book (hstream : s.stream.active = true) (hsync : s.control.Synced)
    {steps : List (Step β)} (hsteps : ∀ e ∈ steps, e.books = true) (b : Booking)
    (more : List Effect) :
    ∃ last, Switches last ∧
      (s.book b more).run steps = s.book (steps.foldl Booking.after b) (more ++ last) := by
  induction steps generalizing b more with
  | nil => exact ⟨[], by simp [Switches], by simp⟩
  | cons e rest ih =>
    obtain ⟨first, hfirst, hone⟩ := step_book hstream hsync (hsteps e List.mem_cons_self) b more
    obtain ⟨last, hlast, hrest⟩ :=
      ih (fun e' he' => hsteps e' (List.mem_cons_of_mem _ he')) (b.after e) (more ++ first)
    refine ⟨first ++ last, switches_append hfirst hlast, ?_⟩
    rw [← List.append_assoc]
    exact (congrArg (run · rest) hone).trans hrest

end Operations

/-! ## Nothing is disturbed -/

/-- From `s` to `t` nothing was done but switching the preview, and nothing of what a stream needs has
changed. -/
structure Undisturbed (s t : CaptureState β) : Prop where
  log : ∃ switches, Switches switches ∧ t.log = s.log ++ switches
  /-- No backend was called. -/
  trace : t.trace = s.trace
  /-- Nobody is told anything. -/
  outbox : t.outbox = s.outbox
  loop : t.loop = s.loop
  backends : t.backends = s.backends
  manager : t.manager = s.manager
  opened : t.opened = s.opened
  current : t.current = s.current
  desired : t.desired = s.desired
  channel : t.channel = s.channel
  format : t.format = s.format
  stream : t.stream.active = s.stream.active
  liveStream : t.liveStream = s.liveStream
  settings : ∀ m, (t.mode m).settings = (s.mode m).settings
  pending : ∀ m, t.requests.pending m = s.requests.pending m

theorem trace_book {more : List Effect} (h : Switches more) (b : Booking) :
    (s.book b more).trace = s.trace := by
  rw [trace, trace, book, List.filterMap_append, h.filterMap_call?, List.append_nil]

theorem undisturbed_book {more : List Effect} (h : Switches more) (b : Booking) :
    s.Undisturbed (s.book b more) where
  log := ⟨more, h, rfl⟩
  trace := trace_book h b
  outbox := rfl
  loop := rfl
  backends := rfl
  manager := rfl
  opened := rfl
  current := rfl
  desired := rfl
  channel := rfl
  format := rfl
  stream := rfl
  liveStream := rfl
  settings m := by cases m <;> rfl
  pending m := by cases m <;> rfl

theorem Undisturbed.custody {t : CaptureState β} (h : s.Undisturbed t) : t.custody = s.custody := by
  rw [CaptureState.custody, CaptureState.custody, h.backends, h.manager, h.opened, h.current, h.trace]

theorem Undisturbed.reopened {t u : CaptureState β} {g : Geometry} (h : s.Undisturbed t)
    (hu : t.Reopened u g) : s.Reopened u g := by
  obtain ⟨hleft, hrenewed⟩ := hu
  rw [h.opened, h.custody] at hleft
  rw [h.opened, h.manager, h.channel, h.format, h.current, h.custody] at hrenewed
  exact ⟨hleft, hrenewed⟩

/-! ## Frames come as before -/

/-- A frame for a caller's buffer is the same from both states, and but for adjustments it takes the
same calls. -/
structure ServedAlike [Backend β] (s t : CaptureState β) (buffer : Array UInt8) : Prop where
  answer : (t.frameInto buffer).1 = (s.frameInto buffer).1
  calls : ∃ i calls sent sent', (∀ e ∈ calls, ¬ e.2.Adjusts) ∧
    (s.frameInto buffer).2.trace = s.trace ++ calls ++ sent ∧ Trace.AdjustsOnly i sent ∧
    (t.frameInto buffer).2.trace = t.trace ++ calls ++ sent' ∧ Trace.AdjustsOnly i sent'

section Frames

variable [Backend β] {t : CaptureState β}

theorem Undisturbed.servedAlike (h : s.Undisturbed t) (hs : s.Settled) (ht : t.Settled)
    (hstream : s.stream.active = true) (buffer : Array UInt8) : s.ServedAlike t buffer := by
  have hm : s.activeMode = some .stream := if_pos hstream
  have hm' : t.activeMode = some .stream := if_pos (h.stream.trans hstream)
  obtain ⟨i, hi⟩ := hs.serving hm
  obtain ⟨j, hj⟩ := ht.serving hm'
  obtain rfl : i = j := Option.some.inj (hi.manager.symm.trans (h.manager.symm.trans hj.manager))
  obtain ⟨r, hr⟩ := hi.exists_backend hi.manager
  have hr' : t.backends[i]? = some r := by rw [h.backends]; exact hr
  rw [← openGeometry_eq] at hi hj
  cases hv : (Backend.read r.backend).value with
  | ok f =>
    obtain ⟨hanswer, sent, honly, htrace⟩ := delivered hi hm hr hv buffer
    obtain ⟨hanswer', sent', honly', htrace'⟩ := delivered hj hm' hr' hv buffer
    refine ⟨hanswer'.trans hanswer.symm, i, [(i, .read (some f))], sent, sent', ?_, ?_, honly, ?_,
      honly'⟩
    · simp [Call.Adjusts]
    · simpa using htrace
    · simpa using htrace'
  | error e =>
    have hrescued := rescued hi hm hr hv buffer
    have hrescued' := rescued hj hm' hr' hv buffer
    have hg : t.openGeometry .stream = s.openGeometry .stream := h.liveStream
    have hanswer : (t.frameInto buffer).1 = (s.frameInto buffer).1 := by
      obtain ⟨l, hl, hpicture⟩ := hrescued.picture
      obtain ⟨l', hl', hpicture'⟩ := hrescued'.picture
      rw [h.backends, hl] at hl'
      cases hl'
      refine Prod.ext ?_ ?_
      · rw [hrescued.size, hrescued'.size, hg]
      · rw [hpicture, hpicture', hg]
    obtain ⟨sent, honly, htrace⟩ := hrescued.calls
    obtain ⟨sent', honly', htrace'⟩ := hrescued'.calls
    rw [hg, h.channel, h.format, hanswer] at htrace'
    exact ⟨hanswer, 0, _, sent, sent', by simp [Call.Adjusts], htrace, honly, htrace', honly'⟩

end Frames

/-! ## The end of the stream -/

/-- The stream of `t` has stopped in `u`, after nothing but bookings since `s`: the preview has the
device open at `g` if it was wanted, and the device is released otherwise. -/
structure Honoured [Backend β] (s t u : CaptureState β) (wanted : Bool) (g : Geometry) : Prop where
  preview : wanted = true → u.activeMode = some .preview ∧ u.isOpen = true ∧ u.opened = some g ∧
    u.loop.size? = some g.frameSize ∧ s.Reopened u g
  idle : wanted = false → u.activeMode = none ∧ u.manager = none ∧ u.opened = none ∧
    u.current = u.desired ∧ u.loop.running = false ∧
    ∃ i, s.manager = some i ∧ u.trace = s.trace ++ [(i, .close)]
  /-- It is the state after a stream that was stopped with just this booked at once, but for what was
  written down and for the geometry of the next stream. -/
  only : let v := (s.book ⟨wanted, g, s.stream.geometry⟩ []).stopStream
    ∃ last, v.log = s.log ++ last ∧
      u = { v with
        stream := { v.stream with geometry := t.stream.geometry }
        log := t.log ++ last }

section Ending

variable [Backend β] {t : CaptureState β}

theorem stopStream_book (b : Booking) (more : List Effect) (s : CaptureState β) :
    let v := (s.book { b with next := s.stream.geometry } []).stopStream
    ∃ last, v.log = s.log ++ last ∧
      (s.book b more).stopStream =
        { v with
          stream := { v.stream with geometry := b.next }
          log := s.log ++ more ++ last } := by
  let z := ({ s with log := [] } : CaptureState β).book b []
  have hbooked (more : List Effect) (next : Geometry) :
      s.book { b with next := next } more = z.recast (s.log ++ more) next := by
    simp [z, book, recast]
  intro v
  have hv : v = z.stopStream.recast s.log s.stream.geometry := by
    rw [← recast_stopStream, ← List.append_nil s.log, ← hbooked]
  refine ⟨z.stopStream.log, by rw [hv]; rfl, ?_⟩
  rw [hv]
  exact (congrArg stopStream (hbooked more b.next)).trans (recast_stopStream _ _ z)

theorem stopStream_release (hstream : s.stream.active = true) (hp : s.preview.active = false) :
    s.stopStream = (s.setActive .stream false).release.syncModes := by
  have hp' : (s.setActive .stream false).preview.active = false := hp
  simp [stopStream, hstream, hp']

/-- The stream stops while the preview is wanted. -/
theorem Steady.stopStream_of_wanted (ht : t.Steady) (hsync : t.control.Synced)
    (hstream : t.stream.active = true) (hp : t.preview.active = true) :
    t.stopStream.activeMode = some .preview ∧ t.stopStream.isOpen = true ∧
      t.stopStream.opened = some t.preview.geometry ∧
      t.stopStream.loop.size? = some t.preview.geometry.frameSize := by
  have hu : t.stopStream.Steady := (steady_step ht hsync (.operation .stopStream)).1
  have hcontrol : t.stopStream.control = { t.control with streamActive := false }.sync := by
    rw [control_stopStream, if_pos (show t.control.streamActive = true from hstream)]
  have hm : t.stopStream.control.activeMode = some .preview := by
    rw [hcontrol]
    exact (if_neg Bool.false_ne_true).trans (if_pos hp)
  obtain ⟨i, hi⟩ := hu.settled.serving hm
  have hopened : t.stopStream.opened = some t.preview.geometry := by
    rw [hu.settled.opened_eq, hm, hcontrol]
    rfl
  obtain ⟨g, hg, hsize⟩ := hu.exists_size (previewOnly_iff.mpr hm)
  obtain rfl : g = t.preview.geometry := Option.some.inj (hg.symm.trans hopened)
  refine ⟨hm, ?_, hopened, hsize⟩
  rw [isOpen, hopened, show t.stopStream.manager = some i from hi.manager]
  rfl

/-- The stream stops while nobody else wants the device. -/
theorem Steady.stopStream_of_unwanted (ht : t.Steady) (hsync : t.control.Synced)
    (hstream : t.stream.active = true) (hp : t.preview.active = false) :
    t.stopStream.activeMode = none ∧ t.stopStream.manager = none ∧ t.stopStream.opened = none ∧
      t.stopStream.current = t.stopStream.desired ∧ t.stopStream.loop.running = false ∧
      ∃ i, t.manager = some i ∧ t.stopStream.trace = t.trace ++ [(i, .close)] := by
  have hu : t.stopStream.Steady := (steady_step ht hsync (.operation .stopStream)).1
  have hm : t.stopStream.control.activeMode = none := by
    rw [control_stopStream, if_pos (show t.control.streamActive = true from hstream)]
    exact (if_neg Bool.false_ne_true).trans (if_neg (by simp [Control.sync, control, hp]))
  have hrest := hu.settled.resting hm
  have hstill : t.stopStream.previewOnly = false := by
    rw [Bool.eq_false_iff, Ne, previewOnly_iff, hm]
    simp
  refine ⟨hm, hrest.unmanaged, hrest.closed, ?_, hu.running_eq.trans hstill, ?_⟩
  · rw [stopStream_release hstream hp]
    rfl
  · obtain ⟨i, hi⟩ := ht.settled.serving (m := .stream) (if_pos hstream)
    obtain ⟨r, hr⟩ := hi.exists_backend hi.manager
    have hclosed := close_of_opened (s := t.setActive .stream false) hr hi.manager hi.opened
    rw [custody_setActive] at hclosed
    refine ⟨i, hi.manager, ?_⟩
    rw [stopStream_release hstream hp]
    exact congrArg Custody.trace hclosed

theorem honoured_book {b : Booking} {more : List Effect} (hmore : Switches more)
    (ht : (s.book b more).Steady) (hsync : (s.book b more).control.Synced)
    (hstream : s.stream.active = true) :
    s.Honoured (s.book b more) (s.book b more).stopStream b.wanted b.preview where
  preview hwanted := by
    obtain ⟨hm, hopen, hopened, hsize⟩ := ht.stopStream_of_wanted hsync hstream hwanted
    exact ⟨hm, hopen, hopened, hsize,
      (undisturbed_book hmore b).reopened (reopened_stopStream ht.settled hwanted hstream)⟩
  idle hwanted := by
    obtain ⟨hm, hmanager, hopened, hcurrent, hstill, i, hi, htrace⟩ :=
      ht.stopStream_of_unwanted hsync hstream hwanted
    rw [trace_book hmore] at htrace
    exact ⟨hm, hmanager, hopened, hcurrent, hstill, i, hi, htrace⟩
  only := stopStream_book b more s

end Ending

end CaptureState

namespace ControllerBuilder

variable {β : Type} [Backend β]

end ControllerBuilder

end VideoCapture
