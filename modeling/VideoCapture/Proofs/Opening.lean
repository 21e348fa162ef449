import VideoCapture.Proofs.Conversation
import VideoCapture.Proofs.Run

/-!
# At which geometry a device is opened

The log tells at every opening whether the stream was active. While it was, the device is opened at
the geometry that was set for the stream when it last started, and otherwise at the geometry that
was last set for the preview.

## Main definitions

* `streaming` — whether a log ends with an active stream.
* `Effect.OpensOnlyAt` — an effect that switches no consumer, and opens nothing but at a geometry.
* `CaptureState.Grows` — between two states nothing was opened but at one geometry.
* `ControllerBuilder.Latched` — the geometry that was set for the stream when it last started.

The main statement is `ControllerBuilder.geometry_law`.
-/

namespace VideoCapture

/-- Whether the stream is active at the end of a log. -/
def streaming (log : List Effect) : Bool :=
  log.foldl
    (fun active e =>
      match e with
      | .switched .stream active => active
      | _ => active)
    false

namespace Effect

/-- The effect switches no consumer, and it opens nothing but at `g`. -/
def OpensOnlyAt (g : Geometry) : Effect → Prop
  | called _ (.openAt h _) => h = g
  | switched .. => False
  | _ => True

/-- The effect opens nothing. -/
def OpensNothing : Effect → Prop
  | called _ (.openAt ..) => False
  | _ => True

end Effect

@[simp] theorem streaming_concat_switched_stream (log : List Effect) (active : Bool) :
    streaming (log ++ [.switched .stream active]) = active := by
  simp [streaming]

@[simp] theorem streaming_concat_switched_preview (log : List Effect) (active : Bool) :
    streaming (log ++ [.switched .preview active]) = streaming log := by
  simp [streaming]

theorem streaming_concat_of_opensOnlyAt {g : Geometry} {e : Effect} (h : e.OpensOnlyAt g)
    (log : List Effect) : streaming (log ++ [e]) = streaming log := by
  cases e with
  | switched => exact h.elim
  | _ => simp [streaming]

theorem streaming_append_of_opensOnlyAt {g : Geometry} {more : List Effect}
    (h : ∀ e ∈ more, e.OpensOnlyAt g) (log : List Effect) :
    streaming (log ++ more) = streaming log := by
  induction more generalizing log with
  | nil => simp
  | cons e rest ih =>
    have hrest := ih (fun f hf => h f (List.mem_cons_of_mem e hf)) (log ++ [e])
    rw [List.append_cons, hrest]
    exact streaming_concat_of_opensOnlyAt (h e List.mem_cons_self) log

namespace Control

/-- The geometry at which a device is opened now: that of the stream while it is active, and that of
the preview otherwise. -/
def opening (c : Control) : Geometry :=
  if c.streamActive then c.liveStream else c.previewGeometry

theorem openGeometry_of_activeMode {c : Control} {m : Mode} (h : c.activeMode = some m) :
    c.openGeometry m = c.opening := by
  unfold activeMode at h
  cases m <;> grind [opening, openGeometry]

theorem openGeometry_stream {c : Control} (h : c.streamActive = true) :
    c.openGeometry .stream = c.opening := by
  simp [opening, openGeometry, h]

theorem openGeometry_preview {c : Control} (h : c.streamActive = false) :
    c.openGeometry .preview = c.opening := by
  simp [opening, openGeometry, h]

end Control

namespace CaptureState

variable {β : Type}

/-- From one state to the other nobody was switched, and nothing was opened but at `g`. -/
abbrev Grows (g : Geometry) (s t : CaptureState β) : Prop := Adds (Effect.OpensOnlyAt g) s t

variable {P : Effect → Prop} {g : Geometry} {s t u : CaptureState β}

/-- What is repeated in a loop may be looked at once; the geometry is that of the callers' side. -/
theorem grows_foldl {α : Type} {f : CaptureState β → α → CaptureState β}
    (hc : ∀ s a, (f s a).control = s.control) (hg : ∀ s a, Grows s.control.opening s (f s a))
    (l : List α) (s : CaptureState β) : Grows s.control.opening s (l.foldl f s) := by
  induction l generalizing s with
  | nil => exact .refl s
  | cons a rest ih =>
    have hrest := ih (f s a)
    rw [hc] at hrest
    exact (hg s a).trans hrest

theorem Grows.streaming_eq (h : Grows g s t) : streaming t.log = streaming s.log := by
  obtain ⟨more, hmore, heach⟩ := h
  rw [hmore]
  exact streaming_append_of_opensOnlyAt heach s.log

/-! ## Steps that open nothing -/

theorem grows_setSettings (m : Mode) (settings : AdjustmentSet) (s : CaptureState β) :
    Grows g s (s.setSettings m settings) :=
  adds_of_log (by cases m <;> rfl)

theorem grows_setGeometry (m : Mode) (h : Geometry) (s : CaptureState β) :
    Grows g s (s.setGeometry m h) :=
  adds_of_log (by cases m <;> rfl)

theorem grows_raise (n : Notification) (s : CaptureState β) : Grows g s (s.raise n) :=
  adds_note (e := .raised n) trivial { s with outbox := s.outbox ++ [n] }

theorem grows_startLoop (s : CaptureState β) : Grows g s s.startLoop := by
  unfold startLoop
  split
  · exact .refl s
  · exact (adds_of_log rfl).trans (adds_note (by trivial) _)

/-- A conversation opens nothing but at `g` if none of its calls does. -/
theorem Converses.grows {P : Call → Prop} {who : Option Mode} (h : Converses P who s t)
    (hP : ∀ h settings, P (.openAt h settings) → h = g) : Grows g s t := by
  refine h.adds.mono fun e he => ?_
  cases e with
  | called i c =>
    cases c with
    | openAt h settings => exact hP h settings he
    | _ => trivial
  | raised => trivial
  | _ => exact he.elim

theorem Converses.grows_of_isPlain {who : Option Mode} (h : Converses Call.IsPlain who s t) :
    Grows g s t :=
  h.grows fun _ _ => False.elim

theorem Converses.grows_of_opens {who : Option Mode} (h : Converses (Call.Opens g) who s t) :
    Grows g s t :=
  h.grows fun _ _ => id

theorem Converses.grows_of_adjusts {who : Option Mode} (h : Converses Call.Adjusts who s t) :
    Grows g s t :=
  h.grows fun _ _ => False.elim

/-! ## The order of switching and opening -/

/-- The log agrees with the callers' side about the stream. -/
def Tracked (s : CaptureState β) : Prop := streaming s.log = s.control.streamActive

/-- First consumers are switched until the stream is as `c` has it, and nothing is opened; then
nobody is switched any more, and what is opened is opened as `c` has it. -/
def Acts (c : Control) (s t : CaptureState β) : Prop :=
  ∃ u, Adds Effect.OpensNothing s u ∧ streaming u.log = c.streamActive ∧ Grows c.opening u t

theorem acts_of_grows {c : Control} (h : s.Tracked)
    (hc : c.streamActive = s.control.streamActive) (hg : Grows c.opening s t) : Acts c s t :=
  ⟨s, .refl s, h.trans hc.symm, hg⟩

theorem Acts.streaming_eq {c : Control} (h : Acts c s t) :
    streaming t.log = c.streamActive := by
  obtain ⟨u, -, hstream, hgrows⟩ := h
  exact hgrows.streaming_eq.trans hstream

/-- Where something is opened, the consumers have been switched, and the geometry is the right one.
-/
theorem Acts.opens {c : Control} (h : Acts c s t) :
    ∃ more, t.log = s.log ++ more ∧
      ∀ before i g r after, more = before ++ .called i (.openAt g r) :: after →
        streaming (s.log ++ before) = c.streamActive ∧ g = c.opening := by
  obtain ⟨u, ⟨switches, hswitches, hquiet⟩, hstream, ⟨rest, hrest, heach⟩⟩ := h
  refine ⟨switches ++ rest, by rw [hrest, hswitches, List.append_assoc], ?_⟩
  intro before i g r after heq
  rcases append_eq_append_cons heq with ⟨between, rfl, rfl⟩ | ⟨late, rfl, -⟩
  swap
  · -- Nothing is opened while consumers are switched.
    exact (hquiet (.called i (.openAt g r)) (by simp)).elim
  refine ⟨?_, heach (.called i (.openAt g r)) (by simp)⟩
  rw [← List.append_assoc, ← hswitches]
  have hbetween : ∀ e ∈ between, e.OpensOnlyAt c.opening :=
    fun e he => heach e (List.mem_append_left _ he)
  exact (streaming_append_of_opensOnlyAt hbetween u.log).trans hstream

section Calls

variable [Backend β]

/-! ## Parts of operations -/

theorem grows_readActive {s : CaptureState β} (h : s.control.opening = g) :
    Grows g s s.readActive.2 := by
  cases hm : s.control.activeMode with
  | none =>
    rw [readActive_of_idle hm]
    exact .refl s
  | some m =>
    have hgeometry : s.control.openGeometry m = g :=
      (Control.openGeometry_of_activeMode hm).trans h
    have hread : Grows g s s.read.2 := (converses_read s).grows_of_isPlain
    rw [readActive_of_activeMode hm]
    split
    · exact hread.trans (converses_flushAdjustments _).grows_of_adjusts
    · have hfallback : Grows g s.read.2 (s.read.2.readFallback m).2 :=
        (converses_readFallback (by simpa using hgeometry)).grows_of_opens
      exact (hread.trans hfallback).trans (converses_flushAdjustments _).grows_of_adjusts

theorem grows_pull {s : CaptureState β} (h : s.control.opening = g) : Grows g s s.pull := by
  let t := { s with loop := { s.loop with due := false } }
  have hread : Grows g s t.readActive.2 := (adds_of_log rfl).trans (grows_readActive (s := t) h)
  simp only [pull]
  split
  · split
    · rename_i frame u hu
      have hu' : t.readActive.2 = u := by rw [hu]
      exact (hu' ▸ hread).trans (adds_note (by trivial) _)
    · rename_i u hu
      have hu' : t.readActive.2 = u := by rw [hu]
      exact hu' ▸ hread
  · exact adds_of_log rfl

theorem grows_swap (device : Descriptor) {s : CaptureState β} (h : s.control.opening = g) :
    Grows g s (s.swap device) := by
  let u := if s.previewOnly then s.stopLoop else s
  let v := if u.anyActive then u.close else u
  let w := v.select device
  let x := if s.previewOnly then (w.openFor .preview).startLoop else w
  have hu : Grows g s u ∧ u.control = s.control := by
    dsimp only [u]
    split
    · exact ⟨adds_stopLoop trivial s, control_stopLoop s⟩
    · exact ⟨.refl s, rfl⟩
  have hv : Grows g s v ∧ v.control = s.control := by
    dsimp only [v]
    split
    · exact ⟨hu.1.trans (converses_close u).grows_of_isPlain, (control_close u).trans hu.2⟩
    · exact hu
  have hw : Grows g s w ∧ w.control = s.control :=
    ⟨hv.1.trans (converses_select device v).grows_of_isPlain, (control_select device v).trans hv.2⟩
  have hx : Grows g s x ∧ x.control = s.control := by
    dsimp only [x]
    split
    · rename_i honly
      rw [previewOnly_eq] at honly
      have hstream : s.control.streamActive = false := by grind
      have hgeometry : w.control.openGeometry .preview = g := by
        rw [hw.2, Control.openGeometry_preview hstream, h]
      refine
        ⟨(hw.1.trans (converses_openFor hgeometry).grows_of_opens).trans (grows_startLoop _), ?_⟩
      rw [control_startLoop, control_openFor, hw.2]
    · exact hw
  show Grows g s (if x.stream.active then x.openFor .stream else x)
  split
  · rename_i hactive
    have hstream : s.control.streamActive = true := hx.2 ▸ hactive
    refine hx.1.trans (converses_openFor ?_).grows_of_opens
    rw [hx.2, Control.openGeometry_stream hstream, h]
  · exact hx.1

/-! ## Operations -/

theorem acts_setDevice {s : CaptureState β} (h : s.Tracked) (device : Descriptor)
    (channel : UInt32) (format : VideoFormat) :
    Acts (s.control.after (.setDevice device channel format : Operation β)) s
      (s.setDevice device channel format) := by
  let t := { s with desired := device, channel := channel, format := format }
  refine acts_of_grows h rfl (Adds.trans (t := t) (adds_of_log rfl) ?_)
  show Grows _ t (if t.anyActive then t.swap device else t)
  split
  · exact grows_swap device rfl
  · exact .refl t

theorem acts_setPreview {s : CaptureState β} (h : s.Tracked) (g : Geometry) :
    Acts (s.control.after (.setPreview g : Operation β)) s (s.setPreview g) := by
  refine acts_of_grows h rfl ?_
  unfold setPreview
  split
  · rename_i hcond
    have hstream : s.control.streamActive = false := by
      simp only [Bool.and_eq_true, previewOnly_eq] at hcond
      simpa using hcond.1.2
    refine Adds.trans ?_ (grows_startLoop _)
    refine Adds.trans ?_ (converses_openFor ?_).grows_of_opens
    · refine Adds.trans ?_ (grows_setGeometry _ _ _)
      exact (adds_stopLoop (by trivial) s).trans (converses_close _).grows_of_isPlain
    · simp [control_setGeometry_preview, Control.after, Control.opening, Control.openGeometry,
        hstream]
  · exact grows_setGeometry _ _ _

/-- A consumer that becomes active finds the desired device, if need be, and opens it. -/
theorem grows_activate {m : Mode} {s : CaptureState β} (h : s.control.openGeometry m = g) :
    Grows g s (s.selectDesiredIfNeeded.openFor m) :=
  (converses_selectDesiredIfNeeded s).grows_of_isPlain.trans
    (converses_openFor (by simpa using h)).grows_of_opens

/-- A consumer that takes the device over has it opened anew. -/
theorem grows_reopen {m : Mode} {s : CaptureState β} (h : s.control.openGeometry m = g) :
    Grows g s (s.close.openFor m) :=
  (converses_close s).grows_of_isPlain.trans
    (converses_openFor (by simpa using h)).grows_of_opens

theorem acts_startPreview {s : CaptureState β} (h : s.Tracked) :
    Acts (s.control.after (.startPreview : Operation β)) s s.startPreview := by
  simp only [startPreview, Control.after]
  split
  · rename_i hp
    rw [if_pos (show s.preview.active = true from hp)]
    exact acts_of_grows h rfl (.refl s)
  · rename_i hp
    rw [if_neg (show ¬ s.preview.active = true from hp)]
    refine ⟨s.setActive .preview true, adds_setActive trivial s, ?_, ?_⟩
    · exact (streaming_concat_switched_preview s.log true).trans h
    · refine Adds.trans ?_ (adds_of_log rfl)
      split
      · exact .refl _
      · rename_i hs
        have hs : s.control.streamActive = false := Bool.eq_false_iff.mpr hs
        refine (grows_activate ?_).trans (grows_startLoop _)
        rw [control_setActive_preview]
        exact Control.openGeometry_preview hs

theorem acts_stopPreview {s : CaptureState β} (h : s.Tracked) :
    Acts (s.control.after (.stopPreview : Operation β)) s s.stopPreview := by
  simp only [stopPreview, Control.after]
  split
  · rename_i hp
    rw [if_pos (show s.preview.active = true from hp)]
    refine ⟨s.setActive .preview false, adds_setActive trivial s, ?_, ?_⟩
    · exact (streaming_concat_switched_preview s.log false).trans h
    · refine Adds.trans ?_ (adds_of_log rfl)
      split
      · exact .refl _
      · exact (adds_stopLoop (by trivial) _).trans (converses_release _).grows_of_isPlain
  · rename_i hp
    rw [if_neg (show ¬ s.preview.active = true from hp)]
    exact acts_of_grows h rfl (.refl s)

theorem acts_startStream {s : CaptureState β} (h : s.Tracked) :
    Acts (s.control.after (.startStream : Operation β)) s s.startStream := by
  let t := { s with liveStream := s.stream.geometry }
  simp only [startStream, Control.after]
  split
  · rename_i hs
    rw [if_pos (show s.stream.active = true from hs)]
    exact acts_of_grows h rfl (.refl s)
  · rename_i hs
    rw [if_neg (show ¬ s.stream.active = true from hs)]
    split
    · let u := t.stopLoop.setActive .stream true
      have hcontrol : u.control = { t.control with streamActive := true } := by
        simp [u, control_setActive_stream]
      refine ⟨u, ?_, streaming_concat_switched_stream _ true, ?_⟩
      · exact ((adds_of_log rfl).trans (adds_stopLoop trivial t)).trans (adds_setActive trivial _)
      · refine Adds.trans ?_ (adds_of_log rfl)
        split
        · exact grows_setSettings _ _ u
        · exact grows_reopen (m := .stream) (by rw [hcontrol]; rfl)
    · refine ⟨t.setActive .stream true, ?_, streaming_concat_switched_stream _ true, ?_⟩
      · exact (adds_of_log rfl).trans (adds_setActive trivial t)
      · exact (grows_activate (m := .stream) rfl).trans (adds_of_log rfl)

theorem acts_stopStream {s : CaptureState β} (h : s.Tracked) :
    Acts (s.control.after (.stopStream : Operation β)) s s.stopStream := by
  simp only [stopStream, Control.after]
  split
  · rename_i hs
    rw [if_pos (show s.stream.active = true from hs)]
    refine ⟨s.setActive .stream false, adds_setActive trivial s,
      streaming_concat_switched_stream s.log false, ?_⟩
    refine Adds.trans ?_ (adds_of_log rfl)
    split
    · refine Adds.trans ?_ (grows_startLoop _)
      split
      · exact grows_setSettings _ _ _
      · exact grows_reopen (m := .preview) rfl
    · exact (converses_release _).grows_of_isPlain
  · rename_i hs
    rw [if_neg (show ¬ s.stream.active = true from hs)]
    exact acts_of_grows h rfl (.refl s)

theorem acts_shutDown (s : CaptureState β) :
    Acts (s.control.after (.shutDown : Operation β)) s s.shutDown := by
  refine ⟨(s.stopLoop.setActive .preview false).setActive .stream false, ?_,
    streaming_concat_switched_stream _ false,
    (converses_release _).grows_of_isPlain.trans (adds_of_log rfl)⟩
  exact ((adds_stopLoop trivial s).trans (adds_setActive trivial _)).trans
    (adds_setActive trivial _)

theorem grows_addDevice (s : CaptureState β) (device : Descriptor) :
    Grows s.control.opening s (s.addDevice device) := by
  simp only [addDevice]
  refine Adds.trans ?_ (grows_raise _ _)
  split
  · exact grows_swap device rfl
  · exact .refl s

theorem grows_removeDevice (s : CaptureState β) (device : Descriptor) :
    Grows s.control.opening s (s.removeDevice device) := by
  simp only [removeDevice]
  refine Adds.trans ?_ (grows_raise _ _)
  split
  · exact grows_swap Descriptor.fallback rfl
  · exact .refl s

/-- Every operation first switches and then opens. -/
theorem acts_operate {s : CaptureState β} (h : s.Tracked) (op : Operation β) :
    Acts (s.control.after op) s (s.operate op).2 := by
  cases op with
  | setDevice device channel format => exact acts_setDevice h device channel format
  | setPreview g => exact acts_setPreview h g
  | setStream g => exact acts_of_grows h rfl (grows_setGeometry .stream g s)
  | startPreview => exact acts_startPreview h
  | stopPreview => exact acts_stopPreview h
  | startStream => exact acts_startStream h
  | stopStream => exact acts_stopStream h
  | frame => exact acts_of_grows h rfl (grows_readActive rfl)
  | pull => exact acts_of_grows h rfl (grows_pull rfl)
  | adjust => exact acts_of_grows h rfl (adds_of_log rfl)
  | addDevice =>
    exact acts_of_grows h rfl (grows_foldl control_addDevice grows_addDevice _ s)
  | removeDevice =>
    exact acts_of_grows h rfl (grows_foldl control_removeDevice grows_removeDevice _ s)
  | addBackend b => exact acts_of_grows h rfl (adds_of_log rfl)
  | enumerate => exact acts_of_grows h rfl ((converses_enumerate _ 0 s).grows fun _ _ => False.elim)
  | mode => exact acts_of_grows h rfl (.refl s)
  | shutDown => exact acts_shutDown s

end Calls

end CaptureState

end VideoCapture
