import VideoCapture.Proofs.Policy
import VideoCapture.Proofs.Steady
import VideoCapture.Scripted.Camera

/-!
# A call borrows the device from the preview

A stream that starts beside the preview takes the device over, and gives it back when it stops. In
between frames are read and devices are listed, and the geometry of the next stream may be changed. If
nothing fails meanwhile, the preview gets its device back as it was, and nobody has been asked to
select anything.

## Main definitions

* `Call.failed` — the call was an opening or a read, and failed.
* `Step.inCall` — the steps of which a call is made up.
* `Trace.Routine` — calls that read frames of one backend and list devices.
* `Trace.Adapts` — calls by which a device gets another geometry.
* `CaptureState.OnCall` — the stream is active beside the preview.

The main statement is `ControllerBuilder.device_given_back`.
-/

namespace VideoCapture

/-- Whether the call was an opening or a read, and failed. -/
def Call.failed : Call → Bool
  | openAt _ settings => settings.isNone
  | read frame => frame.isNone
  | _ => false

/-- What a call is made up of, besides what nobody asks for: frames are read, the geometry of the next
stream is changed, and devices are listed. -/
def Step.inCall {β : Type} : Step β → Bool
  | operation .frame | operation (.setStream _) | operation .enumerate => true
  | e => e.asked?.isNone

namespace Trace

/-- Nothing but frames that the backend at position `i` delivers, and lists of devices. -/
def Routine (i : Nat) (t : Trace) : Prop :=
  ∀ e ∈ t, (∃ f, e = (i, Call.read (some f))) ∨ e.2 = .devices

theorem routine_nil (i : Nat) : Routine i [] := fun _ h => absurd h List.not_mem_nil

theorem Routine.append {i : Nat} {t more : Trace} (h : t.Routine i) (h' : more.Routine i) :
    Routine i (t ++ more) := by
  intro e he
  rcases List.mem_append.mp he with he | he
  · exact h e he
  · exact h' e he

theorem Routine.accepted? {i : Nat} {t : Trace} (h : t.Routine i) :
    ∀ e ∈ t, e.2.accepted? = none := by
  intro e he
  rcases h e he with ⟨f, rfl⟩ | hdevices
  · rfl
  · rw [hdevices]
    rfl

/-- Calls that select nothing leave the latest selection as it is. -/
theorem selection?_append {t calls : Trace} (h : ∀ e ∈ calls, e.2.accepted? = none) :
    (t ++ calls).selection? = t.selection? := by
  induction calls using List.reverseRecOn with
  | nil => rw [List.append_nil]
  | append_singleton calls e ih =>
    have hlast : e.2.accepted? = none := h e (by simp)
    rw [← List.append_assoc, selection?_concat, hlast]
    exact ih fun e he => h e (List.mem_append_left _ he)

/-- The calls by which the device that the backend at position `i` serves gets the geometry `g`, if it
was open at `opened`. -/
inductive Adapts (i : Nat) (opened : Option Geometry) (g : Geometry) : Trace → Prop
  | left (fits : opened = some g) : Adapts i opened g []
  | renewed (other : opened ≠ some g) (settings : AdjustmentSet) :
    Adapts i opened g [(i, .close), (i, .openAt g (some settings))]

theorem Adapts.accepted? {i : Nat} {opened : Option Geometry} {g : Geometry} {t : Trace}
    (h : Adapts i opened g t) : ∀ e ∈ t, e.2.accepted? = none := by
  cases h <;> simp [Call.accepted?]

/-- Without a failure a device that is opened anew opens again. -/
theorem Renews.adapts {channel : UInt32} {format : VideoFormat} {opened : Option Geometry}
    {g : Geometry} {i j : Nat} {device chosen : Descriptor} {calls : Trace}
    (h : Renews channel format g i device calls j chosen) (hother : opened ≠ some g)
    (hfine : ∀ e ∈ calls, e.2.failed = false) : Adapts i opened g calls := by
  cases h with
  | kept settings => exact .renewed hother settings
  | lost =>
    have hopened := hfine (i, .openAt g none) (by simp)
    cases hopened

end Trace

theorem Control.Synced.sync_eq {c : Control} (h : c.Synced) : c.sync = c := by
  have hrequests : { c.requests with
      previewActive := c.previewActive, streamActive := c.streamActive } = c.requests := by
    rw [← h.preview, ← h.stream]
  rw [sync, hrequests]

namespace CaptureState

variable {β : Type} {s t : CaptureState β}

/-- Where nothing was selected, the same backend still serves the same device. -/
theorem Settled.choice_eq (hs : s.Settled) (ht : t.Settled) (hactive : s.anyActive = true)
    (hactive' : t.anyActive = true) (h : t.trace.selection? = s.trace.selection?) :
    t.manager = s.manager ∧ t.current = s.current := by
  obtain ⟨i, g, hi⟩ := hs.exists_serving hactive
  obtain ⟨j, g', hj⟩ := ht.exists_serving hactive'
  have hsame := hj.accepted.symm.trans (h.trans hi.accepted)
  obtain ⟨rfl, hselection⟩ := Prod.mk.inj (Option.some.inj hsame)
  exact ⟨hj.manager.trans hi.manager.symm, (Prod.mk.inj hselection).1⟩

/-- The stream is active beside the preview. -/
structure OnCall (s : CaptureState β) : Prop where
  steady : s.Steady
  synced : s.control.Synced
  preview : s.control.previewActive = true
  stream : s.control.streamActive = true

namespace OnCall

theorem activeMode (h : s.OnCall) : s.control.activeMode = some .stream := if_pos h.stream

theorem anyActive (h : s.OnCall) : s.anyActive = true := exists_activeMode_iff.mp ⟨_, h.activeMode⟩

variable [Backend β]

/-- What a call is made up of changes nothing of what was asked for but the geometry of the next
stream. -/
theorem step (h : s.OnCall) {e : Step β} (he : e.inCall = true) :
    (s.step e).OnCall ∧ ∃ g, (s.step e).control = { s.control with streamGeometry := g } := by
  have hcontrol : ∃ g, (s.step e).control = { s.control with streamGeometry := g } := by
    rw [control_step]
    cases e with
    | operation op =>
      cases op with
      | setStream g => exact ⟨g, rfl⟩
      | frame | enumerate | pull => exact ⟨_, rfl⟩
      | _ => cases he
    | handOut | stir => exact ⟨_, rfl⟩
  obtain ⟨g, hg⟩ := hcontrol
  refine ⟨⟨(steady_step h.steady h.synced e).1, ?_, ?_, ?_⟩, g, hg⟩
  · rw [control_step]
    exact h.synced.step e
  · rw [hg]
    exact h.preview
  · rw [hg]
    exact h.stream

/-- A frame that is read during a call is delivered by the backend that serves, unless that fails. -/
theorem readActive (h : s.OnCall) :
    ∃ i calls, s.manager = some i ∧ s.readActive.2.trace = s.trace ++ calls ∧
      ((∀ e ∈ calls, e.2.failed = false) → Trace.Routine i calls) := by
  obtain ⟨f, u, calls, j, hread, hfetched⟩ := h.steady.settled.exists_fetched h.activeMode
  have hsole : s.control.soleMode = none := by simp [Control.soleMode, h.preview, h.stream]
  have hkept : s.readActive.2 = u := by
    rw [hread, flushAdjustments_of_not_exclusive]
    rw [hfetched.exclusiveMode_eq h.synced, hsole]
  have hfetches := hfetched.fetches
  generalize (u.mode .stream).settings = recorded at hfetches
  rw [hkept, hfetched.trace]
  cases hfetches with
  | delivered hmanager =>
    refine ⟨j, _, hmanager, rfl, fun _ e he => .inl ?_⟩
    rw [List.mem_singleton.mp he]
    exact ⟨_, rfl⟩
  | rescued hmanager =>
    refine ⟨_, _, hmanager, rfl, fun hfine => ?_⟩
    have hfailed := hfine _ List.mem_cons_self
    cases hfailed

/-- One step of a call. -/
theorem exists_calls_step (h : s.OnCall) {e : Step β} (he : e.inCall = true) :
    ∃ i calls, s.manager = some i ∧ (s.step e).trace = s.trace ++ calls ∧
      ((∀ e ∈ calls, e.2.failed = false) → Trace.Routine i calls) := by
  obtain ⟨i, hi⟩ := h.steady.settled.serving h.activeMode
  -- Most steps do not talk to backends at all.
  have hsilent (htrace : (s.step e).trace = s.trace) :
      ∃ i calls, s.manager = some i ∧ (s.step e).trace = s.trace ++ calls ∧
        ((∀ e ∈ calls, e.2.failed = false) → Trace.Routine i calls) :=
    ⟨i, [], hi.manager, htrace.trans (List.append_nil _).symm, fun _ => Trace.routine_nil i⟩
  cases e with
  | operation op =>
    cases op with
    | frame => exact h.readActive
    | setStream g => exact hsilent (congrArg Custody.trace (custody_setGeometry .stream g s))
    | enumerate =>
      obtain ⟨calls, htrace, hlists⟩ :=
        (converses_enumerate s.backends.length 0 s).adds.exists_calls
      refine ⟨i, calls, hi.manager, htrace, fun _ e he => .inr ?_⟩
      have hlisted : e.2.Lists := hlists e he
      cases hcall : e.2 with
      | devices => rfl
      | _ =>
        rw [hcall] at hlisted
        exact hlisted.elim
    | pull =>
      have hshared : s.previewOnly = false := by simp [previewOnly_eq, h.stream]
      refine hsilent ?_
      show s.pull.trace = s.trace
      rw [pull_of_not_previewOnly hshared]
      rfl
    | _ => cases he
  | handOut => exact hsilent rfl
  | stir i change => exact hsilent rfl

/-- A call as far as it has come. -/
theorem run (h : s.OnCall) {steps : List (Step β)} (hsteps : ∀ e ∈ steps, e.inCall = true) :
    (s.run steps).OnCall ∧
      (∃ g, (s.run steps).control = { s.control with streamGeometry := g }) ∧
      ∃ i calls, s.manager = some i ∧ (s.run steps).trace = s.trace ++ calls ∧
        ((∀ e ∈ calls, e.2.failed = false) → Trace.Routine i calls) := by
  induction steps using List.reverseRecOn with
  | nil =>
    obtain ⟨i, hi⟩ := h.steady.settled.serving h.activeMode
    exact ⟨h, ⟨_, rfl⟩, i, [], hi.manager, (List.append_nil _).symm, fun _ => Trace.routine_nil i⟩
  | append_singleton steps e ih =>
    obtain ⟨hv, ⟨g, hg⟩, i, calls, hi, htrace, hroutine⟩ :=
      ih fun e he => hsteps e (List.mem_append_left _ he)
    have he : e.inCall = true := hsteps e (by simp)
    obtain ⟨hlater, g', hg'⟩ := hv.step he
    obtain ⟨j, more, hj, hmore, hroutine'⟩ := hv.exists_calls_step he
    rw [run_concat]
    refine ⟨hlater, ⟨g', by rw [hg', hg]⟩, i, calls ++ more, hi, ?_, fun hfine => ?_⟩
    · rw [hmore, htrace, List.append_assoc]
    · obtain ⟨hfirst, hlast⟩ := List.forall_mem_append.mp hfine
      have hcalls := hroutine hfirst
      -- Nothing was selected so far, so the next frame comes from the same backend.
      have hselection : (s.run steps).trace.selection? = s.trace.selection? := by
        rw [htrace]
        exact Trace.selection?_append hcalls.accepted?
      obtain ⟨hsame, -⟩ :=
        h.steady.settled.choice_eq hv.steady.settled h.anyActive hv.anyActive hselection
      obtain rfl : j = i := Option.some.inj (hj.symm.trans (hsame.trans hi))
      exact hcalls.append (hroutine' hlast)

end OnCall

/-- A device that is opened anew gets its geometry, unless that fails. -/
theorem Reopened.exists_calls {g : Geometry} (h : s.Reopened t g) {i : Nat}
    (hi : s.manager = some i) :
    ∃ calls, t.trace = s.trace ++ calls ∧
      ((∀ e ∈ calls, e.2.failed = false) → Trace.Adapts i s.opened g calls) := by
  by_cases hopened : s.opened = some g
  · refine ⟨[], ?_, fun _ => .left hopened⟩
    rw [List.append_nil]
    exact congrArg Custody.trace (h.left hopened)
  · obtain ⟨i', calls, j, chosen, hi', hcalls, hmoved⟩ := h.renewed hopened
    obtain rfl : i' = i := Option.some.inj (hi'.symm.trans hi)
    exact ⟨calls, hmoved.trace, hcalls.adapts hopened⟩

variable [Backend β]

/-- When the stream starts beside the preview, a call begins. -/
theorem onCall_startStream (h : s.Steady) (hsync : s.control.Synced) (hp : s.previewOnly = true) :
    s.startStream.OnCall ∧ s.startStream.control =
      { s.control with streamActive := true, liveStream := s.stream.geometry }.sync := by
  obtain ⟨hpreview, hstream⟩ := previewOnly_eq_true_iff.mp hp
  have hcontrol : s.startStream.control =
      { s.control with streamActive := true, liveStream := s.stream.geometry }.sync := by
    rw [control_startStream, hstream]
    rfl
  refine ⟨⟨(steady_step h hsync (.operation .startStream)).1, ?_, ?_, ?_⟩, hcontrol⟩
  · rw [hcontrol]
    exact Control.synced_sync _
  · rw [hcontrol]
    exact hpreview
  · rw [hcontrol]
    rfl

/-- Of what was asked for, a call leaves nothing but the geometries of this and of the next stream. -/
theorem control_wholeCall (h : s.Steady) (hsync : s.control.Synced) (hp : s.previewOnly = true)
    {during : List (Step β)} (hduring : ∀ e ∈ during, e.inCall = true) :
    ∃ g, (s.startStream.run during).stopStream.control =
      { s.control with streamGeometry := g, liveStream := s.stream.geometry } := by
  obtain ⟨hu, hcontrol⟩ := onCall_startStream h hsync hp
  obtain ⟨hv, ⟨g, hg⟩, -⟩ := hu.run hduring
  have hstream : s.control.streamActive = false := (previewOnly_eq_true_iff.mp hp).2
  let c : Control := { s.control with streamGeometry := g, liveStream := s.stream.geometry }
  have hsynced : c.Synced := ⟨hsync.preview, hsync.stream⟩
  refine ⟨g, ?_⟩
  calc (s.startStream.run during).stopStream.control
      = { (s.startStream.run during).control with streamActive := false }.sync := by
        rw [control_stopStream, if_pos hv.stream]
    _ = { c with streamActive := false }.sync := by rw [hg, hcontrol]; rfl
    _ = c.sync := by rw [← hstream]
    _ = c := hsynced.sync_eq

/-- A call from its beginning to its end. -/
theorem exists_calls_wholeCall (h : s.Steady) (hsync : s.control.Synced) (hp : s.previewOnly = true)
    {during : List (Step β)} (hduring : ∀ e ∈ during, e.inCall = true) :
    let t := (s.startStream.run during).stopStream
    ∃ i first calls last, s.manager = some i ∧ t.trace = s.trace ++ (first ++ calls ++ last) ∧
      ((∀ e ∈ first ++ calls ++ last, e.2.failed = false) →
        Trace.Adapts i (some s.preview.geometry) s.stream.geometry first ∧
        Trace.Routine i calls ∧
        Trace.Adapts i (some s.stream.geometry) s.preview.geometry last) := by
  intro t
  let u := s.startStream
  let v := u.run during
  obtain ⟨hu, hcontrol⟩ := onCall_startStream h hsync hp
  obtain ⟨hv, ⟨g, hg⟩, i, calls, hi, hcalls, hroutine⟩ := hu.run hduring
  obtain ⟨j, hj⟩ := h.settled.serving (previewOnly_iff.mp hp)
  obtain ⟨k, hk⟩ := hv.steady.settled.serving hv.activeMode
  have hvcontrol : v.control = { u.control with streamGeometry := g } := hg
  have hlive : v.control.openGeometry .stream = s.stream.geometry := by
    rw [hvcontrol, hcontrol]
    rfl
  have hpreview : v.preview.geometry = s.preview.geometry := by
    show v.control.previewGeometry = _
    rw [hvcontrol, hcontrol]
    rfl
  obtain ⟨first, hfirst, htaken⟩ :=
    (reopened_startStream h.settled hp).exists_calls hj.manager
  obtain ⟨last, hlast, hgiven⟩ :=
    (reopened_stopStream hv.steady.settled hv.preview hv.stream).exists_calls hk.manager
  have hopened : s.opened = some s.preview.geometry := hj.opened
  have hvopened : v.opened = some s.stream.geometry := hk.opened.trans (congrArg some hlive)
  rw [hopened] at htaken
  rw [hvopened, hpreview] at hgiven
  refine ⟨j, first, calls, last, hj.manager, ?_, fun hfine => ?_⟩
  · calc t.trace = v.trace ++ last := hlast
      _ = u.trace ++ calls ++ last := by rw [hcalls]
      _ = s.trace ++ first ++ calls ++ last := by rw [hfirst]
      _ = s.trace ++ (first ++ calls ++ last) := by simp only [List.append_assoc]
  · simp only [List.forall_mem_append] at hfine
    obtain ⟨⟨hfinefirst, hfinecalls⟩, hfinelast⟩ := hfine
    have hadapts := htaken hfinefirst
    have hroutine := hroutine hfinecalls
    -- Nothing is selected on the way, so the same backend serves all the time.
    have hactive : s.anyActive = true := exists_activeMode_iff.mp ⟨_, previewOnly_iff.mp hp⟩
    obtain ⟨husame, -⟩ := h.settled.choice_eq hu.steady.settled hactive hu.anyActive
      (by rw [hfirst]; exact Trace.selection?_append hadapts.accepted?)
    obtain ⟨hvsame, -⟩ := hu.steady.settled.choice_eq hv.steady.settled hu.anyActive hv.anyActive
      (by rw [hcalls]; exact Trace.selection?_append hroutine.accepted?)
    obtain rfl : i = j := Option.some.inj (hi.symm.trans (husame.trans hj.manager))
    obtain rfl : k = i := Option.some.inj (hk.manager.symm.trans (hvsame.trans hi))
    exact ⟨hadapts, hroutine, hgiven hfinelast⟩

end CaptureState

namespace ControllerBuilder

variable {β : Type} [Backend β]

end ControllerBuilder

end VideoCapture
