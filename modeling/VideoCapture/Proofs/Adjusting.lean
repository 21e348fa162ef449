import VideoCapture.Proofs.Conversation
import VideoCapture.Proofs.Session

/-!
# Sending adjustments

After a frame the open device is sent what the consumer that has it to itself has requested, as far
as the device is not known to be adjusted so already. While nobody or both are active nothing is
sent, and no request is recorded.

## Main definitions

* `Control.soleMode` — the consumer that has the device to itself.
* `Control.Synced` — the requests know who is active.
* `Trace.adjustments` — the calls that send some adjustments.
-/

namespace VideoCapture

/-- Adjustments sent one after the other to the backend at position `i`. -/
def Trace.adjustments (i : Nat) (changes : List (Adjustment × UInt32)) : Trace :=
  changes.map fun change => (i, Call.adjust change.1 change.2)

/-- What is sent counts, whatever the device answers. -/
theorem Trace.settings?_append_adjustments {t : Trace} {settings : AdjustmentSet}
    (h : t.settings? = some settings) (i : Nat) (changes : List (Adjustment × UInt32)) :
    (t ++ adjustments i changes).settings? = some (settings.setAll changes) := by
  induction changes generalizing t settings with
  | nil => simpa [adjustments] using h
  | cons change rest ih =>
    have hnext : (t ++ [(i, Call.adjust change.1 change.2)]).settings? =
        some (settings.set change.1 change.2) := by
      simp [Call.settle, h]
    rw [AdjustmentSet.setAll_cons, ← ih hnext]
    simp [adjustments]

/-- A request of one consumer does not reach the other. -/
theorem Requests.requested_request (r : Requests) (kind other : Adjustment) (value : UInt32)
    (m : Mode) :
    ((r.request kind value).pending m).requested other =
      if r.exclusiveMode = some m ∧ other = kind then some value
      else (r.pending m).requested other := by
  unfold request
  split
  · rename_i hx
    cases m with
    | preview =>
      by_cases hk : other = kind
      · simp [pending, hx, hk]
      · simp [pending, hk, AdjustmentRequests.requested_request_of_ne _ _ hk]
    | stream => simp [pending, hx]
  · rename_i hx
    cases m with
    | preview => simp [pending, hx]
    | stream =>
      by_cases hk : other = kind
      · simp [pending, hx, hk]
      · simp [pending, hk, AdjustmentRequests.requested_request_of_ne _ _ hk]
  · rename_i hx
    simp [hx]

namespace Control

/-- The consumer that has the device to itself, if any. -/
def soleMode (c : Control) : Option Mode :=
  match c.previewActive, c.streamActive with
  | true, false => some .preview
  | false, true => some .stream
  | _, _ => none

theorem activeMode_of_soleMode {c : Control} {m : Mode} (h : c.soleMode = some m) :
    c.activeMode = some m := by
  unfold soleMode at h
  split at h <;> simp_all [activeMode]

/-- The requests know who is active. -/
structure Synced (c : Control) : Prop where
  preview : c.requests.previewActive = c.previewActive
  stream : c.requests.streamActive = c.streamActive

theorem Synced.exclusiveMode_eq {c : Control} (h : c.Synced) :
    c.requests.exclusiveMode = c.soleMode := by
  cases hp : c.previewActive <;> cases hs : c.streamActive <;>
    simp [Requests.exclusiveMode, soleMode, h.preview, h.stream, hp, hs]

theorem synced_sync (c : Control) : c.sync.Synced := ⟨rfl, rfl⟩

theorem synced_initial (preview stream : Geometry) : (initial preview stream).Synced := ⟨rfl, rfl⟩

/-- Whatever switches consumers tells the requests. -/
theorem Synced.after {β : Type} {c : Control} (h : c.Synced) (op : Operation β) :
    (c.after op).Synced := by
  cases op with
  | startPreview | stopPreview | startStream | stopStream =>
    simp only [Control.after]
    split
    · first | exact h | exact synced_sync _
    · first | exact h | exact synced_sync _
  | adjust kind value =>
    simp only [Control.after, Requests.request]
    split
    · exact ⟨h.preview, h.stream⟩
    · exact ⟨h.preview, h.stream⟩
    · exact h
  | shutDown => exact synced_sync _
  | _ => exact ⟨h.preview, h.stream⟩

end Control

namespace CaptureState

variable {β : Type} [Backend β] {s : CaptureState β} {i : Nat} {m : Mode}

/-- Adjustments sent one after the other for a consumer. -/
theorem applyAdjustment_foldl (hi : i < s.backends.length) (changes : List (Adjustment × UInt32)) :
    let t := changes.foldl (fun s change => s.applyAdjustment i m change.1 change.2) s
    s.custody.Talked t.custody ∧ t.trace = s.trace ++ Trace.adjustments i changes ∧
      (t.mode m).settings = (s.mode m).settings.setAll changes := by
  induction changes generalizing s with
  | nil => exact ⟨.refl _, by simp [Trace.adjustments], rfl⟩
  | cons change rest ih =>
    let u := s.applyAdjustment i m change.1 change.2
    have htalked : s.custody.Talked u.custody := talked_applyAdjustment m change.1 change.2
    have htrace : u.trace = s.trace ++ [(i, Call.adjust change.1 change.2)] :=
      trace_applyAdjustment hi m change.1 change.2
    have hsettings : (u.mode m).settings = (s.mode m).settings.set change.1 change.2 := by
      have hsent : Converses Call.Adjusts none s (s.call i (Backend.adjust change.1 change.2)
          fun _ => Call.adjust change.1 change.2).2 := converses_call (fun _ => trivial) _ _ s
      show ((setSettings m _ _).mode m).settings = _
      rw [settings_setSettings, if_pos rfl, hsent.settings m (by simp)]
    have hlength : u.backends.length = s.backends.length := htalked.length
    obtain ⟨hrest, hcalls, hset⟩ := ih (s := u) (hlength ▸ hi)
    refine ⟨htalked.trans hrest, ?_, ?_⟩
    · rw [List.foldl_cons, hcalls, htrace]
      simp [Trace.adjustments]
    · rw [List.foldl_cons, hset, hsettings]
      rfl

/-- The consumer that has the device to itself gets what it requested. -/
theorem flushAdjustments_of_exclusive (hm : s.manager = some i) (hi : i < s.backends.length)
    (hx : s.requests.exclusiveMode = some m) :
    let changes := (s.requests.pending m).diff (s.mode m).settings
    s.custody.Talked s.flushAdjustments.custody ∧
      s.flushAdjustments.trace = s.trace ++ Trace.adjustments i changes ∧
      (s.flushAdjustments.mode m).settings = (s.mode m).settings.setAll changes := by
  simp only [flushAdjustments, hm, hx]
  exact applyAdjustment_foldl hi _

theorem flushAdjustments_of_not_exclusive (hx : s.requests.exclusiveMode = none) :
    s.flushAdjustments = s := by
  simp [flushAdjustments, hx]

end CaptureState

end VideoCapture
