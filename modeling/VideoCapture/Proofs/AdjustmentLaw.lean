import VideoCapture.Proofs.Steady

/-!
# Adjustments reach the device

A request counts for the consumer that has the device to itself when it is made, and for nobody if
there is none. Whenever a frame is read for that consumer alone, the device is sent whatever was
requested last and is not in force; nothing else ever adjusts a device. So nothing is sent twice,
unless the device has been opened anew in between.

## Main definitions

* `ControllerBuilder.wanted` — what was requested last.
* `Step.readsFor` — a step that reads a frame for a consumer.
* `CaptureState.Sends` — what such a step sends.
* `CaptureState.Satisfied` — nothing is left to be sent.

The main statement is `ControllerBuilder.adjustments_delivered`.
-/

namespace VideoCapture

namespace Step

variable {β : Type}

/-- The adjustment that a step asks for, if it does. -/
def adjustment? : Step β → Option (Adjustment × UInt32)
  | operation (.adjust kind value) => some (kind, value)
  | _ => none

theorem eq_of_adjustment? {e : Step β} {kind : Adjustment} {value : UInt32}
    (h : e.adjustment? = some (kind, value)) : e = operation (.adjust kind value) := by
  cases e with
  | operation op =>
    cases op with
    | adjust =>
      obtain ⟨rfl, rfl⟩ := Prod.mk.inj (Option.some.inj h)
      rfl
    | _ => cases h
  | handOut => cases h
  | stir => cases h

/-- Whether a step reads a frame for the consumer that has the device to itself. A pull of the
preview loop only reads for the preview. -/
def readsFor (m : Mode) : Step β → Bool
  | operation .frame => true
  | operation .pull => m = .preview
  | _ => false

end Step

/-! ## What is requested -/

namespace Control

variable {β : Type} {c : Control}

/-- Only a setter changes what is requested. -/
theorem pending_step {e : Step β} (h : e.adjustment? = none) (m : Mode) :
    (c.step e).requests.pending m = c.requests.pending m := by
  cases e with
  | operation op =>
    cases op with
    | startPreview | stopPreview | startStream | stopStream =>
      simp only [step, after]
      split <;> cases m <;> rfl
    | adjust => simp [Step.adjustment?] at h
    | shutDown => cases m <;> rfl
    | _ => rfl
  | handOut => rfl
  | stir => rfl

/-- A setter requests its value for the consumer that has the device to itself. -/
theorem requested_adjust (h : c.Synced) (kind other : Adjustment) (value : UInt32) (m : Mode) :
    ((c.after (.adjust kind value : Operation β)).requests.pending m).requested other =
      if c.soleMode = some m ∧ other = kind then some value
      else (c.requests.pending m).requested other := by
  rw [← h.exclusiveMode_eq]
  exact Requests.requested_request c.requests kind other value m

end Control

namespace CaptureState

variable {β : Type}

/-- The value that a step requests of an adjustment for a consumer, if it does. -/
def requests? (m : Mode) (kind : Adjustment) (moment : CaptureState β × Step β) : Option UInt32 :=
  match moment.2.adjustment? with
  | some (other, value) =>
    if moment.1.control.soleMode = some m ∧ kind = other then some value else none
  | none => none

/-- A step changes what is requested as it asks. -/
theorem requested_step [Backend β] {s : CaptureState β} (h : s.control.Synced) (e : Step β)
    (m : Mode) (kind : Adjustment) :
    ((s.step e).requests.pending m).requested kind =
      (requests? m kind (s, e)).or ((s.requests.pending m).requested kind) := by
  have hstep : (s.step e).requests = (s.control.step e).requests :=
    congrArg Control.requests (s.control_step e)
  rw [hstep]
  cases he : e.adjustment? with
  | none =>
    have hnone : requests? m kind (s, e) = none := by simp [requests?, he]
    rw [Control.pending_step he, hnone]
    rfl
  | some request =>
    obtain ⟨other, value⟩ := request
    obtain rfl := Step.eq_of_adjustment? he
    rw [Control.step, Control.requested_adjust h]
    by_cases hcounts : s.control.soleMode = some m ∧ kind = other
    · have hsome : requests? m kind (s, .operation (.adjust other value)) = some value :=
        if_pos hcounts
      rw [if_pos hcounts, hsome]
      rfl
    · have hnone : requests? m kind (s, .operation (.adjust other value)) = none :=
        if_neg hcounts
      rw [if_neg hcounts, hnone]
      rfl

end CaptureState

namespace ControllerBuilder

variable {β : Type} [Backend β] (builder : ControllerBuilder β)

/-- The value that was last requested of an adjustment for a consumer, if any was: the argument of
the last setter that was called while the consumer had the device to itself. -/
def wanted (steps : List (Step β)) (m : Mode) (kind : Adjustment) : Option UInt32 :=
  ((builder.start.moments steps).filterMap (CaptureState.requests? m kind)).getLast?

/-- What is recorded as requested is what was requested last. -/
theorem requested_run (steps : List (Step β)) (m : Mode) (kind : Adjustment) :
    ((builder.start.run steps).requests.pending m).requested kind =
      builder.wanted steps m kind := by
  induction steps using List.reverseRecOn with
  | nil =>
    have hcontrol : builder.start.control = Control.initial builder.preview builder.stream :=
      builder.control_run []
    have hrequests : builder.start.requests = Requests.empty := congrArg Control.requests hcontrol
    rw [CaptureState.run_nil, hrequests]
    cases m <;> exact AdjustmentRequests.requested_empty kind
  | append_singleton steps e ih =>
    have hsync := (builder.steady_run steps).2
    rw [CaptureState.run_concat, CaptureState.requested_step hsync, ih, wanted, wanted,
      CaptureState.moments_concat, List.filterMap_append, List.getLast?_append]
    cases he : CaptureState.requests? m kind (builder.start.run steps, e) with
    | none => simp [he]
    | some value => simp [he]

end ControllerBuilder

/-! ## What is sent -/

namespace CaptureState

variable {β : Type} {s t : CaptureState β} {m : Mode}

/-- After a frame has been fetched for `m` with the given calls, the backend that delivered it,
which is open, is sent what `m` requested and is not in force. -/
structure Sends (s t : CaptureState β) (m : Mode) (calls : Trace) (i : Nat)
    (recorded : AdjustmentSet) : Prop where
  fetches : s.Fetches m calls i recorded
  opened : Trace.isOpen (s.trace ++ calls) i = true
  trace : t.trace =
    s.trace ++ calls ++ Trace.adjustments i ((s.requests.pending m).diff recorded)
  settings : (t.mode m).settings = recorded.setAll ((s.requests.pending m).diff recorded)

/-- Nothing is left to be sent for the consumer that has the device to itself. -/
structure Satisfied (s : CaptureState β) (m : Mode) : Prop where
  sole : s.control.soleMode = some m
  met : (s.requests.pending m).diff (s.mode m).settings = []

/-- Fetching a frame sends no adjustment. -/
theorem Fetches.not_adjusts {calls : Trace} {i : Nat} {recorded : AdjustmentSet}
    (h : s.Fetches m calls i recorded) : ∀ c ∈ calls, ¬ c.2.Adjusts := by
  cases h <;> simp [Call.Adjusts]

theorem soleMode_eq_preview_iff : s.control.soleMode = some .preview ↔ s.previewOnly = true := by
  rw [previewOnly_eq, Control.soleMode]
  cases s.control.previewActive <;> cases s.control.streamActive <;> simp

/-- A frame for the consumer that has the device to itself leaves nothing to be sent. -/
theorem Sends.satisfied {calls : Trace} {i : Nat} {recorded : AdjustmentSet}
    (h : Sends s t m calls i recorded) (hcontrol : t.control = s.control)
    (hm : s.control.soleMode = some m) : t.Satisfied m := by
  refine ⟨by rw [hcontrol]; exact hm, ?_⟩
  have hrequests : t.requests = s.requests := congrArg Control.requests hcontrol
  rw [hrequests, h.settings, AdjustmentRequests.diff_setAll_diff]

section Calls

variable [Backend β]

/-- A frame that is read for the consumer that has the device to itself. -/
theorem exists_sends_readActive (h : s.Steady) (hsync : s.control.Synced)
    (hm : s.control.soleMode = some m) :
    ∃ calls i recorded, Sends s s.readActive.2 m calls i recorded := by
  obtain ⟨f, u, calls, j, hread, hfetched⟩ :=
    h.settled.exists_fetched (Control.activeMode_of_soleMode hm)
  have hserving := hfetched.serving
  have hrequests : u.requests = s.requests := congrArg Control.requests hfetched.control
  obtain ⟨-, htrace, hsettings⟩ := flushAdjustments_of_exclusive hserving.manager
    (hserving.registered j hserving.manager) ((hfetched.exclusiveMode_eq hsync).trans hm)
  rw [hrequests] at htrace hsettings
  rw [hread]
  refine ⟨calls, j, (u.mode m).settings, hfetched.fetches, ?_, ?_, hsettings⟩
  · rw [← hfetched.trace]
    exact (hserving.toSound.isOpen_iff_of_opened hserving.manager hserving.opened j).mpr rfl
  · rw [← hfetched.trace]
    exact htrace

/-- A frame that is read while no consumer has the device to itself. -/
theorem exists_calls_readActive (h : s.Steady) (hsync : s.control.Synced)
    (hm : s.control.soleMode = none) :
    ∃ calls, s.readActive.2.trace = s.trace ++ calls ∧ ∀ c ∈ calls, ¬ c.2.Adjusts := by
  cases hactive : s.control.activeMode with
  | none =>
    rw [readActive_of_idle hactive]
    exact ⟨[], by simp⟩
  | some n =>
    obtain ⟨f, u, calls, j, hread, hfetched⟩ := h.settled.exists_fetched hactive
    rw [hread, flushAdjustments_of_not_exclusive ((hfetched.exclusiveMode_eq hsync).trans hm)]
    exact ⟨calls, hfetched.trace, hfetched.fetches.not_adjusts⟩

/-- The pull of a loop that runs sends what a frame would. -/
theorem exists_sends_pull (h : s.Steady) (hsync : s.control.Synced) (hp : s.previewOnly = true) :
    ∃ calls i recorded, Sends s s.pull .preview calls i recorded := by
  obtain ⟨f, -, hpull⟩ := h.pull_of_previewOnly hp
  obtain ⟨calls, i, recorded, hfetches, hopened, htrace, hsettings⟩ :=
    exists_sends_readActive (s := s.pulling) h.pulling hsync (soleMode_eq_preview_iff.mpr hp)
  refine ⟨calls, i, recorded, ?_, hopened, ?_, ?_⟩
  · cases hfetches with
    | delivered hmanager => exact .delivered hmanager
    | rescued hmanager => exact .rescued hmanager
  · have hnoted : (s.pulling.readActive.2.note (.displayed f)).trace =
        s.pulling.readActive.2.trace :=
      congrArg Custody.trace (custody_note rfl _)
    rw [hpull, hnoted]
    exact htrace
  · rw [hpull]
    exact hsettings

/-- Every frame that is read for the consumer that has the device to itself. -/
theorem exists_sends_step (h : s.Steady) (hsync : s.control.Synced)
    (hm : s.control.soleMode = some m) {e : Step β} (he : e.readsFor m = true) :
    ∃ calls i recorded, Sends s (s.step e) m calls i recorded := by
  cases e with
  | operation op =>
    cases op with
    | frame => exact exists_sends_readActive h hsync hm
    | pull =>
      obtain rfl : m = .preview := by simpa [Step.readsFor] using he
      exact exists_sends_pull h hsync (soleMode_eq_preview_iff.mp hm)
    | _ => simp [Step.readsFor] at he
  | _ => simp [Step.readsFor] at he

/-- Nothing else sends adjustments. -/
theorem exists_calls_step (h : s.Steady) (hsync : s.control.Synced) {e : Step β}
    (he : ∀ m, s.control.soleMode = some m → e.readsFor m = false) :
    ∃ calls, (s.step e).trace = s.trace ++ calls ∧ ∀ c ∈ calls, ¬ c.2.Adjusts := by
  cases e with
  | operation op =>
    cases hop : op.readsFrame with
    | false => exact (turned_operate h hop).orderly.exists_calls
    | true =>
      cases op with
      | frame =>
        refine exists_calls_readActive h hsync ?_
        cases hm : s.control.soleMode with
        | none => rfl
        | some m => simpa [Step.readsFor] using he m hm
      | pull =>
        have hp : s.previewOnly = false := by
          rw [Bool.eq_false_iff]
          intro hp
          simpa [Step.readsFor] using he .preview (soleMode_eq_preview_iff.mpr hp)
        refine ⟨[], ?_, by simp⟩
        show s.pull.trace = _
        rw [pull_of_not_previewOnly hp]
        simp [pulling, CaptureState.trace]
      | _ => simp [Operation.readsFrame] at hop
  | handOut => exact ⟨[], by simp [step, CaptureState.trace]⟩
  | stir i change => exact ⟨[], by simp [step, alter, CaptureState.trace]⟩

/-! ## What is not sent again -/

theorem exists_trace_step (h : s.Steady) (hsync : s.control.Synced) (e : Step β) :
    ∃ calls, (s.step e).trace = s.trace ++ calls := by
  by_cases he : ∀ m, s.control.soleMode = some m → e.readsFor m = false
  · obtain ⟨calls, hcalls, -⟩ := exists_calls_step h hsync he
    exact ⟨calls, hcalls⟩
  · push Not at he
    obtain ⟨m, hm, hreads⟩ := he
    obtain ⟨calls, i, recorded, hsends⟩ :=
      exists_sends_step h hsync hm (by simpa using hreads)
    exact ⟨_, hsends.trace.trans (List.append_assoc _ _ _)⟩

/-- While nothing is left to be sent, a step sends nothing, unless it opens a device anew; and
nothing is left to be sent afterwards unless it was a new request or another consumer decides. -/
theorem Satisfied.step (h : s.Satisfied m) (hs : s.Steady) (hsync : s.control.Synced) {e : Step β}
    (he : e.adjustment? = none) {calls : Trace} (hcalls : (s.step e).trace = s.trace ++ calls)
    (hopen : ∀ c ∈ calls, ¬ c.2.HasOpened) :
    (∀ c ∈ calls, ¬ c.2.Adjusts) ∧
      ((s.step e).control.soleMode = some m → (s.step e).Satisfied m) := by
  have hquiet : ∀ c ∈ calls, ¬ c.2.Adjusts := by
    cases hreads : e.readsFor m with
    | false =>
      have hnone (n : Mode) (hn : s.control.soleMode = some n) : e.readsFor n = false := by
        obtain rfl := Option.some.inj (h.sole.symm.trans hn)
        exact hreads
      obtain ⟨sent, hsent, hplain⟩ := exists_calls_step hs hsync hnone
      obtain rfl := List.append_cancel_left (hcalls.symm.trans hsent)
      exact hplain
    | true =>
      obtain ⟨fetched, i, recorded, hfetches, -, htrace, -⟩ :=
        exists_sends_step hs hsync h.sole hreads
      rw [hcalls, List.append_assoc] at htrace
      obtain rfl := List.append_cancel_left htrace
      cases hfetches with
      | delivered =>
        rw [h.met]
        simp [Trace.adjustments, Call.Adjusts]
      | rescued =>
        exact absurd trivial (hopen (0, .openAt (s.openGeometry m) (some recorded)) (by simp))
  refine ⟨hquiet, fun hm => ⟨hm, ?_⟩⟩
  -- The record follows the calls, and these told nothing new.
  have hnext : (s.step e).Steady := (steady_step hs hsync e).1
  have htold := hs.told m (Control.activeMode_of_soleMode h.sole)
  have htold' := hnext.told m (Control.activeMode_of_soleMode hm)
  rw [Told, hcalls, Trace.settings?_append fun c hc => ⟨hopen c hc, hquiet c hc⟩] at htold'
  have hsettings : ((s.step e).mode m).settings = (s.mode m).settings :=
    Option.some.inj (htold'.symm.trans htold)
  have hrequests : (s.step e).requests = (s.control.step e).requests :=
    congrArg Control.requests (s.control_step e)
  rw [hsettings, hrequests, Control.pending_step he]
  exact h.met

theorem exists_trace_run (h : s.Steady) (hsync : s.control.Synced) (later : List (Step β)) :
    ∃ calls, (s.run later).trace = s.trace ++ calls := by
  induction later using List.reverseRecOn with
  | nil => exact ⟨[], by simp⟩
  | append_singleton later e ih =>
    obtain ⟨first, hfirst⟩ := ih
    obtain ⟨hu, husync⟩ := steady_run h hsync later
    obtain ⟨last, hlast⟩ := exists_trace_step hu husync e
    exact ⟨first ++ last, by rw [run_concat, hlast, hfirst, List.append_assoc]⟩

/-- So steps that neither request nor open anything send nothing, for as long as the consumer keeps
the device to itself. -/
theorem Satisfied.run (h : s.Satisfied m) (hs : s.Steady) (hsync : s.control.Synced)
    {later : List (Step β)}
    (hlater : ∀ moment ∈ s.moments later,
      moment.1.control.soleMode = some m ∧ moment.2.adjustment? = none)
    {calls : Trace} (hcalls : (s.run later).trace = s.trace ++ calls)
    (hopen : ∀ c ∈ calls, ¬ c.2.HasOpened) :
    (∀ c ∈ calls, ¬ c.2.Adjusts) ∧
      ((s.run later).control.soleMode = some m → (s.run later).Satisfied m) := by
  induction later using List.reverseRecOn generalizing calls with
  | nil =>
    obtain rfl : calls = [] := by simpa using hcalls
    exact ⟨by simp, fun _ => h⟩
  | append_singleton later e ih =>
    rw [moments_concat] at hlater
    obtain ⟨hsole, he⟩ := hlater (s.run later, e) (by simp)
    obtain ⟨hu, husync⟩ := steady_run hs hsync later
    obtain ⟨first, hfirst⟩ := exists_trace_run hs hsync later
    obtain ⟨last, hlast⟩ := exists_trace_step hu husync e
    have hsplit : calls = first ++ last := by
      rw [run_concat, hlast, hfirst, List.append_assoc] at hcalls
      exact (List.append_cancel_left hcalls).symm
    subst hsplit
    obtain ⟨hquiet, hsatisfied⟩ := ih (fun moment hmoment => hlater moment (by simp [hmoment]))
      hfirst fun c hc => hopen c (by simp [hc])
    obtain ⟨hlastQuiet, hnext⟩ := (hsatisfied hsole).step hu husync he hlast
      fun c hc => hopen c (by simp [hc])
    rw [run_concat]
    refine ⟨fun c hc => ?_, hnext⟩
    rcases List.mem_append.mp hc with hc | hc
    · exact hquiet c hc
    · exact hlastQuiet c hc

end Calls

end CaptureState

namespace ControllerBuilder

variable {β : Type} [Backend β]

/-- A frame that is read for a consumer that has the device to itself sends, to the backend that
delivered it, exactly what was requested last for this consumer and differs from what is recorded,
each adjustment once and in order; afterwards all that was requested is recorded, whatever the
backend answered. No other step sends an adjustment. A setter that finds nobody or both active
changes nothing. After such a frame nothing more is sent until there is a new request, another
consumer or a device opened anew; and after an opening the record starts again from what it
reported. -/
theorem adjustments_delivered (builder : ControllerBuilder β) (steps : List (Step β)) :
    let s := builder.start.run steps
    let wanted := builder.wanted steps
    (∀ m e, s.control.soleMode = some m → e.readsFor m = true →
        ∃ calls i recorded changes, s.Fetches m calls i recorded ∧
          Trace.isOpen (s.trace ++ calls) i = true ∧
          (s.step e).trace = s.trace ++ calls ++ Trace.adjustments i changes ∧
          (changes.map Prod.fst).Sublist Adjustment.all ∧
          (∀ kind value, (kind, value) ∈ changes ↔
            wanted m kind = some value ∧ value ≠ recorded.get kind) ∧
          ∀ kind, ((s.step e).mode m).settings.get kind =
            (wanted m kind).getD (recorded.get kind)) ∧
      (∀ e, (∀ m, s.control.soleMode = some m → e.readsFor m = false) →
        ∃ calls, (s.step e).trace = s.trace ++ calls ∧ ∀ c ∈ calls, ¬ c.2.Adjusts) ∧
      (s.control.soleMode = none →
        ∀ kind value, s.operate (.adjust kind value) = (.done, s)) ∧
      (∀ m e later calls, s.control.soleMode = some m → e.readsFor m = true →
        (∀ moment ∈ (s.step e).moments later,
          moment.1.control.soleMode = some m ∧ moment.2.adjustment? = none) →
        ((s.step e).run later).trace = (s.step e).trace ++ calls →
        (∀ c ∈ calls, ¬ c.2.HasOpened) → ∀ c ∈ calls, ¬ c.2.Adjusts) ∧
      ∀ m before j g settings after, s.activeMode = some m →
        s.trace = before ++ (j, .openAt g (some settings)) :: after →
        (∀ c ∈ after, ¬ c.2.HasOpened ∧ ¬ c.2.Adjusts) → (s.mode m).settings = settings := by
  intro s wanted
  obtain ⟨hs, hsync⟩ : s.Steady ∧ s.control.Synced := builder.steady_run steps
  have hwanted (m : Mode) (kind : Adjustment) :
      (s.requests.pending m).requested kind = wanted m kind :=
    builder.requested_run steps m kind
  refine ⟨?_, ?_, ?_, ?_, ?_⟩
  · intro m e hm he
    obtain ⟨calls, i, recorded, hfetches, hopened, htrace, hsettings⟩ :=
      CaptureState.exists_sends_step hs hsync hm he
    refine ⟨calls, i, recorded, _, hfetches, hopened, htrace,
      AdjustmentRequests.kinds_diff_sublist _ _, ?_, ?_⟩
    · intro kind value
      rw [AdjustmentRequests.mem_diff_iff, hwanted]
    · intro kind
      rw [hsettings, AdjustmentRequests.get_setAll_diff, hwanted]
  · intro e he
    exact CaptureState.exists_calls_step hs hsync he
  · intro hm kind value
    have hexclusive : s.requests.exclusiveMode = none := hsync.exclusiveMode_eq.trans hm
    have hrequest : s.requests.request kind value = s.requests := by
      simp [Requests.request, hexclusive]
    simp only [CaptureState.operate, hrequest]
  · intro m e later calls hm he hlater hcalls hopen
    obtain ⟨fetched, i, recorded, hsends⟩ := CaptureState.exists_sends_step hs hsync hm he
    obtain ⟨ht, htsync⟩ := CaptureState.steady_run hs hsync [e]
    have hcontrol : (s.step e).control = s.control := by
      rw [CaptureState.control_step]
      cases e with
      | operation op => cases op <;> first | rfl | simp [Step.readsFor] at he
      | _ => rfl
    exact ((hsends.satisfied hcontrol hm).run ht htsync hlater hcalls hopen).1
  · intro m before j g settings after hm htrace hafter
    have htold := hs.told m hm
    rw [CaptureState.Told, htrace, List.append_cons, Trace.settings?_append hafter,
      Trace.settings?_concat] at htold
    exact (Option.some.inj htold).symm

end ControllerBuilder

end VideoCapture
