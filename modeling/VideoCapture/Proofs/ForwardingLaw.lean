import VideoCapture.Proofs.AdjustmentLaw
import VideoCapture.Proofs.BridgeLaw

/-!
# Adjustments that settings bring

The bridge forwards an adjustment when the settings want another value than the settings it applied
last. The controller keeps it for the consumer that has the device to itself, and drops it where
nobody or both are active; the bridge takes it as applied all the same. So a value that arrives while
it is dropped is not forwarded again when it is repeated.

## Main definitions

* `Operation.commands` — what decides who is active and what is requested.
* `Control.standing` — who is active, and what is requested.
* `ConfigBridge.known?` — the value that the settings applied last want.
* `ConfigBridge.moments` — the events of a history, each with what it happens to.
* `ConfigBridge.forwards?` — the value that an event requests for a consumer.

The main statement is `ConfigBridge.adjustments_forwarded`.
-/

namespace VideoCapture

/-- Whether the operation decides who is active or requests an adjustment. -/
def Operation.commands {β : Type} : Operation β → Bool
  | startPreview | stopPreview | startStream | stopStream | adjust .. | shutDown => true
  | _ => false

namespace Control

variable {β : Type}

/-- Who is active, and what is requested. -/
def standing (c : Control) : Bool × Bool × Requests :=
  (c.previewActive, c.streamActive, c.requests)

theorem standing_after (c : Control) {op : Operation β} (hop : op.commands = false) :
    (c.after op).standing = c.standing := by
  cases op with
  | startPreview | stopPreview | startStream | stopStream | adjust | shutDown => cases hop
  | _ => rfl

/-- Who is active and what is requested afterwards depends on nothing but who was active and what was
requested. -/
theorem standing_after_congr {c d : Control} (h : c.standing = d.standing) (op : Operation β) :
    (c.after op).standing = (d.after op).standing := by
  obtain ⟨hpreview, hrest⟩ := Prod.ext_iff.mp h
  obtain ⟨hstream, hrequests⟩ := Prod.ext_iff.mp hrest
  simp only [standing] at hpreview hstream hrequests
  cases op with
  | startPreview | stopPreview | startStream | stopStream =>
    simp only [after, hpreview, hstream]
    split <;> simp [standing, sync, hpreview, hstream, hrequests]
  | adjust | shutDown => simp [after, standing, sync, hpreview, hstream, hrequests]
  | _ => exact h

theorem soleMode_congr {c d : Control} (h : c.standing = d.standing) : c.soleMode = d.soleMode := by
  obtain ⟨hpreview, hrest⟩ := Prod.ext_iff.mp h
  obtain ⟨hstream, -⟩ := Prod.ext_iff.mp hrest
  simp only [standing] at hpreview hstream
  rw [soleMode, soleMode, hpreview, hstream]

end Control

namespace ConfigBridge

variable {β : Type}

/-- The value of an adjustment that the settings applied last want, if they want any. -/
def known? (b : ConfigBridge) (kind : Adjustment) : Option UInt32 :=
  (b.applied.bind fun p => p.adjustments).map fun a => a.get kind

/-- Adjustments that differ are requested for the consumer that has the device to itself. -/
theorem requested_differences (before : Option AdjustmentSet) (wanted : AdjustmentSet) (m : Mode)
    (kind : Adjustment) (kinds : List Adjustment) {c : Control} (hsync : c.Synced) :
    let differences : List (Operation β) := kinds.filterMap fun other =>
      if before.map (fun b => b.get other) = some (wanted.get other) then none
      else some (.adjust other (wanted.get other))
    ((differences.foldl Control.after c).requests.pending m).requested kind =
      if kind ∈ kinds ∧ c.soleMode = some m ∧
          before.map (fun b => b.get kind) ≠ some (wanted.get kind) then
        some (wanted.get kind)
      else (c.requests.pending m).requested kind := by
  induction kinds generalizing c with
  | nil => simp
  | cons other rest ih =>
    dsimp only
    by_cases hsame : before.map (fun b => b.get other) = some (wanted.get other)
    · simp only [List.filterMap_cons, hsame, if_true]
      rw [ih hsync]
      by_cases hkind : kind = other
      · subst hkind
        rw [if_neg (by simp only [hsame]; tauto), if_neg (by simp only [hsame]; tauto)]
      · simp only [List.mem_cons, hkind, false_or]
    · simp only [List.filterMap_cons, hsame, if_false]
      rw [List.foldl_cons, ih (hsync.after _), Control.requested_adjust hsync]
      have hsole : (c.after (.adjust other (wanted.get other) : Operation β)).soleMode =
          c.soleMode := rfl
      rw [hsole]
      by_cases hkind : kind = other
      · subst hkind
        by_cases hm : c.soleMode = some m
        · simp only [hm, hsame, List.mem_cons, true_or, and_self, ne_eq,
            not_false_eq_true, and_true, if_true, ite_self]
        · simp only [hm, false_and, and_false, if_false]
      · simp only [List.mem_cons, hkind, false_or, and_false, if_false]

/-- What is asked for before the adjustments commands nothing. -/
theorem exists_operations_append (b : ConfigBridge) (s : Settings) :
    ∃ ops : List (Operation β), (∀ op ∈ ops, op.commands = false) ∧
      b.operations s = ops ++ (s.adjustments.elim [] fun wanted =>
        adjustmentOperations (b.applied.bind fun p => p.adjustments) wanted) := by
  refine ⟨(if b.applied.map devicePart = some (devicePart s) then []
      else [.setDevice s.device s.channel s.format]) ++
    (if b.applied.map (fun p => p.preview) = some s.preview then [] else [.setPreview s.preview]) ++
    (if b.applied.map (fun p => p.stream) = some s.stream then [] else [.setStream s.stream]),
    ?_, ?_⟩
  · intro op hop
    simp only [List.mem_append] at hop
    rcases hop with (hop | hop) | hop <;>
    · split at hop
      · cases hop
      · obtain rfl := List.mem_singleton.mp hop
        rfl
  · rw [operations]
    cases s.adjustments <;> rfl

/-- The bridge switches no consumer. -/
theorem soleMode_operations (b : ConfigBridge) (s : Settings) (c : Control) :
    ((b.operations s : List (Operation β)).foldl Control.after c).soleMode = c.soleMode := by
  obtain ⟨ops, hops, heq⟩ := exists_operations_append (β := β) b s
  have hkeeps : ∀ op ∈ (b.operations s : List (Operation β)), ∀ d : Control,
      (d.after op).soleMode = d.soleMode := by
    intro op hop d
    rw [heq] at hop
    rcases List.mem_append.mp hop with hop | hop
    · exact Control.soleMode_congr (d.standing_after (hops op hop))
    · cases ha : s.adjustments with
      | none => simp [ha] at hop
      | some wanted =>
        rw [ha, Option.elim_some] at hop
        obtain ⟨kind, -, hkind⟩ := List.mem_filterMap.mp hop
        split at hkind
        · cases hkind
        · obtain rfl := Option.some.inj hkind
          rfl
  exact List.foldlRecOn (motive := fun d => d.soleMode = c.soleMode) _ _ rfl
    fun d hd op hop => (hkeeps op hop d).trans hd

/-- The value that settings request for `m` when they arrive. -/
def requestOf (b : ConfigBridge) (c : Control) (m : Mode) (kind : Adjustment) (s : Settings) :
    Option UInt32 :=
  match s.adjustments with
  | none => none
  | some wanted =>
    if c.soleMode = some m ∧ b.known? kind ≠ some (wanted.get kind) then some (wanted.get kind)
    else none

/-- Settings request what they want and the bridge does not take for applied. -/
theorem requested_operations (b : ConfigBridge) {c : Control} (hsync : c.Synced) (s : Settings)
    (m : Mode) (kind : Adjustment) :
    (((b.operations s : List (Operation β)).foldl Control.after c).requests.pending m).requested
        kind = (b.requestOf c m kind s).or ((c.requests.pending m).requested kind) := by
  obtain ⟨ops, hops, heq⟩ := exists_operations_append (β := β) b s
  have hstanding (ops : List (Operation β)) (hops : ∀ op ∈ ops, op.commands = false)
      (c : Control) (hsync : c.Synced) :
      (ops.foldl Control.after c).standing = c.standing ∧ (ops.foldl Control.after c).Synced := by
    induction ops generalizing c with
    | nil => exact ⟨rfl, hsync⟩
    | cons op rest ih =>
      obtain ⟨hrest, hnext⟩ := ih (fun op' h => hops op' (List.mem_cons_of_mem op h)) (c.after op)
        (hsync.after op)
      exact ⟨hrest.trans (c.standing_after (hops op List.mem_cons_self)), hnext⟩
  obtain ⟨hkept, hsynced⟩ := hstanding ops hops c hsync
  have hrequests : (ops.foldl Control.after c).requests = c.requests :=
    congrArg (fun x : Bool × Bool × Requests => x.2.2) hkept
  rw [heq, List.foldl_append, requestOf]
  cases s.adjustments with
  | none => simp [hrequests]
  | some wanted =>
    have hdifferences := requested_differences (β := β) (b.applied.bind fun p => p.adjustments)
      wanted m kind Adjustment.all hsynced
    simp only [kind.mem_all, true_and, Control.soleMode_congr hkept, hrequests] at hdifferences
    have hknown : (b.applied.bind fun p => p.adjustments).map (fun a => a.get kind) =
      b.known? kind := rfl
    rw [Option.elim_some, adjustmentOperations, hdifferences, hknown]
    by_cases h : c.soleMode = some m ∧ b.known? kind ≠ some (wanted.get kind)
    · simp only [if_pos h, Option.some_or]
    · simp only [if_neg h, Option.none_or]

end ConfigBridge

namespace CaptureState

variable {β : Type} [Backend β]

theorem steady_perform {s : CaptureState β} (h : s.Steady) (hsync : s.control.Synced)
    (eager : Bool) (op : Operation β) :
    (s.perform eager op).2.Steady ∧ (s.perform eager op).2.control.Synced := by
  obtain ⟨steps, hsteps, -⟩ := Controller.exists_run_perform eager op s
  rw [hsteps]
  exact steady_run h hsync steps

/-- What holds between operations survives whatever observers ask for. -/
theorem endures_steady (allowed : Operation β → Prop) :
    Endures allowed fun s => s.Steady ∧ s.control.Synced where
  handOut s n rest hbox h := by
    have hstep := steady_run h.1 h.2 [.handOut]
    simpa [run, step, hbox] using hstep
  perform eager op s _ h := steady_perform h.1 h.2 eager op

/-- Two properties that survive do so together. -/
theorem Endures.and {allowed : Operation β → Prop} {first second : CaptureState β → Prop}
    (h : Endures allowed first) (h' : Endures allowed second) :
    Endures allowed fun s => first s ∧ second s where
  handOut s n rest hbox hs := ⟨h.handOut s n rest hbox hs.1, h'.handOut s n rest hbox hs.2⟩
  perform eager op s hop hs := ⟨h.perform eager op s hop hs.1, h'.perform eager op s hop hs.2⟩

end CaptureState

namespace BridgeEvent

variable {β ω : Type}

/-- Somebody else neither requests adjustments nor subscribes observers that would, or that would
switch consumers. -/
def SparesRequests (well : ω → Prop) : BridgeEvent β ω → Prop
  | moved (.perform _ op) => (Step.operation op).adjustment? = none
  | moved (.subscribe o) => well o
  | _ => True

/-- The adjustments that an event brings, if it brings any. -/
def adjustments? (e : BridgeEvent β ω) : Option AdjustmentSet :=
  e.accepted?.bind fun s => s.adjustments

end BridgeEvent

namespace ConfigBridge

variable {β ω : Type} [Backend β] [Observer β ω]

/-- The events of a history, each with the bridge and the controller that it happens to. -/
def moments (p : ConfigBridge × Controller β ω) :
    List (BridgeEvent β ω) → List ((ConfigBridge × Controller β ω) × BridgeEvent β ω)
  | [] => []
  | e :: rest => (p, e) :: moments (step p e) rest

@[simp] theorem moments_concat (p : ConfigBridge × Controller β ω) (events : List (BridgeEvent β ω))
    (e : BridgeEvent β ω) : moments p (events ++ [e]) = moments p events ++ [(run p events, e)] := by
  induction events generalizing p with
  | nil => rfl
  | cons first rest ih => exact congrArg _ (ih (step p first))

@[simp] theorem run_concat (p : ConfigBridge × Controller β ω) (events : List (BridgeEvent β ω))
    (e : BridgeEvent β ω) : run p (events ++ [e]) = step (run p events) e := by
  simp [run]

/-- The value of an adjustment that an event requests for a consumer, if it does: settings request for
the consumer that has the device to itself what they want and the bridge does not take for applied. -/
def forwards? (m : Mode) (kind : Adjustment)
    (moment : (ConfigBridge × Controller β ω) × BridgeEvent β ω) : Option UInt32 :=
  moment.2.accepted?.bind (moment.1.1.requestOf moment.1.2.state.control m kind)

/-- The settings `last` were accepted last, what is requested is `requested`, and the observers have
manners. -/
structure Forwards (well : ω → Prop) (last : Option Settings)
    (requested : Mode → Adjustment → Option UInt32) (p : ConfigBridge × Controller β ω) : Prop where
  applied : p.1.applied = last
  requests : ∀ m kind, (p.2.state.requests.pending m).requested kind = requested m kind
  steady : p.2.state.Steady
  synced : p.2.state.control.Synced
  observers : ∀ o ∈ p.2.observers, well o

variable {well : ω → Prop} {last : Option Settings}
  {requested : Mode → Adjustment → Option UInt32} {p : ConfigBridge × Controller β ω}

theorem Forwards.configure
    (hmanners : Manners (fun op : Operation β => op.commands = false) well)
    (h : Forwards well last requested p) (s : Settings) :
    Forwards well (some s)
      (fun m kind => (p.1.requestOf p.2.state.control m kind s).or (requested m kind))
      (p.2.configure s p.1) := by
  have hstanding := Controller.upholds_performAll (fun c _ hop => Control.standing_after c hop)
    (fun _ _ op h => Control.standing_after_congr h op) hmanners h.observers (p.1.operations s)
  have hsteady : (p.2.performAll (p.1.operations s)).Upholds
      (fun s => s.Steady ∧ s.control.Synced) well :=
    List.foldlRecOn (motive := Controller.Upholds (fun s => s.Steady ∧ s.control.Synced) well)
      _ _ ⟨⟨h.steady, h.synced⟩, h.observers⟩ fun c hc op _ =>
        Controller.upholds_performAt (CaptureState.endures_steady _) hmanners c.patience
          (CaptureState.steady_perform hc.state.1 hc.state.2 c.eager op) hc.observers
  refine ⟨rfl, fun m kind => ?_, hsteady.state.1, hsteady.state.2, hstanding.observers⟩
  have hrequests : (p.2.performAll (p.1.operations s)).state.requests = _ :=
    congrArg (fun x : Bool × Bool × Requests => x.2.2) hstanding.state
  show (((p.2.performAll (p.1.operations s)).state.requests.pending m).requested kind) = _
  rw [hrequests]
  refine (requested_operations p.1 h.synced s m kind).trans ?_
  rw [← h.requests m kind]
  rfl

theorem soleMode_configure
    (hmanners : Manners (fun op : Operation β => op.commands = false) well)
    (hobservers : ∀ o ∈ p.2.observers, well o) (s : Settings) :
    (p.2.configure s p.1).2.state.control.soleMode = p.2.state.control.soleMode := by
  have hstanding := Controller.upholds_performAll (fun c _ hop => Control.standing_after c hop)
    (fun _ _ op h => Control.standing_after_congr h op) hmanners hobservers (p.1.operations s)
  exact (Control.soleMode_congr hstanding.state).trans (soleMode_operations p.1 s _)

theorem Forwards.step
    (hmanners : Manners (fun op : Operation β => op.commands = false) well)
    (h : Forwards well last requested p) {e : BridgeEvent β ω} (he : e.SparesRequests well) :
    Forwards well (e.accepted?.or last)
      (fun m kind => (forwards? m kind (p, e)).or (requested m kind)) (step p e) := by
  cases haccepted : e.accepted? with
  | some s =>
    rw [step_of_accepted haccepted]
    simpa [forwards?, haccepted] using h.configure hmanners s
  | none =>
    have hnothing : ∀ m kind, (forwards? m kind (p, e)).or (requested m kind) = requested m kind := by
      simp [forwards?, haccepted]
    simp only [hnothing, Option.none_or]
    cases e with
    | notified s => cases haccepted
    | loaded text =>
      rw [step_loaded]
      cases hparse : Settings.parse text with
      | ok s => simp [BridgeEvent.accepted?, hparse, Except.toOption] at haccepted
      | error _ => exact h
    | moved m =>
      let pending (c : Control) := c.requests.pending
      have hpending (c : Control) (op : Operation β) (hop : op.commands = false) :
          pending (c.after op) = pending c :=
        congrArg (fun x : Bool × Bool × Requests => x.2.2.pending) (c.standing_after hop)
      have hmoved : (p.2.move m).Upholds (fun s => (s.Steady ∧ s.control.Synced) ∧
          pending s.control = pending p.2.state.control) well := by
        refine Controller.Upholds.move ((CaptureState.endures_steady _).and
          (CaptureState.endures_view hpending _)) hmanners
          ⟨⟨⟨h.steady, h.synced⟩, rfl⟩, h.observers⟩ ?_ ?_ ?_
        · rintro depth op rfl
          refine ⟨CaptureState.steady_perform h.steady h.synced p.2.eager op, ?_⟩
          rw [CaptureState.control_perform]
          exact funext fun m => Control.pending_step he m
        · rintro o rfl
          exact he
        · rintro i change rfl
          exact ⟨CaptureState.steady_run h.steady h.synced [.stir i change], rfl⟩
      obtain ⟨⟨⟨hsteady, hsynced⟩, hkept⟩, hobservers⟩ := hmoved
      refine ⟨h.applied, fun m kind => ?_, hsteady, hsynced, hobservers⟩
      exact (congrArg (fun pending => (pending m).requested kind) hkept).trans (h.requests m kind)

/-- What is requested is what was forwarded last. -/
theorem forwards_run (hmanners : Manners (fun op : Operation β => op.commands = false) well)
    (h : Forwards well none (fun _ _ => none) p) {events : List (BridgeEvent β ω)}
    (hevents : ∀ e ∈ events, e.SparesRequests well) :
    Forwards well (events.filterMap BridgeEvent.accepted?).getLast?
      (fun m kind => ((moments p events).filterMap (forwards? m kind)).getLast?)
      (run p events) := by
  induction events using List.reverseRecOn with
  | nil => exact h
  | append_singleton events e ih =>
    have hbefore := ih fun e' he' => hevents e' (List.mem_append_left _ he')
    have hlast := hbefore.step hmanners (hevents e (by simp))
    have hgetLast {α β : Type} (f : α → Option β) (xs : List α) (x : α) :
        ((xs ++ [x]).filterMap f).getLast? = (f x).or (xs.filterMap f).getLast? := by
      rw [List.filterMap_append, List.getLast?_append]
      cases hx : f x <;> simp [hx]
    simp only [moments_concat, run_concat, hgetLast]
    exact hlast

/-- A value that the bridge takes for applied is requested for `m`, if it never arrived while `m` did not
have the device to itself. -/
theorem requested_of_known (hmanners : Manners (fun op : Operation β => op.commands = false) well)
    (h : Forwards well none (fun _ _ => none) p) {events : List (BridgeEvent β ω)}
    (hevents : ∀ e ∈ events, e.SparesRequests well) {m : Mode} {kind : Adjustment} {value : UInt32}
    (hheard : ∀ moment ∈ moments p events, ∀ a, moment.2.adjustments? = some a →
      a.get kind = value → moment.1.2.state.control.soleMode = some m)
    (hknown : (run p events).1.known? kind = some value) :
    ((run p events).2.state.requests.pending m).requested kind = some value := by
  induction events using List.reverseRecOn with
  | nil => simp [run, known?, h.applied] at hknown
  | append_singleton events e ih =>
    have hearlier := fun e' he' => hevents e' (List.mem_append_left _ he')
    have hbefore := forwards_run hmanners h hearlier
    have hafter := hbefore.step hmanners (hevents e (by simp))
    rw [moments_concat] at hheard
    rw [run_concat] at hknown ⊢
    rw [hafter.requests, ← hbefore.requests]
    have ih := ih hearlier fun moment hmoment => hheard moment (by simp [hmoment])
    cases haccepted : e.accepted? with
    | none =>
      have hsame : (step (run p events) e).1.known? kind = (run p events).1.known? kind := by
        rw [known?, known?, hafter.applied, hbefore.applied, haccepted, Option.none_or]
      rw [forwards?, haccepted, Option.bind_none, Option.none_or]
      exact ih (hsame.symm.trans hknown)
    | some s =>
      rw [known?, hafter.applied, haccepted, Option.some_or, Option.bind_some] at hknown
      obtain ⟨a, ha, hvalue⟩ := Option.map_eq_some_iff.mp hknown
      have hsole := hheard (run p events, e) (by simp) a
        (by rw [BridgeEvent.adjustments?, haccepted, Option.bind_some, ha]) hvalue
      -- Either the value is forwarded now, or the bridge took it for applied before.
      by_cases hold : (run p events).1.known? kind = some value
      · simp [forwards?, haccepted, requestOf, ha, hvalue, hold, ih hold]
      · simp [forwards?, haccepted, requestOf, ha, hvalue, hold, hsole]

/-- As long as nobody else requests adjustments, what is requested for a consumer is what settings
forwarded last while it had the device to itself. Settings that arrive then forward every value but
those that the settings before them wanted as well; so a value is requested if it never arrived before
while the consumer did not have the device to itself. The next frame for the consumer brings the
record to what is requested. -/
theorem adjustments_forwarded (builder : ControllerBuilder β) (eager queued : Bool) (observers : List ω)
    (events : List (BridgeEvent β ω))
    (hmanners : Manners (fun op : Operation β => op.commands = false) well)
    (hobservers : ∀ o ∈ observers, well o) (hevents : ∀ e ∈ events, e.SparesRequests well) :
    let start := (initial, Controller.build builder eager queued observers)
    let p := run start events
    p.1.applied = (events.filterMap BridgeEvent.accepted?).getLast? ∧
      (∀ m kind, (p.2.state.requests.pending m).requested kind =
        ((moments start events).filterMap (forwards? m kind)).getLast?) ∧
      ∀ (e : BridgeEvent β ω) (a : AdjustmentSet) (m : Mode), e.adjustments? = some a →
        p.2.state.control.soleMode = some m →
        let q := step p e
        (∀ kind, (q.2.state.requests.pending m).requested kind =
          if p.1.known? kind = some (a.get kind) then (p.2.state.requests.pending m).requested kind
          else some (a.get kind)) ∧
        (∀ kind, (∀ moment ∈ moments start events, ∀ earlier, moment.2.adjustments? = some earlier →
            earlier.get kind = a.get kind → moment.1.2.state.control.soleMode = some m) →
          (q.2.state.requests.pending m).requested kind = some (a.get kind)) ∧
        ∀ kind (read : Step β), read.readsFor m = true →
          (q.2.state.requests.pending m).requested kind = some (a.get kind) →
          ((q.2.state.step read).mode m).settings.get kind = a.get kind := by
  intro start p
  have hstart : Forwards well none (fun _ _ => none) start := by
    have hsteady := builder.steady_run []
    have hrequests := builder.requested_run []
    exact ⟨rfl, hrequests, hsteady.1, hsteady.2, hobservers⟩
  have hrun := forwards_run hmanners hstart hevents
  refine ⟨hrun.applied, hrun.requests, fun e a m he hm => ?_⟩
  obtain ⟨s, haccepted, ha⟩ := Option.bind_eq_some_iff.mp he
  have hspares : e.SparesRequests well := by
    cases e with
    | moved => cases haccepted
    | _ => trivial
  have hnext := hrun.step hmanners hspares
  have hforwards (kind : Adjustment) : forwards? m kind (p, e) =
      if p.1.known? kind = some (a.get kind) then none else some (a.get kind) := by
    simp only [forwards?, haccepted, Option.bind_some, requestOf, ha, hm]
    simp
  have hexact (kind : Adjustment) : ((step p e).2.state.requests.pending m).requested kind =
      if p.1.known? kind = some (a.get kind) then (p.2.state.requests.pending m).requested kind
      else some (a.get kind) := by
    rw [hnext.requests, ← hrun.requests, hforwards]
    split <;> rfl
  refine ⟨hexact, fun kind hheard => ?_, fun kind read hread hrequested => ?_⟩
  · rw [hexact]
    split
    · rename_i hknown
      exact requested_of_known hmanners hstart hevents hheard hknown
    · rfl
  · have hsole : (step p e).2.state.control.soleMode = some m := by
      rw [step_of_accepted haccepted, soleMode_configure hmanners hrun.observers, hm]
    obtain ⟨calls, i, recorded, hsends⟩ :=
      CaptureState.exists_sends_step hnext.steady hnext.synced hsole hread
    rw [hsends.settings, AdjustmentRequests.get_setAll_diff, hrequested]
    rfl

/-- Settings that arrive while nobody is active, and others while the preview runs; an observer looks
for devices whenever one is opened. -/
theorem adjustments_forwarded_of_recorder :
    let wanted : AdjustmentSet := ⟨11, 21, 31, 41⟩
    let first : Settings := { Settings.default with adjustments := some ⟨10, 20, 30, 40⟩ }
    let second : Settings := { Settings.default with adjustments := some wanted }
    let recorder : Scripted.Recorder := ⟨[⟨.opened, [.enumerate], 2⟩]⟩
    let builder : ControllerBuilder Scripted.Camera := ControllerBuilder.default
    let events : List (BridgeEvent Scripted.Camera Scripted.Recorder) :=
      [.notified first, .moved (.perform 2 .startPreview)]
    let p := run (initial, Controller.build builder true false [recorder]) events
    p.2.state.control.soleMode = some .preview ∧
      ((step p (.notified second)).2.state.requests.pending .preview).requested .contrast =
        some (wanted.get .contrast) ∧
      (((step p (.notified second)).2.state.step (.operation .pull)).mode .preview).settings.get
        .contrast = wanted.get .contrast := by
  intro wanted first second recorder builder events p
  have hmanners := Scripted.Recorder.manners (fun op => op.commands = false)
  have hobservers : ∀ o ∈ [recorder], ∀ r ∈ o.rules, ∀ op ∈ r.steps, op.commands = false := by
    simp [recorder, Operation.commands]
  have hevents : ∀ e ∈ events, e.SparesRequests fun o : Scripted.Recorder =>
      ∀ r ∈ o.rules, ∀ op ∈ r.steps, op.commands = false := by
    simp [events, BridgeEvent.SparesRequests, Step.adjustment?]
  have hsole : p.2.state.control.soleMode = some .preview := by decide +kernel
  have hlaw := adjustments_forwarded builder true false [recorder] events hmanners hobservers hevents
  obtain ⟨-, hheard, hrecorded⟩ := hlaw.2.2 (.notified second) wanted .preview rfl hsole
  have hrequested := hheard .contrast (by
    rintro moment hmoment earlier hearlier hvalue
    simp only [events, moments, List.mem_cons, List.not_mem_nil, or_false] at hmoment
    rcases hmoment with rfl | rfl
    · obtain rfl : (⟨10, 20, 30, 40⟩ : AdjustmentSet) = earlier := Option.some.inj hearlier
      exact absurd hvalue (by decide)
    · cases hearlier)
  have hpulled := hrecorded .contrast (.operation .pull) rfl hrequested
  simpa only [p] using ⟨hsole, hrequested, hpulled⟩

/-- Settings that arrive before the stream starts, and again while it runs: nothing they want is
requested, and the next frame leaves the device as it was. -/
theorem dropped_adjustments_not_forwarded_again :
    let wanted : Settings := { Settings.default with adjustments := some ⟨10, 20, 30, 40⟩ }
    let builder : ControllerBuilder Scripted.Camera := ControllerBuilder.default
    let events : List (BridgeEvent Scripted.Camera Scripted.Recorder) :=
      [.notified wanted, .moved (.perform 0 .startStream)]
    let p := run (initial, Controller.build builder true false []) events
    let q := step p (.notified wanted)
    p.2.state.control.soleMode = some .stream ∧
      q.2.state.requests.pending .stream = AdjustmentRequests.empty ∧
      ((q.2.state.step (.operation .frame)).mode .stream).settings = AdjustmentSet.neutral := by
  refine ⟨?_, ?_, ?_⟩ <;> decide +kernel

end ConfigBridge

end VideoCapture
