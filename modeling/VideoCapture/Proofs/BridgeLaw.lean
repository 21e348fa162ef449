import VideoCapture.Controller.Bridge
import VideoCapture.Proofs.Moves
import VideoCapture.Scripted.Recorder

/-!
# The bridge stays in step

The bridge asks the controller only for what differs from the settings it applied last. As long as
nobody else configures the controller, that is enough: what the controller has on record is what the
bridge applied last.

## Main definitions

* `Operation.configures` — what the bridge alone may ask for.
* `Control.configuration`, `Settings.configuration` — what the controller has on record, and what
  settings want there.
* `BridgeEvent` — what can happen to a bridge and its controller.
* `ConfigBridge.step`, `ConfigBridge.run` — both after one event and after many.
* `ConfigBridge.InStep` — what the bridge applied last is on record.

The main statement is `ConfigBridge.stays_in_step`.
-/

namespace VideoCapture

/-- Whether the operation selects a device or sets a geometry. -/
def Operation.configures {β : Type} : Operation β → Bool
  | setDevice .. | setPreview _ | setStream _ => true
  | _ => false

/-- The selection and the geometries of the preview and the stream. -/
abbrev Configuration := Selection × Geometry × Geometry

/-- What settings want to be on record. -/
def Settings.configuration (s : Settings) : Configuration :=
  (ConfigBridge.devicePart s, s.preview, s.stream)

namespace Control

variable {β : Type}

/-- What is on record. -/
def configuration (c : Control) : Configuration :=
  (c.selection, c.previewGeometry, c.streamGeometry)

/-- Other operations leave what is on record alone. -/
theorem configuration_after {op : Operation β} (hop : op.configures = false) (c : Control) :
    (c.after op).configuration = c.configuration := by
  cases op with
  | setDevice | setPreview | setStream => cases hop
  | startPreview | stopPreview | startStream | stopStream =>
    simp only [after]
    split <;> rfl
  | _ => rfl

/-- What is on record afterwards depends on nothing but what was on record. -/
theorem configuration_after_congr {c d : Control} (h : c.configuration = d.configuration)
    (op : Operation β) : (c.after op).configuration = (d.after op).configuration := by
  obtain ⟨hselection, hgeometries⟩ := Prod.ext_iff.mp h
  obtain ⟨hpreview, hstream⟩ := Prod.ext_iff.mp hgeometries
  cases hop : op.configures with
  | false => rw [configuration_after hop, configuration_after hop, h]
  | true =>
    cases op with
    | setDevice device channel format => exact Prod.ext rfl hgeometries
    | setPreview g => exact Prod.ext hselection (Prod.ext rfl hstream)
    | setStream g => exact Prod.ext hselection (Prod.ext hpreview rfl)
    | _ => cases hop

end Control

namespace ConfigBridge

variable {β : Type}

theorem not_configures_of_adjustment {before : Option AdjustmentSet} {wanted : AdjustmentSet}
    {op : Operation β} (h : op ∈ adjustmentOperations before wanted) : op.configures = false := by
  obtain ⟨kind, -, hkind⟩ := List.mem_filterMap.mp h
  split at hkind
  · cases hkind
  · obtain rfl := Option.some.inj hkind
    rfl

/-- Other operations record nothing. -/
theorem recorded_of_not_configures (op : Operation β) (h : op.configures = false) :
    Step.selection? (.operation op) = none ∧ Step.previewGeometry? (.operation op) = none ∧
      Step.streamGeometry? (.operation op) = none := by
  cases op with
  | setDevice | setPreview | setStream => cases h
  | _ => exact ⟨rfl, rfl, rfl⟩

/-- What differs is asked for first, and nothing behind it configures anything. -/
theorem exists_operations (b : ConfigBridge) (s : Settings) :
    ∃ adjustments : List (Operation β), (∀ op ∈ adjustments, op.configures = false) ∧
      b.operations s =
        (if b.applied.map devicePart = some (devicePart s) then []
          else [.setDevice s.device s.channel s.format]) ++
        (if b.applied.map (fun p => p.preview) = some s.preview then []
          else [.setPreview s.preview]) ++
        (if b.applied.map (fun p => p.stream) = some s.stream then []
          else [.setStream s.stream]) ++ adjustments := by
  refine ⟨_, ?_, rfl⟩
  intro op hop
  split at hop
  · cases hop
  · exact not_configures_of_adjustment hop

/-- What is recorded by asking for what differs: each part that is another one than before. -/
theorem recorded_operations (b : ConfigBridge) (s : Settings) :
    let steps := (b.operations s : List (Operation β)).map Step.operation
    steps.filterMap Step.selection? =
        (if b.applied.map devicePart = some (devicePart s) then [] else [devicePart s]) ∧
      steps.filterMap Step.previewGeometry? =
        (if b.applied.map (fun p => p.preview) = some s.preview then [] else [s.preview]) ∧
      steps.filterMap Step.streamGeometry? =
        (if b.applied.map (fun p => p.stream) = some s.stream then [] else [s.stream]) := by
  intro steps
  obtain ⟨adjustments, hadjustments, heq⟩ := exists_operations (β := β) b s
  have hnone {α : Type} {recorded? : Step β → Option α}
      (h : ∀ op : Operation β, op.configures = false → recorded? (.operation op) = none) :
      (adjustments.map Step.operation).filterMap recorded? = [] := by
    rw [List.filterMap_map]
    exact List.filterMap_eq_nil_iff.mpr fun op hop => h op (hadjustments op hop)
  have hselection := hnone (recorded_of_not_configures · · |>.1)
  have hpreview := hnone (recorded_of_not_configures · · |>.2.1)
  have hstream := hnone (recorded_of_not_configures · · |>.2.2)
  simp only [steps, heq, List.map_append, List.filterMap_append, hselection, hpreview, hstream]
  split <;> split <;> split <;> exact ⟨rfl, rfl, rfl⟩

/-- Nothing is asked for where the settings are those applied last. -/
theorem operations_of_applied {b : ConfigBridge} {s : Settings} (h : b.applied = some s) :
    (b.operations s : List (Operation β)) = [] := by
  have hadjustments (a : AdjustmentSet) :
      (adjustmentOperations (some a) a : List (Operation β)) = [] :=
    List.filterMap_eq_nil_iff.mpr fun kind _ => if_pos rfl
  simp only [operations, h, Option.map_some, if_true, Option.bind_some]
  cases ha : s.adjustments with
  | none => rfl
  | some a => exact hadjustments a

/-- What the bridge applied last is on record. -/
def Agrees (b : ConfigBridge) (c : Control) : Prop :=
  ∀ p, b.applied = some p → c.configuration = p.configuration

/-- Asking for what differs puts all of it on record. -/
theorem configuration_operations {b : ConfigBridge} {c : Control} (h : b.Agrees c) (s : Settings) :
    ((b.operations s : List (Operation β)).foldl Control.after c).configuration =
      s.configuration := by
  obtain ⟨hselection, hpreview, hstream⟩ := recorded_operations (β := β) b s
  have hrun : (b.operations s : List (Operation β)).foldl Control.after c =
      c.run ((b.operations s : List (Operation β)).map Step.operation) := by
    rw [Control.run, List.foldl_map]
    rfl
  have hrecorded {α : Type} [DecidableEq α] (part : Settings → α) (now : α)
      (hnow : ∀ p, b.applied = some p → now = part p) :
      (if b.applied.map part = some (part s) then [] else [part s]).getLastD now = part s := by
    split
    · rename_i hsame
      obtain ⟨p, hp, hpart⟩ := Option.map_eq_some_iff.mp hsame
      exact (hnow p hp).trans hpart
    · rfl
  rw [hrun, Control.configuration, Control.selection_run,
    Control.recorded_run (fun c e => (c.recorded_step e).2.1),
    Control.recorded_run (fun c e => (c.recorded_step e).2.2), hselection, hpreview, hstream,
    hrecorded devicePart c.selection fun p hp => congrArg (·.1) (h p hp),
    hrecorded (·.preview) c.previewGeometry fun p hp => congrArg (·.2.1) (h p hp),
    hrecorded (·.stream) c.streamGeometry fun p hp => congrArg (·.2.2) (h p hp)]
  rfl

end ConfigBridge

/-! ## The controller's side -/

section Controller

variable {β ω : Type} [Backend β] {well : ω → Prop}

theorem CaptureState.control_perform (eager : Bool) (op : Operation β) (s : CaptureState β) :
    (s.perform eager op).2.control = s.control.after op := by
  rcases s.perform_cases eager op with hsame | hpulled
  · rw [hsame, control_operate]
  · rw [hpulled, control_pull, control_operate]

/-- A part of the callers' side that no allowed operation changes survives what observers may ask
for. -/
theorem CaptureState.endures_view {α : Type} {allowed : Operation β → Prop} {view : Control → α}
    (hview : ∀ (c : Control) (op : Operation β), allowed op → view (c.after op) = view c) (x : α) :
    Endures allowed fun s => view s.control = x where
  handOut _ _ _ _ h := h
  perform _ op s hop h := by
    rw [control_perform, hview s.control op hop, h]

variable [Observer β ω] {c : Controller β ω}

/-- Such a part is, after some operations, what these operations make of it, whatever observers ask
for meanwhile. -/
theorem Controller.upholds_performAll {α : Type} {allowed : Operation β → Prop} {view : Control → α}
    (hview : ∀ (c : Control) (op : Operation β), allowed op → view (c.after op) = view c)
    (hcongr : ∀ (c d : Control) (op : Operation β), view c = view d →
      view (c.after op) = view (d.after op))
    (hmanners : Manners allowed well) (hobservers : ∀ o ∈ c.observers, well o)
    (ops : List (Operation β)) :
    (c.performAll ops).Upholds
      (fun s => view s.control = view (ops.foldl Control.after c.state.control)) well := by
  have hfoldl (ops : List (Operation β)) (c d : Control) (h : view c = view d) :
      view (ops.foldl Control.after c) = view (ops.foldl Control.after d) := by
    induction ops generalizing c d with
    | nil => exact h
    | cons op rest ih => exact ih _ _ (hcongr c d op h)
  induction ops generalizing c with
  | nil => exact ⟨rfl, hobservers⟩
  | cons op rest ih =>
    have hfirst : (c.perform op).2.Upholds
        (fun s => view s.control = view (c.state.control.after op)) well :=
      upholds_performAt (CaptureState.endures_view hview _) hmanners c.patience
        (by rw [CaptureState.control_perform]) hobservers
    have hrest := ih hfirst.observers
    exact ⟨hrest.state.trans (hfoldl rest _ _ hfirst.state), hrest.observers⟩

end Controller

/-- Recorders whose rules ask only for operations that are allowed have manners. -/
theorem Scripted.Recorder.manners (allowed : Operation Camera → Prop) :
    Manners allowed fun o : Recorder => ∀ r ∈ o.rules, ∀ op ∈ r.steps, allowed op := by
  have hreact (kind : NotificationKind) (rules : List Rule)
      (h : ∀ r ∈ rules, ∀ op ∈ r.steps, allowed op) :
      (∀ op ∈ (react kind rules).1, allowed op) ∧
        ∀ r ∈ (react kind rules).2, ∀ op ∈ r.steps, allowed op := by
    induction rules with
    | nil => exact ⟨fun op hop => (nomatch hop), fun r hr => (nomatch hr)⟩
    | cons r rest ih =>
      have hfirst := h r List.mem_cons_self
      have hrest : ∀ r ∈ rest, ∀ op ∈ r.steps, allowed op :=
        fun r' hr' => h r' (List.mem_cons_of_mem r hr')
      unfold react
      split
      · refine ⟨hfirst, fun r' hr' => ?_⟩
        rcases List.mem_cons.mp hr' with rfl | hr'
        · exact hfirst
        · exact hrest r' hr'
      · refine ⟨(ih hrest).1, fun r' hr' => ?_⟩
        rcases List.mem_cons.mp hr' with rfl | hr'
        · exact hfirst
        · exact (ih hrest).2 r' hr'
  exact ⟨fun o n h => (hreact _ o.rules h).1, fun o n h => (hreact _ o.rules h).2⟩

/-! ## A bridge and its controller -/

/-- What can happen to a bridge and its controller. -/
inductive BridgeEvent (β ω : Type) where
  | notified (s : Settings)
  | loaded (text : String)
  /-- The controller is used by somebody else. -/
  | moved (m : Move β ω)

namespace BridgeEvent

variable {β ω : Type}

/-- The settings that the bridge accepts, if it does. -/
def accepted? : BridgeEvent β ω → Option Settings
  | notified s => some s
  | loaded text => (Settings.parse text).toOption
  | moved _ => none

/-- Somebody else neither configures the controller nor subscribes observers that would. -/
def Spares (well : ω → Prop) : BridgeEvent β ω → Prop
  | moved (.perform _ op) => op.configures = false
  | moved (.subscribe o) => well o
  | _ => True

end BridgeEvent

namespace ConfigBridge

variable {β ω : Type} [Backend β] [Observer β ω]

/-- The bridge and its controller after one event. -/
def step (p : ConfigBridge × Controller β ω) : BridgeEvent β ω → ConfigBridge × Controller β ω
  | .notified s => p.2.configure s p.1
  | .loaded text =>
    match p.2.load text p.1 with
    | .ok next => next
    | .error _ => p
  | .moved m => (p.1, p.2.move m)

/-- The bridge and its controller after some events. -/
def run (p : ConfigBridge × Controller β ω) (events : List (BridgeEvent β ω)) :
    ConfigBridge × Controller β ω :=
  events.foldl step p

/-- The settings `last` were accepted last, and they are on record. -/
structure InStep (well : ω → Prop) (last : Option Settings) (p : ConfigBridge × Controller β ω) :
    Prop where
  applied : p.1.applied = last
  agrees : p.1.Agrees p.2.state.control
  observers : ∀ o ∈ p.2.observers, well o

variable {well : ω → Prop} {last : Option Settings} {p : ConfigBridge × Controller β ω}

/-- Settings that are accepted are on record afterwards. -/
theorem InStep.configure
    (hmanners : Manners (fun op : Operation β => op.configures = false) well)
    (h : InStep well last p) (s : Settings) : InStep well (some s) (p.2.configure s p.1) := by
  have hdone := Controller.upholds_performAll (fun c _ hop => Control.configuration_after hop c)
    (fun _ _ op h => Control.configuration_after_congr h op) hmanners h.observers (p.1.operations s)
  refine ⟨rfl, ?_, hdone.observers⟩
  rintro _ ⟨⟩
  exact hdone.state.trans (configuration_operations h.agrees s)

theorem step_loaded (text : String) (p : ConfigBridge × Controller β ω) :
    step p (.loaded text) =
      match Settings.parse text with
      | .ok s => p.2.configure s p.1
      | .error _ => p := by
  simp only [step, Controller.load]
  cases Settings.parse text <;> rfl

/-- Settings that are accepted are applied, wherever they come from. -/
theorem step_of_accepted {e : BridgeEvent β ω} {s : Settings} (he : e.accepted? = some s)
    (p : ConfigBridge × Controller β ω) : step p e = p.2.configure s p.1 := by
  cases e with
  | notified s' =>
    obtain rfl : s' = s := Option.some.inj he
    rfl
  | loaded text =>
    rw [step_loaded]
    cases hparse : Settings.parse text with
    | ok s' =>
      obtain rfl : s' = s := by simpa [BridgeEvent.accepted?, hparse, Except.toOption] using he
      rfl
    | error _ => simp [BridgeEvent.accepted?, hparse, Except.toOption] at he
  | moved m => cases he

/-- Settings that were applied last leave everything as it is. -/
theorem configure_of_applied {s : Settings} (h : p.1.applied = some s) :
    p.2.configure s p.1 = p := by
  show (⟨some s⟩, p.2.performAll (p.1.operations s)) = p
  rw [operations_of_applied h, ← h]
  rfl

theorem InStep.step
    (hmanners : Manners (fun op : Operation β => op.configures = false) well)
    (h : InStep well last p) {e : BridgeEvent β ω} (he : e.Spares well) :
    InStep well (e.accepted?.or last) (step p e) := by
  cases e with
  | notified s => exact h.configure hmanners s
  | loaded text =>
    rw [step_loaded, BridgeEvent.accepted?]
    cases Settings.parse text with
    | ok s => exact h.configure hmanners s
    | error e => exact h
  | moved m =>
    have hmoved : (p.2.move m).Upholds
        (fun s => s.control.configuration = p.2.state.control.configuration) well := by
      refine Controller.Upholds.move
        (CaptureState.endures_view (fun c _ hop => Control.configuration_after hop c) _) hmanners
        ⟨rfl, h.observers⟩ ?_ ?_ ?_
      · rintro depth op rfl
        rw [CaptureState.control_perform, Control.configuration_after he]
      · rintro o rfl
        exact he
      · rintro i change rfl
        rfl
    exact ⟨h.applied, fun q hq => hmoved.state.trans (h.agrees q hq), hmoved.observers⟩

theorem inStep_run
    (hmanners : Manners (fun op : Operation β => op.configures = false) well)
    (h : InStep well none p) {events : List (BridgeEvent β ω)}
    (hevents : ∀ e ∈ events, e.Spares well) :
    InStep well (events.filterMap BridgeEvent.accepted?).getLast? (run p events) := by
  induction events using List.reverseRecOn with
  | nil => exact h
  | append_singleton events e ih =>
    have hbefore := ih fun e' he' => hevents e' (List.mem_append_left _ he')
    have hlast := hbefore.step hmanners (hevents e (by simp))
    rw [List.filterMap_append, List.getLast?_append, run, List.foldl_append]
    cases he : e.accepted? <;> simpa [he, run] using hlast

/-- As long as nobody else configures the controller, what it has on record is what the bridge accepted
last. The bridge selects a device exactly when another one is wanted than before, or another channel or
format. The settings that it accepted last, as a notification or as a document, and documents that
cannot be read change nothing at all. -/
theorem stays_in_step (builder : ControllerBuilder β) (eager queued : Bool) (observers : List ω)
    (events : List (BridgeEvent β ω))
    (hmanners : Manners (fun op : Operation β => op.configures = false) well)
    (hobservers : ∀ o ∈ observers, well o) (hevents : ∀ e ∈ events, e.Spares well) :
    let last := (events.filterMap BridgeEvent.accepted?).getLast?
    let p := run (initial, Controller.build builder eager queued observers) events
    let c := p.2.state
    p.1.applied = last ∧
      (∀ s, last = some s →
        c.desired = s.device ∧ c.channel = s.channel ∧ c.format = s.format ∧
          c.preview.geometry = s.preview ∧ c.stream.geometry = s.stream) ∧
      (∀ s, ((p.1.operations s : List (Operation β)).map Step.operation).filterMap Step.selection? =
        if last.map devicePart = some (devicePart s) then [] else [devicePart s]) ∧
      (∀ s, last = some s → (p.1.operations s : List (Operation β)) = [] ∧
        ∀ e : BridgeEvent β ω, e.accepted? = some s → step p e = p) ∧
      ∀ text e, Settings.parse text = .error e → step p (.loaded text) = p := by
  intro last p c
  have hstart : InStep well none (initial, Controller.build builder eager queued observers) :=
    ⟨rfl, fun _ h => (nomatch h), hobservers⟩
  have hstep : InStep well last p := inStep_run hmanners hstart hevents
  refine ⟨hstep.applied, ?_, ?_, ?_, ?_⟩
  · intro s hs
    have hrecord := hstep.agrees s (hstep.applied.trans hs)
    injection hrecord with hselection hgeometries
    injection hselection with hdevice hrest
    injection hrest with hchannel hformat
    injection hgeometries with hpreview hstream
    exact ⟨hdevice, hchannel, hformat, hpreview, hstream⟩
  · intro s
    rw [← hstep.applied]
    exact (recorded_operations p.1 s).1
  · intro s hs
    have happlied := hstep.applied.trans hs
    refine ⟨operations_of_applied happlied, fun e he => ?_⟩
    rw [step_of_accepted he p]
    exact configure_of_applied happlied
  · intro text e he
    rw [step_loaded, he]

/-- Settings that arrive while the preview runs; an observer stops the preview whenever a device is
opened. -/
theorem stays_in_step_of_recorder :
    let wanted : Settings :=
      { Settings.default with device := ⟨"scripted", "camera", "0"⟩, channel := 2 }
    let recorder : Scripted.Recorder := ⟨[⟨.opened, [.stopPreview], 3⟩]⟩
    let builder : ControllerBuilder Scripted.Camera := ControllerBuilder.default
    let events : List (BridgeEvent Scripted.Camera Scripted.Recorder) :=
      [.moved (.perform 3 .startPreview), .loaded "", .notified wanted,
        .moved (.perform 2 .startStream)]
    let p := run (initial, Controller.build builder true false [recorder]) events
    p.2.state.desired = wanted.device ∧ step p (.notified wanted) = p := by
  intro wanted recorder builder events
  have hmanners := Scripted.Recorder.manners (fun op => op.configures = false)
  have hobservers : ∀ o ∈ [recorder], ∀ r ∈ o.rules, ∀ op ∈ r.steps, op.configures = false := by
    simp [recorder, Operation.configures]
  have hevents : ∀ e ∈ events, e.Spares fun o : Scripted.Recorder =>
      ∀ r ∈ o.rules, ∀ op ∈ r.steps, op.configures = false := by
    simp [events, BridgeEvent.Spares, Operation.configures]
  have hlast : (events.filterMap BridgeEvent.accepted?).getLast? = some wanted := by
    simp [events, List.findSome?, BridgeEvent.accepted?]
  have hlaw := stays_in_step builder true false [recorder] events hmanners hobservers hevents
  have hrecord := hlaw.2.1 wanted hlast
  have hrepeated := hlaw.2.2.2.1 wanted hlast
  exact ⟨hrecord.1, hrepeated.2 (.notified wanted) rfl⟩

end ConfigBridge

end VideoCapture
