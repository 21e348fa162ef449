import VideoCapture.Controller.Builder
import VideoCapture.Proofs.Settled
import Mathlib.Data.List.Induction

/-!
# Runs of the controller

Everything that happens to the state of a controller happens in steps: operations, notifications
that leave the outbox, and backends that change on their own between two calls. What holds at the
beginning and survives every step holds after every run.

## Main definitions

* `Step` — what can happen to the state.
* `Step.asked?` — what a step asks for, whatever the backends are.
* `CaptureState.step`, `CaptureState.run` — the state after one step and after many.
* `CaptureState.moments` — the steps of a run, each with the state it is taken in.
* `ControllerBuilder.start` — the state of a controller at its beginning.

The main statements are `ControllerBuilder.settled_run`, by which the device side follows the
callers' side in every reachable state, and `ControllerBuilder.control_run`, by which the callers'
side follows the operations.
-/

namespace VideoCapture

/-- The same operation over backends of another type. -/
def Operation.map {β γ : Type} (f : β → γ) : Operation β → Operation γ
  | setDevice device channel format => .setDevice device channel format
  | setPreview g => .setPreview g
  | setStream g => .setStream g
  | startPreview => .startPreview
  | stopPreview => .stopPreview
  | startStream => .startStream
  | stopStream => .stopStream
  | frame => .frame
  | pull => .pull
  | adjust kind value => .adjust kind value
  | addDevice framework name caps => .addDevice framework name caps
  | removeDevice framework name caps => .removeDevice framework name caps
  | addBackend b => .addBackend (f b)
  | enumerate => .enumerate
  | mode => .mode
  | shutDown => .shutDown

/-- Where each item of a list records something or nothing, the last that recorded something counts. -/
theorem foldl_recorded {σ ι α : Type} {f : σ → ι → σ} (part : σ → α) {recorded? : ι → Option α}
    (h : ∀ s i, part (f s i) = (recorded? i).getD (part s)) (s : σ) (items : List ι) :
    part (items.foldl f s) = (items.filterMap recorded?).getLastD (part s) := by
  induction items using List.reverseRecOn with
  | nil => rfl
  | append_singleton items i ih =>
    rw [List.foldl_append, List.foldl_cons, List.foldl_nil, h, ih]
    cases hi : recorded? i <;> simp [hi, List.filterMap_append]

/-- What can happen to the state of a controller over backends of type `β`. -/
inductive Step (β : Type) where
  | operation (op : Operation β)
  /-- The oldest notification leaves the outbox. -/
  | handOut
  /-- The backend at a position changes on its own. -/
  | stir (backend : Nat) (change : β → β)

namespace Step

variable {β : Type}

/-- What a step asks for, whatever the backends are. A pull of the preview loop asks for nothing. -/
def asked? : Step β → Option (Operation Unit)
  | operation .pull => none
  | operation op => some (op.map fun _ => ())
  | _ => none

/-- The selection that a step asks for, if it does. -/
def selection? : Step β → Option Selection
  | operation (.setDevice device channel format) => some (device, channel, format)
  | _ => none

/-- The preview geometry that a step sets, if it does. -/
def previewGeometry? : Step β → Option Geometry
  | operation (.setPreview g) => some g
  | _ => none

/-- The stream geometry that a step sets, if it does. -/
def streamGeometry? : Step β → Option Geometry
  | operation (.setStream g) => some g
  | _ => none

end Step

namespace Control

variable {β : Type}

/-- What is asked for after a step. -/
def step (c : Control) : Step β → Control
  | .operation op => c.after op
  | _ => c

/-- What is asked for after some steps. -/
def run (c : Control) (steps : List (Step β)) : Control := steps.foldl step c

@[simp] theorem run_nil (c : Control) : c.run ([] : List (Step β)) = c := rfl

@[simp] theorem run_concat (c : Control) (steps : List (Step β)) (e : Step β) :
    c.run (steps ++ [e]) = (c.run steps).step e := by
  simp [run]

/-- What steps record in a part of the callers' side is what the latest of them recorded there. -/
theorem recorded_run {α : Type} {part : Control → α} {recorded? : Step β → Option α}
    (h : ∀ c e, part (step c e) = (recorded? e).getD (part c)) (c : Control)
    (steps : List (Step β)) :
    part (c.run steps) = (steps.filterMap recorded?).getLastD (part c) :=
  foldl_recorded part h c steps

/-- A selection or a geometry is recorded by the operation that asks for it, and by no other. -/
theorem recorded_step (c : Control) (e : Step β) :
    (c.step e).selection = e.selection?.getD c.selection ∧
      (c.step e).previewGeometry = e.previewGeometry?.getD c.previewGeometry ∧
      (c.step e).streamGeometry = e.streamGeometry?.getD c.streamGeometry := by
  cases e with
  | operation op =>
    cases op with
    | startPreview | stopPreview | startStream | stopStream =>
      simp only [step, after]
      split <;> exact ⟨rfl, rfl, rfl⟩
    | _ => exact ⟨rfl, rfl, rfl⟩
  | handOut => exact ⟨rfl, rfl, rfl⟩
  | stir => exact ⟨rfl, rfl, rfl⟩

/-- The selection recorded is that of the latest `setDevice`. -/
theorem selection_run (c : Control) (steps : List (Step β)) :
    (c.run steps).selection = (steps.filterMap Step.selection?).getLastD c.selection :=
  recorded_run (fun c e => (c.recorded_step e).1) c steps

end Control

namespace CaptureState

variable {β : Type} [Backend β]

/-- The state after one step. -/
def step (s : CaptureState β) : Step β → CaptureState β
  | .operation op => (s.operate op).2
  | .handOut => { s with outbox := s.outbox.tail }
  | .stir i change => s.alter i change

/-- The state after some steps. -/
def run (s : CaptureState β) (steps : List (Step β)) : CaptureState β := steps.foldl step s

@[simp] theorem run_nil (s : CaptureState β) : s.run [] = s := rfl

theorem run_append (s : CaptureState β) (steps more : List (Step β)) :
    s.run (steps ++ more) = (s.run steps).run more :=
  List.foldl_append

@[simp] theorem run_concat (s : CaptureState β) (steps : List (Step β)) (e : Step β) :
    s.run (steps ++ [e]) = (s.run steps).step e := by
  rw [run_append]
  rfl

/-- The steps of a run, each with the state that it is taken in. -/
def moments (s : CaptureState β) : List (Step β) → List (CaptureState β × Step β)
  | [] => []
  | e :: rest => (s, e) :: (s.step e).moments rest

@[simp] theorem moments_nil (s : CaptureState β) : s.moments [] = [] := rfl

@[simp] theorem moments_concat (s : CaptureState β) (steps : List (Step β)) (e : Step β) :
    s.moments (steps ++ [e]) = s.moments steps ++ [(s.run steps, e)] := by
  induction steps generalizing s with
  | nil => rfl
  | cons first rest ih => exact congrArg _ (ih (s.step first))

theorem control_step (s : CaptureState β) (e : Step β) : (s.step e).control = s.control.step e := by
  cases e with
  | operation op => exact control_operate op s
  | handOut => rfl
  | stir => rfl

theorem settled_step {s : CaptureState β} (h : s.Settled) (e : Step β) : (s.step e).Settled := by
  cases e with
  | operation op => exact settled_operate h op
  | handOut => exact h
  | stir i change => exact settled_alter h i change

theorem settled_initial (preview stream : Geometry) (backends : List β) :
    (initial preview stream backends).Settled := by
  have hstart :
      ((blank (β := β) preview stream).register (.logo Logo.initial)
        Descriptor.fallbackName).Settled := by
    refine settled_of_resting ⟨⟨⟨Logo.initial, rfl, rfl⟩, ?_, ?_, ?_, ?_, ?_⟩, rfl, rfl⟩ rfl
    · simp [custody, register, blank]
    · simp [custody, register, blank]
    · simp [custody, register, blank, trace]
    · exact Trace.disciplined_nil
    · exact Trace.reliable_nil
  exact List.foldlRecOn (motive := Settled) _ _ hstart
    fun s hs b _ => settled_register hs (.device b) _

end CaptureState

namespace ControllerBuilder

variable {β : Type} (builder : ControllerBuilder β)

/-- What is asked for after some steps of a controller. -/
def asked (steps : List (Step β)) : Control :=
  (Control.initial builder.preview builder.stream).run steps

variable [Backend β]

/-- The state of a controller at its beginning. -/
def start : CaptureState β :=
  CaptureState.initial builder.preview builder.stream builder.backends

/-- The callers' side follows the operations, whatever backends answer. -/
theorem control_run (steps : List (Step β)) :
    (builder.start.run steps).control = builder.asked steps := by
  induction steps using List.reverseRecOn with
  | nil => exact CaptureState.control_initial _ _ _
  | append_singleton steps e ih =>
    rw [CaptureState.run_concat, CaptureState.control_step, ih, asked, asked, Control.run_concat]

/-- The device side follows the callers' side in every reachable state. -/
theorem settled_run (steps : List (Step β)) : (builder.start.run steps).Settled := by
  induction steps using List.reverseRecOn with
  | nil => exact CaptureState.settled_initial _ _ _
  | append_singleton steps e ih =>
    rw [CaptureState.run_concat]
    exact CaptureState.settled_step ih e

end ControllerBuilder

end VideoCapture
