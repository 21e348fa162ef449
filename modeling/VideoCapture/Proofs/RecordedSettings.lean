import VideoCapture.Proofs.Steady

/-!
# Recorded settings follow the open device

What is recorded for the consumer that decides are the adjustments of the open device: those that
its last opening reported, with every one sent since. When the device passes from one consumer to
the other without being opened anew, so does the record; nothing else changes what is recorded for
the consumer that does not decide.

## Main definitions

* `Step.handsOver` — the device passes from one consumer to the other.

The main statement is `ControllerBuilder.recorded_settings`.
-/

namespace VideoCapture

/-- Whether a step makes the device pass from one consumer to the other: the stream starts over an
active preview, or stops and leaves it active. -/
def Step.handsOver {β : Type} (c : Control) : Step β → Bool
  | operation .startStream => c.previewActive && !c.streamActive
  | operation .stopStream => c.previewActive && c.streamActive
  | _ => false

/-- Only a hand-over makes another consumer decide. -/
theorem Control.activeMode_step {β : Type} {c : Control} {e : Step β} (he : e.handsOver c = false)
    {m n : Mode} (hm : c.activeMode = some m) (hn : (c.step e).activeMode = some n) : n = m := by
  cases e with
  | operation op =>
    cases op with
    | startPreview | stopPreview | startStream | stopStream | shutDown =>
      simp only [step, after] at hn
      cases hp : c.previewActive <;> cases hs : c.streamActive <;>
        simp_all [activeMode, sync, Step.handsOver]
    | _ => exact Option.some.inj (hn.symm.trans hm)
  | handOut => exact Option.some.inj (hn.symm.trans hm)
  | stir => exact Option.some.inj (hn.symm.trans hm)

namespace ControllerBuilder

variable {β : Type} [Backend β]

/-- While a consumer decides how the device is opened, what is recorded for it are the adjustments
that the last successful opening reported with every one sent since, whatever the device answered.
What is recorded for the other consumer is changed by nothing but a hand-over. -/
theorem recorded_settings (builder : ControllerBuilder β) (steps : List (Step β)) :
    let s := builder.start.run steps
    (∀ m, s.activeMode = some m → s.trace.settings? = some (s.mode m).settings) ∧
      ∀ m n e, s.activeMode = some m → n ≠ m → e.handsOver s.control = false →
        ((s.step e).mode n).settings = (s.mode n).settings := by
  intro s
  obtain ⟨hs, hsync⟩ : s.Steady ∧ s.control.Synced := builder.steady_run steps
  refine ⟨hs.told, ?_⟩
  intro m n e hm hne he
  refine (CaptureState.steady_step hs hsync e).2 n fun hn => hne ?_
  rw [CaptureState.control_step] at hn
  exact Control.activeMode_step he hm hn

end ControllerBuilder

end VideoCapture
