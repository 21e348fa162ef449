import VideoCapture.Proofs.Control
import VideoCapture.Proofs.Trace

/-!
# The device side of the controller

Who holds the device: the backends, which of them serves the current device, at which geometry it is
open, and the calls made so far. Beside the callers' side this is all that matters of a state.

## Main definitions

* `Custody` — the device side of the state.
* `Custody.SyntheticAt` — the first backend is the synthetic device, open at a geometry or not at all.
* `Custody.Sound` — what holds of the device side at every moment, also in the middle of an operation.
* `Custody.Talked` — nothing but backends and calls has changed.
* `Custody.Resting`, `Custody.Ready`, `Custody.Serving` — the phases: nothing is chosen, a backend is
  chosen, the chosen backend is open.
* `Custody.Settled` — the phase that the callers' side asks for.
-/

namespace VideoCapture

/-- The device side of the state. -/
structure Custody (β : Type) where
  backends : List (Registered β)
  manager : Option Nat
  opened : Option Geometry
  current : Descriptor
  trace : Trace

namespace Custody

variable {β : Type}

/-- The device side after the backend at position `i` has answered a call and become `r`. -/
def reply (c : Custody β) (i : Nat) (r : Registered β) (call : Call) : Custody β :=
  { c with backends := c.backends.set i r, trace := c.trace ++ [(i, call)] }

/-- The first backend is the synthetic device, open at `opened`. -/
def SyntheticAt (c : Custody β) (opened : Option Geometry) : Prop :=
  ∃ l : Logo, c.backends[0]? = some ⟨Descriptor.fallbackName, .logo l⟩ ∧ l.opened = opened

/-- Nothing but the backends themselves and the calls made to them has changed. -/
structure Talked (c d : Custody β) : Prop where
  manager : d.manager = c.manager
  opened : d.opened = c.opened
  current : d.current = c.current
  length : d.backends.length = c.backends.length

theorem Talked.refl (c : Custody β) : Talked c c := ⟨rfl, rfl, rfl, rfl⟩

theorem Talked.trans {c d e : Custody β} (h : Talked c d) (g : Talked d e) : Talked c e :=
  ⟨g.manager.trans h.manager, g.opened.trans h.opened, g.current.trans h.current,
    g.length.trans h.length⟩

theorem talked_reply (c : Custody β) (i : Nat) (r : Registered β) (call : Call) :
    Talked c (c.reply i r call) :=
  ⟨rfl, rfl, rfl, by simp [reply]⟩

theorem SyntheticAt.reply_of_ne {c : Custody β} {opened : Option Geometry}
    (h : c.SyntheticAt opened) {i : Nat} (hi : i ≠ 0) (r : Registered β) (call : Call) :
    (c.reply i r call).SyntheticAt opened := by
  obtain ⟨l, hl, ho⟩ := h
  exact ⟨l, by simpa [reply, hi] using hl, ho⟩

theorem SyntheticAt.reply_zero {c : Custody β} {opened : Option Geometry}
    (h : c.SyntheticAt opened) (l : Logo) (call : Call) :
    (c.reply 0 ⟨Descriptor.fallbackName, .logo l⟩ call).SyntheticAt l.opened := by
  obtain ⟨l', hl, _⟩ := h
  have hpos : 0 < c.backends.length := (List.getElem?_eq_some_iff.mp hl).1
  exact ⟨l, by simp [reply, hpos], rfl⟩

/-- What holds of the device side at every moment. -/
structure Sound (c : Custody β) : Prop where
  /-- The synthetic device comes first and knows whether it is the open one. -/
  synthetic : c.SyntheticAt (if c.manager = some 0 then c.opened else none)
  registered : ∀ i, c.manager = some i → i < c.backends.length
  managed : c.opened.isSome = true → c.manager.isSome = true
  /-- The calls tell that exactly the backend of the open device is open. -/
  held : ∀ j, c.trace.isOpen j = true ↔ c.opened.isSome = true ∧ c.manager = some j
  disciplined : c.trace.Disciplined
  reliable : c.trace.Reliable

namespace Sound

variable {c : Custody β}

theorem exists_backend (h : c.Sound) {i : Nat} (hm : c.manager = some i) :
    ∃ r, c.backends[i]? = some r :=
  ⟨_, List.getElem?_eq_getElem (h.registered i hm)⟩

theorem first (h : c.Sound) {r : Registered β} (hr : c.backends[0]? = some r) :
    ∃ l : Logo, r = ⟨Descriptor.fallbackName, .logo l⟩ ∧
      l.opened = if c.manager = some 0 then c.opened else none := by
  obtain ⟨l, hl, ho⟩ := h.synthetic
  exact ⟨l, Option.some.inj (hr.symm.trans hl), ho⟩

theorem isOpen_of_closed (h : c.Sound) (ho : c.opened = none) (j : Nat) :
    c.trace.isOpen j = false := by
  have hj := h.held j
  simpa [ho] using hj

theorem isOpen_iff_of_opened (h : c.Sound) {i : Nat} {g : Geometry} (hm : c.manager = some i)
    (ho : c.opened = some g) (j : Nat) : c.trace.isOpen j = true ↔ j = i := by
  rw [h.held j]
  simp [hm, ho, eq_comm]

/-- While nothing is open, any registered backend may be chosen for any device. -/
theorem choose (h : c.Sound) (ho : c.opened = none) (manager : Option Nat) (current : Descriptor)
    (hm : ∀ i, manager = some i → i < c.backends.length) :
    Sound { c with manager := manager, current := current } where
  synthetic := by
    have hsyn := h.synthetic
    simp only [ho, ite_self] at hsyn ⊢
    exact hsyn
  registered := hm
  managed := by simp [ho]
  held j := by simp [ho, h.isOpen_of_closed ho j]
  disciplined := h.disciplined
  reliable := h.reliable

/-- A call that was allowed and neither opens nor closes anything. -/
theorem reply (h : c.Sound) {i : Nat} {r : Registered β} {call : Call}
    (hsyn : (c.reply i r call).SyntheticAt (if c.manager = some 0 then c.opened else none))
    (hquiet : call.holds (c.trace.isOpen i) = c.trace.isOpen i) (hp : c.trace.Permits i call)
    (hok : i = 0 → ¬ call.Fails) : (c.reply i r call).Sound where
  synthetic := hsyn
  registered j hj := by
    rw [(talked_reply c i r call).length]
    exact h.registered j hj
  managed := h.managed
  held j := by
    have hsame : (c.reply i r call).trace.isOpen j = c.trace.isOpen j := by
      by_cases hij : i = j
      · subst hij
        simp [Custody.reply, hquiet]
      · simp [Custody.reply, hij]
    rw [hsame]
    exact h.held j
  disciplined := h.disciplined.concat hp
  reliable := h.reliable.concat hok

/-- The chosen backend opened. -/
theorem reply_opened (h : c.Sound) {i : Nat} {r : Registered β} {g : Geometry}
    {settings : AdjustmentSet} (hm : c.manager = some i) (ho : c.opened = none)
    (hsyn : (c.reply i r (.openAt g (some settings))).SyntheticAt
      (if i = 0 then some g else none)) :
    Sound { c.reply i r (.openAt g (some settings)) with opened := some g } where
  synthetic := by
    have hif : (if c.manager = some 0 then some g else none) = if i = 0 then some g else none := by
      simp [hm]
    rw [← hif] at hsyn
    exact hsyn
  registered j hj := by
    rw [(talked_reply c i r (.openAt g (some settings))).length]
    exact h.registered j hj
  managed _ := by simp [Custody.reply, hm]
  held j := by
    by_cases hij : i = j <;> simp [Custody.reply, Call.holds, hm, hij, h.isOpen_of_closed ho]
  disciplined := h.disciplined.concat (h.isOpen_of_closed ho)
  reliable := h.reliable.concat fun _ => by simp [Call.Fails]

/-- The open backend was closed. -/
theorem reply_closed (h : c.Sound) {i : Nat} {r : Registered β} {g : Geometry}
    (hm : c.manager = some i) (ho : c.opened = some g)
    (hsyn : (c.reply i r .close).SyntheticAt none) :
    Sound { c.reply i r .close with opened := none } where
  synthetic := by
    rw [ite_self]
    exact hsyn
  registered j hj := by
    rw [(talked_reply c i r .close).length]
    exact h.registered j hj
  managed := by simp
  held j := by
    have hopen := h.isOpen_iff_of_opened hm ho j
    by_cases hij : i = j
    · simp [Custody.reply, Call.holds, hij]
    · have hne : j ≠ i := fun hji => hij hji.symm
      simpa [Custody.reply, hij, hne] using hopen
  disciplined := h.disciplined.concat (h.isOpen_iff_of_opened hm ho)
  reliable := h.reliable.concat fun _ => by simp [Call.Fails]

theorem syntheticAt_none (h : c.Sound) (ho : c.opened = none) : c.SyntheticAt none := by
  have hsyn := h.synthetic
  rwa [ho, ite_self] at hsyn

/-- Backends may come, and others than the synthetic device may change on their own. -/
theorem withBackends (h : c.Sound) {backends : List (Registered β)}
    (hfirst : backends[0]? = c.backends[0]?) (hlength : c.backends.length ≤ backends.length) :
    Sound { c with backends := backends } where
  synthetic := by
    obtain ⟨l, hl, ho⟩ := h.synthetic
    exact ⟨l, hfirst.trans hl, ho⟩
  registered i hi := Nat.lt_of_lt_of_le (h.registered i hi) hlength
  managed := h.managed
  held := h.held
  disciplined := h.disciplined
  reliable := h.reliable

end Sound

/-! ## The phases of a session -/

/-- The backend at position `i` is chosen: it accepted the current device with the channel and the
format asked for, and no selection was accepted since. -/
structure Selected (c : Custody β) (k : Control) (i : Nat) : Prop where
  manager : c.manager = some i
  accepted : c.trace.selection? = some (i, c.current, k.channel, k.format)
  device : c.current = k.desired ∨ c.current = Descriptor.fallback
  fallback : c.current = Descriptor.fallback → i = 0

/-- A call that selects nothing leaves the choice as it is. -/
theorem Selected.reply {c : Custody β} {k : Control} {i : Nat} (h : c.Selected k i) {j : Nat}
    {r : Registered β} {call : Call} (hcall : call.accepted? = none) :
    (c.reply j r call).Selected k i where
  manager := h.manager
  accepted := by simpa [Custody.reply, hcall] using h.accepted
  device := h.device
  fallback := h.fallback

/-- Of the callers' side, the choice only depends on what `setDevice` records. -/
theorem Selected.of_selection {c : Custody β} {k k' : Control} {i : Nat} (h : c.Selected k i)
    (hk : k'.selection = k.selection) : c.Selected k' i := by
  injection hk with hdesired hrest
  injection hrest with hchannel hformat
  refine ⟨h.manager, ?_, ?_, h.fallback⟩
  · rw [hchannel, hformat]
    exact h.accepted
  · rw [hdesired]
    exact h.device

/-- The choice does not depend on what is open. -/
theorem Selected.withOpened {c : Custody β} {k : Control} {i : Nat} (h : c.Selected k i)
    (opened : Option Geometry) : Selected { c with opened := opened } k i :=
  ⟨h.manager, h.accepted, h.device, h.fallback⟩

/-- Nothing is chosen and nothing is open. -/
structure Resting (c : Custody β) : Prop extends Sound c where
  unmanaged : c.manager = none
  closed : c.opened = none

/-- A backend is chosen and nothing is open. -/
structure Ready (c : Custody β) (k : Control) (i : Nat) : Prop extends Sound c, Selected c k i where
  closed : c.opened = none

/-- The chosen backend is open at a geometry. -/
structure Serving (c : Custody β) (k : Control) (i : Nat) (g : Geometry) : Prop
    extends Sound c, Selected c k i where
  opened : c.opened = some g

theorem Resting.of_talked {c d : Custody β} (h : c.Resting) (hd : d.Sound) (ht : c.Talked d) :
    d.Resting :=
  ⟨hd, ht.manager.trans h.unmanaged, ht.opened.trans h.closed⟩

theorem Serving.of_talked {c d : Custody β} {k : Control} {i : Nat} {g : Geometry}
    (h : c.Serving k i g) (hd : d.Sound) (ht : c.Talked d)
    (hsel : d.trace.selection? = c.trace.selection?) : d.Serving k i g where
  toSound := hd
  manager := ht.manager.trans h.manager
  accepted := by rw [hsel, ht.current]; exact h.accepted
  device := by rw [ht.current]; exact h.device
  fallback := by rw [ht.current]; exact h.fallback
  opened := ht.opened.trans h.opened

theorem Ready.of_selection {c : Custody β} {k k' : Control} {i : Nat} (h : c.Ready k i)
    (hk : k'.selection = k.selection) : c.Ready k' i :=
  ⟨h.toSound, h.toSelected.of_selection hk, h.closed⟩

theorem Serving.of_selection {c : Custody β} {k k' : Control} {i : Nat} {g : Geometry}
    (h : c.Serving k i g) (hk : k'.selection = k.selection) : c.Serving k' i g :=
  ⟨h.toSound, h.toSelected.of_selection hk, h.opened⟩

/-- What holds between operations: without an active consumer the device side rests, and otherwise a
backend is open at the geometry of the consumer that decides. -/
def Settled (c : Custody β) (k : Control) : Prop :=
  match k.activeMode with
  | none => c.Resting
  | some m => ∃ i, c.Serving k i (k.openGeometry m)

theorem Settled.withBackends {c : Custody β} {k : Control} (h : c.Settled k)
    {backends : List (Registered β)} (hfirst : backends[0]? = c.backends[0]?)
    (hlength : c.backends.length ≤ backends.length) :
    Settled { c with backends := backends } k := by
  unfold Settled at h ⊢
  split
  · rename_i hm
    rw [hm] at h
    exact ⟨h.toSound.withBackends hfirst hlength, h.unmanaged, h.closed⟩
  · rename_i m hm
    rw [hm] at h
    obtain ⟨i, hi⟩ := h
    exact ⟨i, hi.toSound.withBackends hfirst hlength,
      ⟨hi.manager, hi.accepted, hi.device, hi.fallback⟩, hi.opened⟩

end Custody

namespace CaptureState

variable {β : Type}

/-- The calls to backends so far. -/
def trace (s : CaptureState β) : Trace := s.log.filterMap Effect.call?

/-- The device side of the state. -/
def custody (s : CaptureState β) : Custody β :=
  ⟨s.backends, s.manager, s.opened, s.current, s.trace⟩

/-! ## Steps that leave the device side alone -/

theorem custody_note {e : Effect} (h : e.call? = none) (s : CaptureState β) :
    (s.note e).custody = s.custody := by
  simp [custody, trace, note, h]

@[simp] theorem custody_raise (n : Notification) (s : CaptureState β) :
    (s.raise n).custody = s.custody :=
  custody_note (e := .raised n) rfl _

@[simp] theorem custody_setSettings (m : Mode) (settings : AdjustmentSet) (s : CaptureState β) :
    (s.setSettings m settings).custody = s.custody := by
  cases m <;> rfl

@[simp] theorem custody_setGeometry (m : Mode) (g : Geometry) (s : CaptureState β) :
    (s.setGeometry m g).custody = s.custody := by
  cases m <;> rfl

@[simp] theorem custody_setActive (m : Mode) (active : Bool) (s : CaptureState β) :
    (s.setActive m active).custody = s.custody := by
  rw [setActive, custody_note rfl]
  cases m <;> rfl

@[simp] theorem custody_syncModes (s : CaptureState β) : s.syncModes.custody = s.custody := rfl

@[simp] theorem custody_startLoop (s : CaptureState β) : s.startLoop.custody = s.custody := by
  unfold startLoop
  split
  · rfl
  · rw [custody_note rfl]
    rfl

@[simp] theorem custody_stopLoop (s : CaptureState β) : s.stopLoop.custody = s.custody := by
  unfold stopLoop
  split
  · rw [custody_note rfl]
    rfl
  · rfl

/-! ## One call -/

section Call

variable {α : Type} {i : Nat} {s : CaptureState β} {r : Registered β}

theorem call_value (h : s.backends[i]? = some r) (act : Source β → Reply (Source β) α)
    (describe : α → Call) : (s.call i act describe).1 = some (act r.backend).value := by
  simp [call, h]

theorem custody_call (h : s.backends[i]? = some r) (act : Source β → Reply (Source β) α)
    (describe : α → Call) :
    (s.call i act describe).2.custody =
      s.custody.reply i { r with backend := (act r.backend).backend }
        (describe (act r.backend).value) := by
  simp only [call, h, raiseAll_eq]
  simp [custody, trace, note, Custody.reply, Effect.call?]

theorem talked_call (act : Source β → Reply (Source β) α) (describe : α → Call) :
    s.custody.Talked (s.call i act describe).2.custody := by
  cases h : s.backends[i]? with
  | none => simpa [call, h] using Custody.Talked.refl s.custody
  | some r =>
    rw [custody_call h]
    exact Custody.talked_reply _ _ _ _

theorem selection?_call {act : Source β → Reply (Source β) α} {describe : α → Call}
    (hcall : ∀ a, (describe a).accepted? = none) :
    (s.call i act describe).2.trace.selection? = s.trace.selection? := by
  cases h : s.backends[i]? with
  | none => simp [call, h]
  | some r =>
    have htrace := congrArg Custody.trace (custody_call h act describe)
    simp only [custody, Custody.reply] at htrace
    rw [htrace, Trace.selection?_concat, hcall]
    rfl

/-- A call that was allowed, neither opens nor closes anything and which the synthetic device
answers well. -/
theorem sound_call (hs : s.custody.Sound) {act : Source β → Reply (Source β) α}
    {describe : α → Call}
    (hlogo : ∀ l : Logo, ∃ l' : Logo, (act (.logo l)).backend = .logo l' ∧ l'.opened = l.opened)
    (hquiet : ∀ a held, (describe a).holds held = held)
    (hp : ∀ a, s.trace.Permits i (describe a))
    (hok : ∀ l : Logo, i = 0 → l.opened = (if s.manager = some 0 then s.opened else none) →
      ¬ (describe (act (.logo l)).value).Fails) :
    (s.call i act describe).2.custody.Sound := by
  cases hr : s.backends[i]? with
  | none => simpa [call, hr] using hs
  | some r =>
    rw [custody_call hr]
    by_cases hzero : i = 0
    · subst hzero
      obtain ⟨l, rfl, ho⟩ := hs.first hr
      obtain ⟨l', hl', ho'⟩ := hlogo l
      refine hs.reply ?_ (hquiet _ _) (hp _) fun hz => hok l hz ho
      have hsyn := hs.synthetic.reply_zero l' (describe (act (.logo l)).value)
      rw [ho', ho] at hsyn
      simpa [hl'] using hsyn
    · exact hs.reply (hs.synthetic.reply_of_ne hzero _ _) (hquiet _ _) (hp _)
        fun hz => absurd hz hzero

end Call

end CaptureState

end VideoCapture
