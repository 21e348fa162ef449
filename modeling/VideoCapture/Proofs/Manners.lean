import VideoCapture.Controller.Delivery
import Mathlib.Tactic.Common

/-!
# What survives observers

Observers may ask for operations while they are told, so one operation may become many. Where it is
known which operations they ask for, a property of the state that survives these survives everything
that happens before the controller returns.

## Main definitions

* `Manners` — observers ask only for certain operations.
* `CaptureState.Endures` — a property of the state survives these operations.
* `Controller.Upholds` — the state has the property, and the observers have manners.

The main statement is `Controller.upholds_performAt`.
-/

namespace VideoCapture

variable {β ω : Type}

/-- Observers that are `well` ask only for operations that are `allowed`, and stay so. -/
structure Manners [Observer β ω] (allowed : Operation β → Prop) (well : ω → Prop) : Prop where
  asks : ∀ (o : ω) (n : Notification), well o →
    ∀ op ∈ (Observer.receive n o : List (Operation β) × ω).1, allowed op
  stays : ∀ (o : ω) (n : Notification), well o →
    well (Observer.receive n o : List (Operation β) × ω).2

/-- Where everything is allowed, all observers have manners. -/
theorem manners_any [Observer β ω] : Manners (fun _ : Operation β => True) fun _ : ω => True :=
  ⟨fun _ _ _ _ _ => trivial, fun _ _ _ => trivial⟩

/-- The property survives that a notification is handed out, and operations that are `allowed`. -/
structure CaptureState.Endures [Backend β] (allowed : Operation β → Prop)
    (property : CaptureState β → Prop) : Prop where
  handOut : ∀ (s : CaptureState β) n rest, s.outbox = n :: rest → property s →
    property { s with outbox := rest }
  perform : ∀ (eager : Bool) (op : Operation β) (s : CaptureState β), allowed op → property s →
    property (s.perform eager op).2

namespace Controller

/-- The state has the property, and all observers are `well`. -/
structure Upholds (property : CaptureState β → Prop) (well : ω → Prop) (c : Controller β ω) :
    Prop where
  state : property c.state
  observers : ∀ o ∈ c.observers, well o

variable {allowed : Operation β → Prop} {well : ω → Prop} {property : CaptureState β → Prop}
  {c : Controller β ω}

/-- Following requests that are `allowed` keeps the property. -/
def Respects (allowed : Operation β → Prop) (property : CaptureState β → Prop) (well : ω → Prop)
    (react : Reaction β ω) : Prop :=
  ∀ (i : Nat) (ops : List (Operation β)) (c : Controller β ω), (∀ op ∈ ops, allowed op) →
    c.Upholds property well → (react i ops c).Upholds property well

theorem respects_cutOff : Respects allowed property well (cutOff : Reaction β ω) := by
  intro i ops c _ h
  unfold cutOff
  split
  · exact h
  · exact ⟨h.state, h.observers⟩

theorem respects_follow {perform : Operation β → Controller β ω → Outcome × Controller β ω}
    (hperform : ∀ op c, allowed op → c.Upholds property well →
      (perform op c).2.Upholds property well) :
    Respects allowed property well (follow perform) := by
  intro i ops c hops h
  refine List.foldlRecOn (motive := Upholds property well) ops _ h fun d hd op hop => ?_
  have hnext := hperform op d (hops op hop) hd
  exact ⟨hnext.state, hnext.observers⟩

section Performing

variable [Backend β]

/-- The controller right after an operation, before anything is handed out. -/
def performed (op : Operation β) (c : Controller β ω) : Controller β ω :=
  { c with state := (c.state.perform c.eager op).2, live := c.live && !op.isShutDown }

variable [Observer β ω]

theorem performWith_snd (react : Reaction β ω) (op : Operation β) (c : Controller β ω) :
    (c.performWith react op).2 =
      if op.dispatches then
        (c.performed op).flush react (c.performed op).state.outbox.length
      else c.performed op := rfl

/-- Observers that are told during an operation are followed like any others. -/
theorem performAt_eq (depth : Nat) (op : Operation β) (c : Controller β ω) :
    performAt depth op c = c.performWith (reactAt depth) op := by
  cases depth <;> rfl

end Performing

section Delivery

variable [Observer β ω] {react : Reaction β ω}

theorem Upholds.tell (hmanners : Manners allowed well)
    (hreact : Respects allowed property well react) (h : c.Upholds property well)
    (n : Notification) (i : Nat) : (c.tell react n i).Upholds property well := by
  unfold Controller.tell
  split
  · exact h
  · rename_i o ho
    have hwell : well o := h.observers o (List.mem_of_getElem? ho)
    have hset : ∀ o' ∈ c.observers.set i (Observer.receive n o : List (Operation β) × ω).2,
        well o' := by
      intro o' ho'
      rcases List.mem_or_eq_of_mem_set ho' with hmem | rfl
      · exact h.observers o' hmem
      · exact hmanners.stays o n hwell
    dsimp only
    split
    · exact hreact i _ _ (hmanners.asks o n hwell) ⟨h.state, hset⟩
    · exact ⟨h.state, hset⟩

theorem Upholds.deliver (hmanners : Manners allowed well)
    (hreact : Respects allowed property well react) (h : c.Upholds property well)
    (n : Notification) : (c.deliver react n).Upholds property well :=
  List.foldlRecOn (motive := Upholds property well) _ _ h
    fun _ hd i _ => hd.tell hmanners hreact n i

theorem Upholds.hand (hmanners : Manners allowed well)
    (hreact : Respects allowed property well react) (h : c.Upholds property well)
    (n : Notification) : (c.hand react n).Upholds property well := by
  unfold Controller.hand
  split
  · exact h.deliver hmanners hreact n
  · exact ⟨h.state, h.observers⟩

variable [Backend β]

theorem Upholds.flush (hendures : CaptureState.Endures allowed property)
    (hmanners : Manners allowed well) (hreact : Respects allowed property well react)
    (h : c.Upholds property well) (limit : Nat) :
    (c.flush react limit).Upholds property well := by
  induction limit generalizing c with
  | zero => exact h
  | succ limit ih =>
    unfold Controller.flush
    split
    · exact h
    · rename_i n rest hbox
      have hpopped : Upholds property well { c with state := { c.state with outbox := rest } } :=
        ⟨hendures.handOut c.state n rest hbox h.state, h.observers⟩
      exact ih (hpopped.hand hmanners hreact n)

/-- The operation itself may be any that gives the state the property. -/
theorem upholds_performWith (hendures : CaptureState.Endures allowed property)
    (hmanners : Manners allowed well) (hreact : Respects allowed property well react)
    {op : Operation β} (hstate : property (c.state.perform c.eager op).2)
    (hobservers : ∀ o ∈ c.observers, well o) :
    (c.performWith react op).2.Upholds property well := by
  have hnext : (c.performed op).Upholds property well := ⟨hstate, hobservers⟩
  rw [performWith_snd]
  split
  · exact hnext.flush hendures hmanners hreact _
  · exact hnext

/-- What survives the operations that observers ask for survives the operation that they hear of. -/
theorem upholds_performAt (hendures : CaptureState.Endures allowed property)
    (hmanners : Manners allowed well) (depth : Nat) {op : Operation β}
    (hstate : property (c.state.perform c.eager op).2) (hobservers : ∀ o ∈ c.observers, well o) :
    (performAt depth op c).2.Upholds property well := by
  induction depth generalizing op c with
  | zero => exact upholds_performWith hendures hmanners respects_cutOff hstate hobservers
  | succ depth ih =>
    refine upholds_performWith hendures hmanners (respects_follow fun op c hop hc => ?_) hstate
      hobservers
    exact ih (hendures.perform c.eager op c.state hop hc.state) hc.observers

theorem respects_reactAt (hendures : CaptureState.Endures allowed property)
    (hmanners : Manners allowed well) (depth : Nat) :
    Respects allowed property well (reactAt depth) := by
  cases depth with
  | zero => exact respects_cutOff
  | succ depth =>
    exact respects_follow fun op c hop hc =>
      upholds_performAt hendures hmanners depth (hendures.perform c.eager op c.state hop hc.state)
        hc.observers

theorem Upholds.runOneAt (hendures : CaptureState.Endures allowed property)
    (hmanners : Manners allowed well) (h : c.Upholds property well) {depth : Nat}
    {d : Controller β ω} (hd : c.runOneAt depth = some d) : d.Upholds property well := by
  unfold Controller.runOneAt at hd
  split at hd
  · rename_i n rest _
    obtain rfl := Option.some.inj hd
    have hpopped : Upholds property well { c with queue := some rest } := ⟨h.state, h.observers⟩
    exact hpopped.deliver hmanners (respects_reactAt hendures hmanners depth) n
  · cases hd

theorem Upholds.runUpTo (hendures : CaptureState.Endures allowed property)
    (hmanners : Manners allowed well) (h : c.Upholds property well) (depth limit : Nat) :
    (c.runUpTo depth limit).2.Upholds property well := by
  induction limit generalizing c with
  | zero => exact h
  | succ limit ih =>
    unfold Controller.runUpTo
    split
    · exact h
    · rename_i next hnext
      exact ih (h.runOneAt hendures hmanners hnext)

theorem Upholds.runRounds (hendures : CaptureState.Endures allowed property)
    (hmanners : Manners allowed well) (h : c.Upholds property well) (depth rounds : Nat) :
    (c.runRounds depth rounds).2.Upholds property well := by
  induction rounds generalizing c with
  | zero => exact h
  | succ rounds ih =>
    unfold Controller.runRounds
    split
    · exact h
    · exact ih (h.runUpTo hendures hmanners depth c.pending)

end Delivery

end Controller

end VideoCapture
