import VideoCapture.Proofs.Handing
import VideoCapture.Proofs.Queued

/-!
# An immediate context beside a queue

While observers ask for nothing, it does not matter whether they are told at once or once the queue is
drained: the controller passes through the same states, and everyone is told of the same notifications
in the same order.

## Main definitions

* `Listens` — an observer asks for nothing when told of some notifications.
* `Controller.Told` — everyone was told of some notifications, and nothing was asked for.
* `Controller.Drained` — notifications left a queue, and nothing was asked for.
* `Controller.Alike` — a controller with an immediate context, and one with a queue after the same
  moves.

The main statement is `ControllerBuilder.queue_law`.
-/

namespace VideoCapture

/-- The observer asks for nothing when it is told of these notifications one after the other. -/
def Listens (β : Type) {ω : Type} [Observer β ω] : List Notification → ω → Prop
  | [], _ => True
  | n :: rest, o =>
    (Observer.receive n o : List (Operation β) × ω).1 = [] ∧
      Listens β rest (Observer.receive n o : List (Operation β) × ω).2

/-- A recorder without rules asks for nothing. -/
theorem Scripted.Recorder.listens (ns : List Notification) :
    Listens Camera ns (⟨[]⟩ : Recorder) := by
  induction ns with
  | nil => trivial
  | cons n rest ih => exact ⟨rfl, ih⟩

/-- Whether the move is a subscription. -/
def Move.isSubscription {β ω : Type} : Move β ω → Bool
  | subscribe _ => true
  | _ => false

/-! ## What is raised stays raised -/

/-- Notifications that were raised stay so, whatever happens. -/
theorem CaptureState.endures_raised {β : Type} [Backend β] (ns : List Notification) :
    Endures (β := β) (fun _ => True) fun s => ns <+: s.raised where
  handOut _ _ _ _ h := h
  perform eager op s _ h := by
    obtain ⟨news, hraised, -⟩ := posts_perform eager op s
    exact h.trans ⟨news, hraised.symm⟩

namespace Controller

variable {β ω : Type} [Backend β] [Observer β ω] {c d e : Controller β ω}

theorem raised_performAt (depth : Nat) (op : Operation β) (c : Controller β ω) :
    (c.state.perform c.eager op).2.raised <+: (performAt depth op c).2.state.raised :=
  (upholds_performAt (CaptureState.endures_raised _) manners_any depth List.prefix_rfl
    fun _ _ => trivial).state

theorem raised_move (m : Move β ω) (c : Controller β ω) :
    c.state.raised <+: (c.move m).state.raised := by
  have hendures := CaptureState.endures_raised (β := β) c.state.raised
  have hc : c.Upholds (fun s => c.state.raised <+: s.raised) fun _ => True :=
    ⟨List.prefix_rfl, fun _ _ => trivial⟩
  exact (hc.move hendures manners_any
    (fun _ op _ => hendures.perform c.eager op c.state trivial List.prefix_rfl) (fun _ _ => trivial)
    fun _ _ _ => List.prefix_rfl).state

theorem raised_run (moves : List (Move β ω)) (c : Controller β ω) :
    c.state.raised <+: (c.run moves).state.raised := by
  induction moves generalizing c with
  | nil => exact List.prefix_rfl
  | cons m rest ih => exact (raised_move m c).trans (ih (c.move m))

/-! ## Telling observers that ask for nothing -/

section Listening

variable {react : Reaction β ω} {future : List Notification}

/-- What is left of an observer that has been told. -/
def after (β : Type) {ω : Type} [Observer β ω] (n : Notification) (o : ω) : ω :=
  (Observer.receive n o : List (Operation β) × ω).2

omit [Backend β] in
/-- Everyone is told, and nothing else happens. -/
theorem deliver_of_listens (hreact : ∀ i c, react i [] c = c) {n : Notification}
    (h : ∀ o ∈ c.observers, (Observer.receive n o : List (Operation β) × ω).1 = []) :
    c.deliver react n =
      { c with
        observers := c.observers.map (after β n)
        journal := c.journal ++ (List.range c.observers.length).map (.delivered · n) } := by
  have hfirst (k : Nat) (hk : k ≤ c.observers.length) :
      (List.range k).foldl (fun c i => c.tell react n i) c =
        { c with
          observers := (c.observers.take k).map (after β n) ++ c.observers.drop k
          journal := c.journal ++ (List.range k).map (.delivered · n) } := by
    induction k with
    | zero => simp
    | succ k ih =>
      have hmem : c.observers[k] ∈ c.observers := List.getElem_mem hk
      rw [List.range_succ, List.foldl_append, ih (Nat.le_of_succ_le hk), List.foldl_cons,
        List.foldl_nil]
      have hlength : ((c.observers.take k).map (after β n)).length = k := by
        simp [Nat.min_eq_left (Nat.le_of_succ_le hk)]
      have hnext : ((c.observers.take k).map (after β n) ++ c.observers.drop k)[k]? =
          some c.observers[k] := by
        rw [List.getElem?_append_right (Nat.le_of_eq hlength), hlength, Nat.sub_self,
          List.drop_eq_getElem_cons hk]
        rfl
      have hset : ((c.observers.take k).map (after β n) ++ c.observers.drop k).set k
          (after β n c.observers[k]) =
          (c.observers.take (k + 1)).map (after β n) ++ c.observers.drop (k + 1) := by
        rw [List.set_append_right _ _ (Nat.le_of_eq hlength), hlength, Nat.sub_self,
          List.drop_eq_getElem_cons hk, List.set_cons_zero, List.take_add_one,
          List.getElem?_eq_getElem hk, List.map_append, List.append_assoc]
        rfl
      simp only [tell, hnext, h _ hmem, hreact, ite_self]
      simp only [record, ← hset, after, List.map_append, List.append_assoc]
      rfl
  have hall := hfirst c.observers.length (Nat.le_refl _)
  rw [List.take_length, List.drop_length, List.append_nil] at hall
  exact hall

/-- From one controller to the other everyone was told of the notifications `ns`, in order, and
observers that would listen to these and to those of the future listen to the latter. -/
structure Told (ns : List Notification) (c d : Controller β ω) : Prop where
  eager : d.eager = c.eager
  count : d.observers.length = c.observers.length
  told : Journal.told d.journal =
    Journal.told c.journal ++ spread (ns.map (·, c.observers.length))
  listens : ∀ future, (∀ o ∈ c.observers, Listens β (ns ++ future) o) →
    ∀ o ∈ d.observers, Listens β future o

omit [Backend β] in
theorem Told.of_observers (heager : d.eager = c.eager) (hobservers : d.observers = c.observers)
    (hjournal : d.journal = c.journal) : Told [] c d where
  eager := heager
  count := congrArg List.length hobservers
  told := by
    rw [hjournal]
    exact (List.append_nil _).symm
  listens future h o ho := h o (hobservers ▸ ho)

omit [Backend β] in
theorem Told.trans {ns more : List Notification} (h : Told ns c d) (h' : Told more d e) :
    Told (ns ++ more) c e where
  eager := h'.eager.trans h.eager
  count := h'.count.trans h.count
  told := by
    rw [h'.told, h.told, h.count, List.map_append, spread_append, List.append_assoc]
  listens future hc := h'.listens future (h.listens _ (by simpa only [List.append_assoc] using hc))

omit [Backend β] in
theorem told_deliver (hreact : ∀ i c, react i [] c = c) {n : Notification}
    (h : ∀ o ∈ c.observers, Listens β (n :: future) o) :
    Told [n] c (c.deliver react n) ∧ (c.deliver react n).state = c.state ∧
      (c.deliver react n).queue = c.queue := by
  rw [deliver_of_listens hreact fun o ho => (h o ho).1]
  refine ⟨⟨rfl, by simp, ?_, ?_⟩, rfl, rfl⟩
  · rw [Journal.told_append]
    congr 1
    simp [Journal.told, spread, List.filterMap_map, Function.comp_def, JournalEntry.delivered?]
  · intro later hlistens o ho
    obtain ⟨o', ho', rfl⟩ := List.mem_map.mp ho
    exact (hlistens o' ho').2

omit [Backend β] in
/-- What is in the outbox is handed out, and nothing else happens. -/
theorem told_flush (hreact : ∀ i c, react i [] c = c) {limit : Nat} (hq : c.queue = none)
    (h : ∀ o ∈ c.observers, Listens β (c.state.outbox ++ future) o)
    (hlimit : c.state.outbox.length ≤ limit) :
    Told c.state.outbox c (c.flush react limit) ∧
      (c.flush react limit).state = { c.state with outbox := [] } ∧
      (c.flush react limit).queue = none := by
  induction limit generalizing c with
  | zero =>
    have hbox : c.state.outbox = [] := List.length_eq_zero_iff.mp (Nat.le_zero.mp hlimit)
    rw [hbox]
    exact ⟨.of_observers rfl rfl rfl, by rw [flush, ← hbox], hq⟩
  | succ limit ih =>
    unfold flush
    split
    · rename_i hbox
      rw [hbox]
      exact ⟨.of_observers rfl rfl rfl, by rw [← hbox], hq⟩
    · rename_i n rest hbox
      rw [hbox] at h hlimit ⊢
      let popped : Controller β ω := { c with state := { c.state with outbox := rest } }
      have hhand : popped.hand react n = popped.deliver react n := by
        simp only [hand, show popped.queue = none from hq]
      obtain ⟨hfirst, hstate, hqueue⟩ := told_deliver hreact (c := popped) h
      show Told (n :: rest) c ((popped.hand react n).flush react limit) ∧ _
      rw [hhand]
      have houtbox : (popped.deliver react n).state.outbox = rest :=
        congrArg CaptureState.outbox hstate
      have hlater := hfirst.listens (rest ++ future) h
      obtain ⟨hrest, hstate', hqueue'⟩ := ih (hqueue.trans hq) (by rwa [houtbox])
        (by rw [houtbox]; exact Nat.le_of_succ_le_succ hlimit)
      rw [houtbox] at hrest
      have hall := hfirst.trans hrest
      refine ⟨⟨hall.eager, hall.count, hall.told, hall.listens⟩, ?_, hqueue'⟩
      rw [hstate', hstate]

/-! ## Draining a queue -/

theorem reactAt_nil (depth i : Nat) (c : Controller β ω) : reactAt depth i [] c = c := by
  cases depth <;> rfl

/-- Observers ask for nothing while the queue is drained and what comes later is delivered. -/
def Attentive (future : List Notification) (c : Controller β ω) : Prop :=
  ∃ waiting, c.queue = some waiting ∧ ∀ o ∈ c.observers, Listens β (waiting ++ future) o

/-- At most `k` notifications left the queue, and nothing was asked for. -/
structure Drained (future : List Notification) (k : Nat) (c d : Controller β ω) : Prop where
  eager : d.eager = c.eager
  state : d.state = c.state
  count : d.observers.length = c.observers.length
  attentive : d.Attentive future
  pending : d.pending = c.pending - k

theorem drained_runOneAt (h : c.Attentive future) {depth : Nat} (hd : c.runOneAt depth = some d) :
    Drained future 1 c d := by
  obtain ⟨waiting, hq, hlistens⟩ := h
  unfold runOneAt at hd
  split at hd
  · rename_i n rest hqueue
    obtain rfl : waiting = n :: rest := Option.some.inj (hq.symm.trans hqueue)
    obtain rfl := Option.some.inj hd
    let popped : Controller β ω := { c with queue := some rest }
    obtain ⟨htold, hstate, hqueue'⟩ := told_deliver (c := popped) (reactAt_nil depth) hlistens
    refine ⟨htold.eager, hstate, htold.count, ⟨rest, hqueue', htold.listens _ hlistens⟩, ?_⟩
    rw [pending, hqueue', pending, hq]
    rfl
  · cases hd

theorem pending_of_runOneAt {depth : Nat} (h : c.runOneAt depth = none) : c.pending = 0 := by
  unfold runOneAt at h
  split at h
  · cases h
  · rename_i hempty
    unfold pending
    cases hq : c.queue with
    | none => rfl
    | some waiting =>
      cases waiting with
      | nil => rfl
      | cons n rest => exact absurd hq (hempty n rest)

theorem drained_runUpTo (h : c.Attentive future) (depth limit : Nat) :
    Drained future limit c (c.runUpTo depth limit).2 := by
  induction limit generalizing c with
  | zero => exact ⟨rfl, rfl, rfl, h, rfl⟩
  | succ limit ih =>
    unfold runUpTo
    split
    · rename_i hnone
      exact ⟨rfl, rfl, rfl, h, by simp [pending_of_runOneAt hnone]⟩
    · rename_i next hnext
      have hfirst := drained_runOneAt h hnext
      have hrest := ih hfirst.attentive
      refine ⟨hrest.eager.trans hfirst.eager, hrest.state.trans hfirst.state,
        hrest.count.trans hfirst.count, hrest.attentive, ?_⟩
      show (next.runUpTo depth limit).2.pending = _
      rw [hrest.pending, hfirst.pending]
      omega

theorem drained_runRounds (h : c.Attentive future) (depth rounds : Nat) :
    ∃ k, Drained future k c (c.runRounds depth rounds).2 ∧ (rounds ≠ 0 → c.pending ≤ k) := by
  induction rounds generalizing c with
  | zero => exact ⟨0, ⟨rfl, rfl, rfl, h, rfl⟩, fun hne => absurd rfl hne⟩
  | succ rounds ih =>
    unfold runRounds
    split
    · rename_i hempty
      exact ⟨0, ⟨rfl, rfl, rfl, h, rfl⟩, fun _ => Nat.le_of_eq hempty⟩
    · have hfirst := drained_runUpTo h depth c.pending
      obtain ⟨k, hrest, -⟩ := ih hfirst.attentive
      refine ⟨c.pending + k, ⟨hrest.eager.trans hfirst.eager, hrest.state.trans hfirst.state,
        hrest.count.trans hfirst.count, hrest.attentive, ?_⟩, fun _ => Nat.le_add_right _ _⟩
      show ((c.runUpTo depth c.pending).2.runRounds depth rounds).2.pending = _
      rw [hrest.pending, hfirst.pending]
      omega

/-! ## The same moves under both contexts -/

/-- After the same moves, `c` has an immediate context and `d` a queue. All notifications that will
ever be raised are `all`, and observers ask for nothing when they are told of those. -/
structure Alike (all : List Notification) (count : Nat) (c d : Controller β ω) : Prop where
  prompt : c.Prompt
  eager : d.eager = c.eager
  state : d.state = c.state
  told : Journal.told c.journal = spread (c.state.raised.map (·, count))
  observers : c.observers.length = count
  keeps : ∃ delivered, Keeps delivered (spread (delivered.map (·, count))) count d
  listens : ∃ future, all = c.state.raised ++ future ∧
    (∀ o ∈ c.observers, Listens β future o) ∧ d.Attentive future

/-- An operation under an immediate context, while its observers ask for nothing. -/
theorem told_performAt (hc : c.Prompt) (hbox : c.state.outbox = []) (depth : Nat)
    (op : Operation β)
    (h : ∀ o ∈ c.observers, Listens β ((c.state.perform c.eager op).2.outbox ++ future) o) :
    Told (c.state.perform c.eager op).2.outbox c (performAt depth op c).2 ∧
      (performAt depth op c).2.state = { (c.state.perform c.eager op).2 with outbox := [] } ∧
      (performAt depth op c).2.queue = none := by
  rw [performAt_eq, performWith_snd]
  cases hop : op.dispatches with
  | true =>
    obtain ⟨htold, hstate, hqueue⟩ :=
      told_flush (c := c.performed op) (reactAt_nil depth) hc.queue h (Nat.le_refl _)
    exact ⟨⟨htold.eager, htold.count, htold.told, htold.listens⟩, hstate, hqueue⟩
  | false =>
    have houtbox : (c.state.perform c.eager op).2.outbox = [] :=
      (CaptureState.outbox_perform hop hc.due).1.trans hbox
    rw [houtbox]
    exact ⟨.of_observers rfl rfl rfl, by rw [← houtbox]; rfl, hc.queue⟩

variable {all : List Notification} {count : Nat}

theorem Alike.performAt (h : Alike all count c d) (depth : Nat) (op : Operation β)
    (hall : (performAt depth op c).2.state.raised <+: all) :
    Alike all count (performAt depth op c).2 (performAt depth op d).2 := by
  obtain ⟨delivered, hkeeps⟩ := h.keeps
  obtain ⟨future, hfuture, hlistens, waiting, hq, hattentive⟩ := h.listens
  have hbox : c.state.outbox = [] := (congrArg CaptureState.outbox h.state).symm.trans hkeeps.outbox
  obtain ⟨news, hraised, hnews⟩ := CaptureState.posts_perform c.eager op c.state
  rw [hbox, List.nil_append] at hnews
  obtain ⟨rest, hrest⟩ := (raised_performAt depth op c).trans hall
  obtain rfl : future = news ++ rest := by
    rw [hfuture, hraised, List.append_assoc] at hrest
    exact (List.append_cancel_left hrest).symm
  rw [← hnews] at hlistens hattentive
  obtain ⟨htold, hstate, hqueue⟩ := told_performAt h.prompt hbox depth op hlistens
  have hkept := performAt_of_queue hq hkeeps.outbox hkeeps.due depth op
  refine ⟨⟨hqueue, fun heager => ?_⟩, ?_, ?_, ?_, htold.count.trans h.observers,
    ⟨delivered, hkeeps.performAt depth op⟩, rest, ?_, htold.listens rest hlistens, ?_⟩
  · rw [hstate]
    exact CaptureState.due_perform (htold.eager.symm.trans heager) op c.state
  · rw [hkept, htold.eager]
    exact h.eager
  · rw [hkept, hstate, h.state, h.eager]
  · have hall' : (Controller.performAt depth op c).2.state.raised = c.state.raised ++ news := by
      rw [hstate]
      exact hraised
    rw [htold.told, h.told, h.observers, hall', hnews, List.map_append, spread_append]
  · rw [hstate, ← hrest]
    rfl
  · rw [hkept]
    refine ⟨_, rfl, ?_⟩
    rw [h.state, h.eager, List.append_assoc]
    exact hattentive

theorem Alike.move (h : Alike all count c d) {m : Move β ω} (hm : m.isSubscription = false)
    (hall : (c.move m).state.raised <+: all) : Alike all count (c.move m) (d.move m) := by
  cases m with
  | perform depth op => exact h.performAt depth op hall
  | runOne depth =>
    rw [h.prompt.move_runOne]
    cases hone : d.runOneAt depth with
    | none =>
      have hsame : d.move (.runOne depth) = d := by simp [Controller.move, hone]
      rwa [hsame]
    | some e =>
      have hnext : d.move (.runOne depth) = e := by simp [Controller.move, hone]
      obtain ⟨delivered, hkeeps⟩ := h.keeps
      obtain ⟨future, hfuture, hlistens, hattentive⟩ := h.listens
      obtain ⟨n, hkept⟩ := hkeeps.runOneAt hone
      have hdrained := drained_runOneAt hattentive hone
      rw [hnext]
      refine ⟨h.prompt, hdrained.eager.trans h.eager, hdrained.state.trans h.state, h.told, h.observers,
        ⟨delivered ++ [n], ?_⟩, future, hfuture, hlistens, hdrained.attentive⟩
      rwa [List.map_append, spread_append]
  | runPending depth rounds =>
    rw [h.prompt.move_runPending]
    obtain ⟨delivered, hkeeps⟩ := h.keeps
    obtain ⟨future, hfuture, hlistens, hattentive⟩ := h.listens
    obtain ⟨ns, -, hkept⟩ := hkeeps.runRounds depth rounds
    obtain ⟨k, hdrained, -⟩ := drained_runRounds hattentive depth rounds
    refine ⟨h.prompt, hdrained.eager.trans h.eager, hdrained.state.trans h.state, h.told, h.observers,
      ⟨delivered ++ ns, ?_⟩, future, hfuture, hlistens, hdrained.attentive⟩
    rw [List.map_append, spread_append]
    exact hkept
  | subscribe o => cases hm
  | stir i change =>
    obtain ⟨delivered, hkeeps⟩ := h.keeps
    exact ⟨⟨h.prompt.queue, h.prompt.due⟩, h.eager, congrArg (·.alter i change) h.state, h.told,
      h.observers,
      ⟨delivered, hkeeps.waiting, hkeeps.told, hkeeps.observers, hkeeps.outbox, hkeeps.due⟩,
      h.listens⟩

theorem Alike.run (h : Alike all count c d) {moves : List (Move β ω)}
    (hmoves : ∀ m ∈ moves, m.isSubscription = false) (hall : (c.run moves).state.raised <+: all) :
    Alike all count (c.run moves) (d.run moves) := by
  induction moves generalizing c d with
  | nil => exact h
  | cons m rest ih =>
    have hrest : (c.move m).state.raised <+: all := (raised_run rest (c.move m)).trans hall
    exact ih (h.move (hmoves m List.mem_cons_self) hrest)
      (fun m' hm' => hmoves m' (List.mem_cons_of_mem m hm')) hall

/-- A queue that is drained to the end has delivered all that was raised. -/
theorem Alike.told_eq (h : Alike all count c d) (depth rounds : Nat) :
    Journal.told c.journal = Journal.told (d.move (.runPending depth (rounds + 1))).journal := by
  obtain ⟨delivered, hkeeps⟩ := h.keeps
  obtain ⟨future, -, -, hattentive⟩ := h.listens
  obtain ⟨ns, -, hkept⟩ := hkeeps.runRounds depth (rounds + 1)
  obtain ⟨k, hdrained, hk⟩ := drained_runRounds hattentive depth (rounds + 1)
  have hpending : (d.runRounds depth (rounds + 1)).2.pending = 0 := by
    rw [hdrained.pending]
    exact Nat.sub_eq_zero_of_le (hk (Nat.succ_ne_zero rounds))
  obtain ⟨waiting, hq, hraised⟩ := hkept.waiting
  obtain rfl : waiting = [] := by
    rw [pending, hq] at hpending
    exact List.length_eq_zero_iff.mp hpending
  rw [List.append_nil, hdrained.state, h.state] at hraised
  show _ = Journal.told (d.runRounds depth (rounds + 1)).2.journal
  rw [hkept.told, h.told, hraised, List.map_append, spread_append]

end Listening

end Controller

namespace ControllerBuilder

variable {β ω : Type} [Backend β] [Observer β ω]

/-- Where the main context is a queue, what was delivered and what waits in the queue is what was
raised, in that order, whatever observers call back and however the queue is drained. Each delivered
notification was told to everyone who was subscribed then, in the order of subscription.

If observers ask for nothing when they are told of what an immediate context hands out, and nobody
subscribes later, then a queue that is drained at the end tells everyone the same. -/
theorem queue_law (builder : ControllerBuilder β) (eager : Bool) (observers : List ω)
    (moves : List (Move β ω)) :
    let start := Controller.build builder eager true observers
    let c := start.run moves
    (∃ deliveries : List (Notification × Nat), ∃ waiting : List Notification,
        c.queue = some waiting ∧
        c.state.raised = deliveries.map Prod.fst ++ waiting ∧
        deliveries.map Prod.snd = start.audiences moves ∧
        Journal.told c.journal = Controller.spread deliveries) ∧
      ((∀ m ∈ moves, m.isSubscription = false) →
        let now := (Controller.build builder eager false observers).run moves
        (∀ o ∈ observers, Listens β now.state.raised o) →
          ∀ depth rounds, Journal.told now.journal =
            Journal.told (c.move (.runPending depth (rounds + 1))).journal) := by
  intro start c
  have hstart : Controller.Keeps [] [] observers.length start :=
    Controller.keeps_build builder eager observers
  refine ⟨?_, ?_⟩
  · obtain ⟨deliveries, haudiences, hkeeps⟩ := hstart.run moves
    obtain ⟨waiting, hq, hraised⟩ := hkeeps.waiting
    exact ⟨deliveries, waiting, hq, hraised, haudiences, hkeeps.told⟩
  · intro hmoves now hlistens depth rounds
    obtain ⟨waiting, hq, hraised⟩ := hstart.waiting
    obtain rfl : waiting = [] := (Option.some.inj hq).symm
    have halike : Controller.Alike now.state.raised observers.length
        (Controller.build builder eager false observers) start := by
      refine ⟨(Controller.prompt_build builder eager observers).1, rfl, rfl, ?_, rfl, ⟨[], hstart⟩,
        now.state.raised, ?_, hlistens, [], rfl, hlistens⟩
      · rw [show (Controller.build builder eager false observers).state.raised = [] from hraised]
        rfl
      · rw [show (Controller.build builder eager false observers).state.raised = [] from hraised]
        rfl
    exact (halike.run hmoves List.prefix_rfl).told_eq depth rounds

/-- A recorder without rules is told of the same opening and closing, now or later. -/
theorem queue_law_of_recorder :
    let recorder : Scripted.Recorder := ⟨[]⟩
    let builder : ControllerBuilder Scripted.Camera := ControllerBuilder.default
    let moves : List (Move Scripted.Camera Scripted.Recorder) :=
      [.perform 1 .startStream, .runOne 1, .perform 1 .stopStream]
    let now := (Controller.build builder true false [recorder]).run moves
    let later := ((Controller.build builder true true [recorder]).run moves).move (.runPending 1 1)
    Journal.told now.journal = Journal.told later.journal := by
  intro recorder builder moves now later
  have hmoves : ∀ m ∈ moves, m.isSubscription = false := by simp [moves, Move.isSubscription]
  have hlistens (ns : List Notification) : ∀ o ∈ [recorder], Listens Scripted.Camera ns o := by
    intro o ho
    rw [List.mem_singleton.mp ho]
    exact Scripted.Recorder.listens ns
  have hsame := (queue_law builder true [recorder] moves).2 hmoves (hlistens _)
  exact hsame 1 0

end ControllerBuilder

end VideoCapture
