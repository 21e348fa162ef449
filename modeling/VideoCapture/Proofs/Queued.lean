import VideoCapture.Proofs.Moves

/-!
# Notifications in a queue

Where the main context is a queue, notifications wait there until the application drains it. Observers
that call back only add to the queue, so nothing is lost, nothing is delivered twice, and the order in
which notifications were raised is kept.

## Main definitions

* `Controller.spread` — who is told of what, if each notification goes to everyone in order.
* `Controller.audiences` — how many observers were subscribed at each delivery of a run.
* `Controller.Keeps` — what was delivered, and that the rest waits in the queue.

The main statement of this part is `Controller.Keeps.run`.
-/

namespace VideoCapture

namespace Controller

variable {β ω : Type}

/-- Each notification is told to the given number of observers, in the order of their positions. -/
def spread (deliveries : List (Notification × Nat)) : List (Nat × Notification) :=
  deliveries.flatMap fun d => (List.range d.2).map fun i => (i, d.1)

theorem spread_append (deliveries more : List (Notification × Nat)) :
    spread (deliveries ++ more) = spread deliveries ++ spread more :=
  List.flatMap_append

section Moves

variable [Backend β] [Observer β ω]

/-- How many notifications a move delivers from the queue, by its own account. -/
def answered (c : Controller β ω) : Move β ω → Nat
  | .runOne depth => if (c.runOneAt depth).isSome then 1 else 0
  | .runPending depth rounds => (c.runRounds depth rounds).1
  | _ => 0

/-- For each notification that is delivered from the queue, how many observers are subscribed then. -/
def audiences (c : Controller β ω) : List (Move β ω) → List Nat
  | [] => []
  | m :: rest => List.replicate (c.answered m) c.observers.length ++ (c.move m).audiences rest

end Moves

/-- The notifications `delivered` have left the queue, and those raised since wait in it. There are
`count` observers, and they were told of `told`. -/
structure Keeps (delivered : List Notification) (told : List (Nat × Notification)) (count : Nat)
    (c : Controller β ω) : Prop where
  waiting : ∃ waiting, c.queue = some waiting ∧ c.state.raised = delivered ++ waiting
  told : Journal.told c.journal = told
  observers : c.observers.length = count
  outbox : c.state.outbox = []
  due : c.eager = true → c.state.loop.due = false

variable {c : Controller β ω} {delivered waiting : List Notification}
  {told : List (Nat × Notification)} {count : Nat}

section Queue

variable [Backend β] [Observer β ω] {react : Reaction β ω}

omit [Backend β] in
/-- What is in the outbox moves to the queue. -/
theorem flush_of_queue {limit : Nat} (hq : c.queue = some waiting)
    (hlimit : c.state.outbox.length ≤ limit) :
    c.flush react limit =
      { c with
        state := { c.state with outbox := [] }
        queue := some (waiting ++ c.state.outbox) } := by
  have hempty {c : Controller β ω} {waiting : List Notification} (hq : c.queue = some waiting)
      (hbox : c.state.outbox = []) :
      c = { c with
        state := { c.state with outbox := [] }
        queue := some (waiting ++ c.state.outbox) } := by
    rw [hbox, List.append_nil, ← hq, ← hbox]
  induction limit generalizing c waiting with
  | zero => exact hempty hq (List.length_eq_zero_iff.mp (Nat.le_zero.mp hlimit))
  | succ limit ih =>
    unfold flush
    split
    · rename_i hbox
      exact hempty hq hbox
    · rename_i n rest hbox
      have hrest : rest.length ≤ limit := by
        rw [hbox] at hlimit
        exact Nat.le_of_succ_le_succ hlimit
      simp only [hand, hq]
      rw [ih rfl hrest, hbox]
      simp

/-- Whatever observers would ask for, an operation only puts what it raised into the queue. -/
theorem performWith_of_queue (hq : c.queue = some waiting) (hbox : c.state.outbox = [])
    (hdue : c.eager = true → c.state.loop.due = false) (op : Operation β) :
    (c.performWith react op).2 =
      { c with
        state := { (c.state.perform c.eager op).2 with outbox := [] }
        queue := some (waiting ++ (c.state.perform c.eager op).2.outbox)
        live := c.live && !op.isShutDown } := by
  rw [performWith_snd]
  split
  · exact flush_of_queue (c := c.performed op) hq (Nat.le_refl _)
  · rename_i hop
    have houtbox : (c.state.perform c.eager op).2.outbox = [] :=
      ((CaptureState.outbox_perform (Bool.eq_false_iff.mpr hop) hdue).1).trans hbox
    rw [performed, houtbox, List.append_nil, ← hq, ← houtbox]

theorem performAt_of_queue (hq : c.queue = some waiting) (hbox : c.state.outbox = [])
    (hdue : c.eager = true → c.state.loop.due = false) (depth : Nat) (op : Operation β) :
    (performAt depth op c).2 =
      { c with
        state := { (c.state.perform c.eager op).2 with outbox := [] }
        queue := some (waiting ++ (c.state.perform c.eager op).2.outbox)
        live := c.live && !op.isShutDown } := by
  rw [performAt_eq]
  exact performWith_of_queue hq hbox hdue op

/-! ## What a queue keeps -/

omit [Backend β] [Observer β ω] in
theorem Keeps.nothing (h : Keeps delivered told count c) :
    Keeps (delivered ++ []) (told ++ spread (([] : List Notification).map (·, count))) count c := by
  rw [List.append_nil]
  exact (List.append_nil told).symm ▸ h

theorem Keeps.performAt (h : Keeps delivered told count c) (depth : Nat) (op : Operation β) :
    Keeps delivered told count (performAt depth op c).2 := by
  obtain ⟨waiting, hq, hraised⟩ := h.waiting
  obtain ⟨news, hraised', hbox⟩ := CaptureState.posts_perform c.eager op c.state
  rw [h.outbox, List.nil_append] at hbox
  rw [performAt_of_queue hq h.outbox h.due]
  refine ⟨⟨_, rfl, ?_⟩, h.told, h.observers, rfl,
    fun heager => CaptureState.due_perform heager op c.state⟩
  show (c.state.perform c.eager op).2.raised = delivered ++ (waiting ++ (c.state.perform c.eager op).2.outbox)
  rw [hraised', hraised, hbox, List.append_assoc]

/-- Following requests delivers nothing. -/
theorem Keeps.follow (h : Keeps delivered told count c) (depth i : Nat) (ops : List (Operation β)) :
    Keeps delivered told count (follow (Controller.performAt depth) i ops c) := by
  refine List.foldlRecOn (motive := Keeps delivered told count) ops _ h fun d hd op _ => ?_
  have hperformed := hd.performAt depth op
  refine ⟨hperformed.waiting, ?_, hperformed.observers, hperformed.outbox, hperformed.due⟩
  show Journal.told ((Controller.performAt depth op d).2.journal ++ [_]) = told
  rw [Journal.told_append, hperformed.told]
  exact List.append_nil _

theorem Keeps.reactAt (h : Keeps delivered told count c) (depth i : Nat)
    (ops : List (Operation β)) : Keeps delivered told count (reactAt depth i ops c) := by
  cases depth with
  | zero =>
    show Keeps delivered told count (cutOff i ops c)
    unfold cutOff
    split
    · exact h
    · exact ⟨h.waiting, h.told, h.observers, h.outbox, h.due⟩
  | succ depth => exact h.follow depth i ops

/-- One more observer is told. -/
theorem Keeps.tell (h : Keeps delivered told count c) (depth : Nat) (n : Notification) {i : Nat}
    (hi : i < count) : Keeps delivered (told ++ [(i, n)]) count (c.tell (Controller.reactAt depth) n i) := by
  have hlt : i < c.observers.length := Nat.lt_of_lt_of_le hi (Nat.le_of_eq h.observers.symm)
  simp only [Controller.tell, List.getElem?_eq_getElem hlt]
  let next : Controller β ω :=
    { c with observers :=
        c.observers.set i (Observer.receive n c.observers[i] : List (Operation β) × ω).2 }.record
      (.delivered i n)
  have hnext : Keeps delivered (told ++ [(i, n)]) count next := by
    refine ⟨h.waiting, ?_, by simp [next, record, h.observers], h.outbox, h.due⟩
    show Journal.told (c.journal ++ [_]) = _
    rw [Journal.told_append, h.told]
    rfl
  split
  · exact hnext.reactAt depth i _
  · exact hnext

theorem Keeps.deliver (h : Keeps delivered told count c) (depth : Nat) (n : Notification) :
    Keeps delivered (told ++ spread [(n, count)]) count (c.deliver (Controller.reactAt depth) n) := by
  have hfirst (k : Nat) (hk : k ≤ count) :
      Keeps delivered (told ++ (List.range k).map fun i => (i, n)) count
        ((List.range k).foldl (fun c i => c.tell (Controller.reactAt depth) n i) c) := by
    induction k with
    | zero => simpa using h
    | succ k ih =>
      have htold := (ih (Nat.le_of_succ_le hk)).tell depth n hk
      rw [List.range_succ, List.foldl_append, List.map_append, ← List.append_assoc]
      exact htold
  have hall := hfirst count (Nat.le_refl _)
  simp only [Controller.deliver, h.observers]
  simpa [spread] using hall

/-- One notification leaves the queue. -/
theorem Keeps.runOneAt (h : Keeps delivered told count c) {depth : Nat} {d : Controller β ω}
    (hd : c.runOneAt depth = some d) :
    ∃ n, Keeps (delivered ++ [n]) (told ++ spread [(n, count)]) count d := by
  obtain ⟨waiting, hq, hraised⟩ := h.waiting
  unfold Controller.runOneAt at hd
  split at hd
  · rename_i n rest hqueue
    obtain rfl : waiting = n :: rest := Option.some.inj (hq.symm.trans hqueue)
    obtain rfl := Option.some.inj hd
    have hpopped : Keeps (delivered ++ [n]) told count { c with queue := some rest } :=
      ⟨⟨rest, rfl, by simpa using hraised⟩, h.told, h.observers, h.outbox, h.due⟩
    exact ⟨n, hpopped.deliver depth n⟩
  · cases hd

theorem Keeps.runUpTo (h : Keeps delivered told count c) (depth limit : Nat) :
    ∃ ns : List Notification, ns.length = (c.runUpTo depth limit).1 ∧
      Keeps (delivered ++ ns) (told ++ spread (ns.map (·, count))) count
        (c.runUpTo depth limit).2 := by
  induction limit generalizing c delivered told with
  | zero => exact ⟨[], rfl, h.nothing⟩
  | succ limit ih =>
    unfold Controller.runUpTo
    split
    · exact ⟨[], rfl, h.nothing⟩
    · rename_i next hnext
      obtain ⟨n, hone⟩ := h.runOneAt hnext
      obtain ⟨ns, hlength, hrest⟩ := ih hone
      refine ⟨n :: ns, congrArg Nat.succ hlength, ?_⟩
      rw [List.append_assoc, List.append_assoc, ← spread_append] at hrest
      exact hrest

theorem Keeps.runRounds (h : Keeps delivered told count c) (depth rounds : Nat) :
    ∃ ns : List Notification, ns.length = (c.runRounds depth rounds).1 ∧
      Keeps (delivered ++ ns) (told ++ spread (ns.map (·, count))) count
        (c.runRounds depth rounds).2 := by
  induction rounds generalizing c delivered told with
  | zero => exact ⟨[], rfl, h.nothing⟩
  | succ rounds ih =>
    unfold Controller.runRounds
    split
    · exact ⟨[], rfl, h.nothing⟩
    · obtain ⟨ns, hlength, hround⟩ := h.runUpTo depth c.pending
      obtain ⟨more, hlength', hrest⟩ := ih hround
      refine ⟨ns ++ more, by rw [List.length_append, hlength, hlength'], ?_⟩
      rw [List.append_assoc, List.append_assoc, ← spread_append, ← List.map_append] at hrest
      exact hrest

/-- What a move delivers has left the queue, and everyone was told of it. -/
theorem Keeps.move (h : Keeps delivered told count c) (m : Move β ω) :
    ∃ ns : List Notification, ns.length = c.answered m ∧
      Keeps (delivered ++ ns) (told ++ spread (ns.map (·, count))) (c.move m).observers.length
        (c.move m) := by
  cases m with
  | perform depth op =>
    have hperformed := (h.performAt depth op).nothing
    exact ⟨[], rfl, ⟨hperformed.waiting, hperformed.told, rfl, hperformed.outbox, hperformed.due⟩⟩
  | runOne depth =>
    cases hone : c.runOneAt depth with
    | none =>
      refine ⟨[], by simp [answered, hone], ?_⟩
      simpa [spread, Controller.move, hone, h.observers] using h
    | some d =>
      obtain ⟨n, hn⟩ := h.runOneAt hone
      refine ⟨[n], by simp [answered, hone], ?_⟩
      simpa [Controller.move, hone, hn.observers] using hn
  | runPending depth rounds =>
    obtain ⟨ns, hlength, hns⟩ := h.runRounds depth rounds
    refine ⟨ns, hlength, ?_⟩
    simpa [Controller.move, hns.observers] using hns
  | subscribe o =>
    exact ⟨[], rfl, ⟨h.nothing.waiting, h.nothing.told, rfl, h.outbox, h.due⟩⟩
  | stir i change =>
    exact ⟨[], rfl, ⟨h.nothing.waiting, h.nothing.told, rfl, h.outbox, h.due⟩⟩

/-- What a run delivers has left the queue, and everyone who was subscribed then was told of it. -/
theorem Keeps.run (h : Keeps delivered told count c) (moves : List (Move β ω)) :
    ∃ deliveries : List (Notification × Nat), deliveries.map Prod.snd = c.audiences moves ∧
      Keeps (delivered ++ deliveries.map Prod.fst) (told ++ spread deliveries)
        (c.run moves).observers.length (c.run moves) := by
  induction moves generalizing c delivered told count with
  | nil => exact ⟨[], rfl, by simpa [spread, h.observers] using h⟩
  | cons m rest ih =>
    obtain ⟨ns, hlength, hmove⟩ := h.move m
    obtain ⟨deliveries, haudiences, hrest⟩ := ih hmove
    refine ⟨ns.map (·, count) ++ deliveries, ?_, ?_⟩
    · rw [List.map_append, haudiences, audiences, h.observers, ← hlength]
      simp [Function.comp_def, List.map_const']
    · rw [List.append_assoc, List.append_assoc, ← spread_append] at hrest
      simpa [Function.comp_def] using hrest

omit [Observer β ω] in
theorem keeps_build (builder : ControllerBuilder β) (eager : Bool) (observers : List ω) :
    Keeps [] [] observers.length (build builder eager true observers) := by
  obtain ⟨hraised, hbox, hdue⟩ := builder.quiet_start
  exact ⟨⟨[], rfl, hraised⟩, rfl, rfl, hbox, fun _ => hdue⟩

end Queue

end Controller

end VideoCapture
