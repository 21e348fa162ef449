import VideoCapture.Proofs.Moves
import VideoCapture.Scripted.Recorder
import Mathlib.Tactic.Common

/-!
# Handing out at once

Under an immediate context every notification reaches every observer as soon as the lock is released.
An observer that calls back hands out what is in the outbox before those behind it are told, so these
may hear of later notifications first.

## Main definitions

* `Controller.Prompt` — the context is immediate and no pull of an eager preview loop is left over.
* `Controller.Passes` — notifications left the outbox, and what was written down meanwhile.
* `Controller.Hands` — each of them reached every observer once, in order unless an observer before
  it called back.

The main statement is `ControllerBuilder.handed_once`.
-/

namespace VideoCapture

namespace Controller

variable {β ω : Type}

/-- Notifications are handed out at once, and an eager preview loop has no pull left over. -/
structure Prompt (c : Controller β ω) : Prop where
  queue : c.queue = none
  due : c.eager = true → c.state.loop.due = false

/-- From one controller to the other, the notifications `handed` left the outbox and `entries` were
written down. -/
structure Passes (c d : Controller β ω) (handed : List Notification) (entries : Journal β) :
    Prop where
  prompt : d.Prompt
  observers : c.observers.length ≤ d.observers.length
  journal : d.journal = c.journal ++ entries
  raised : ∃ news, d.state.raised = c.state.raised ++ news ∧
    c.state.outbox ++ news = handed ++ d.state.outbox
  shrinks : d.state.outbox.length ≤ c.state.outbox.length

/-- Each notification reached every observer once, in order unless an observer before it called
back. -/
structure Hands (c d : Controller β ω) (handed : List Notification) (entries : Journal β) : Prop
    extends Passes c d handed entries where
  once : ∀ i < c.observers.length, (entries.received i).Perm handed
  ordered : ∀ i < c.observers.length, (∀ j < i, ¬ entries.CalledBack j) →
    entries.received i = handed

/-- The first `k` observers were told of `n`; meanwhile the notifications `handed` were handed out,
which takes an observer that called back. -/
structure Midway (n : Notification) (k : Nat) (c d : Controller β ω) (handed : List Notification)
    (entries : Journal β) : Prop extends Passes c d handed entries where
  once : ∀ i < c.observers.length,
    (entries.received i).Perm (if i < k then n :: handed else handed)
  ordered : ∀ i < c.observers.length, (∀ j < i, ¬ entries.CalledBack j) →
    entries.received i = if i < k then n :: handed else handed
  caller : handed ≠ [] → ∃ j < k, entries.CalledBack j

/-- Following the requests of an observer hands notifications out only if there are any requests. -/
def Heeds [Backend β] (react : Reaction β ω) : Prop :=
  ∀ (i : Nat) (ops : List (Operation β)) (c : Controller β ω), c.Prompt →
    ∃ handed entries, Hands c (react i ops c) handed entries ∧
      (handed ≠ [] → entries.CalledBack i)

variable {c d e : Controller β ω} {handed more : List Notification} {entries later : Journal β}

theorem Passes.trans (h : Passes c d handed entries) (h' : Passes d e more later) :
    Passes c e (handed ++ more) (entries ++ later) where
  prompt := h'.prompt
  observers := Nat.le_trans h.observers h'.observers
  journal := by rw [h'.journal, h.journal, List.append_assoc]
  raised := by
    obtain ⟨news, hraised, hbox⟩ := h.raised
    obtain ⟨rest, hraised', hbox'⟩ := h'.raised
    refine ⟨news ++ rest, by rw [hraised', hraised, List.append_assoc], ?_⟩
    rw [← List.append_assoc, hbox, List.append_assoc, hbox', List.append_assoc]
  shrinks := Nat.le_trans h'.shrinks h.shrinks

theorem Passes.outbox_eq_nil (h : Passes c d handed entries) (hc : c.state.outbox = []) :
    d.state.outbox = [] := by
  have hshrinks := h.shrinks
  rw [hc] at hshrinks
  exact List.length_eq_zero_iff.mp (Nat.le_zero.mp hshrinks)

/-- Nothing has happened to the state but what the entries tell. -/
theorem Passes.of_state (h : d.Prompt) (hobservers : c.observers.length ≤ d.observers.length)
    (hjournal : d.journal = c.journal ++ entries) (hlog : d.state.log = c.state.log)
    (houtbox : d.state.outbox = c.state.outbox) : Passes c d [] entries where
  prompt := h
  observers := hobservers
  journal := hjournal
  raised := ⟨[], by simp [CaptureState.raised, hlog], by simp [houtbox]⟩
  shrinks := Nat.le_of_eq (congrArg List.length houtbox)

theorem Hands.of_state (h : d.Prompt) (hobservers : c.observers.length ≤ d.observers.length)
    (hjournal : d.journal = c.journal ++ entries) (hentries : entries.told = [])
    (hlog : d.state.log = c.state.log) (houtbox : d.state.outbox = c.state.outbox) :
    Hands c d [] entries where
  toPasses := .of_state h hobservers hjournal hlog houtbox
  once i _ := by simp [Journal.received, hentries]
  ordered i _ _ := by simp [Journal.received, hentries]

theorem Hands.refl (h : c.Prompt) : Hands c c [] [] :=
  .of_state h (Nat.le_refl _) (List.append_nil _).symm rfl rfl rfl

theorem Hands.trans (h : Hands c d handed entries) (h' : Hands d e more later) :
    Hands c e (handed ++ more) (entries ++ later) where
  toPasses := h.toPasses.trans h'.toPasses
  once i hi := by
    rw [Journal.received_append]
    exact (h.once i hi).append (h'.once i (Nat.lt_of_lt_of_le hi h.observers))
  ordered i hi hquiet := by
    have hfirst : entries.received i = handed :=
      h.ordered i hi fun j hj hcalled => hquiet j hj (by simp [hcalled])
    have hsecond : later.received i = more :=
      h'.ordered i (Nat.lt_of_lt_of_le hi h.observers) fun j hj hcalled => hquiet j hj (by simp [hcalled])
    rw [Journal.received_append, hfirst, hsecond]

/-! ## One notification -/

/-- The next observer is told, and then follows what it asks for. -/
theorem Midway.next {n : Notification} {k : Nat} {told : Controller β ω}
    (h : Midway n k c d handed entries)
    (htold : Passes d told [] [.delivered k n]) (hreact : Hands told e more later)
    (hcaller : more ≠ [] → later.CalledBack k) :
    Midway n (k + 1) c e (handed ++ more) (entries ++ .delivered k n :: later) := by
  have hpasses : Passes c e (handed ++ ([] ++ more)) (entries ++ ([.delivered k n] ++ later)) :=
    h.toPasses.trans (htold.trans hreact.toPasses)
  have hreceived (i : Nat) : Journal.received i (entries ++ .delivered k n :: later) =
      entries.received i ++ ((if k = i then [n] else []) ++ later.received i) := by
    rw [← List.singleton_append, Journal.received_append, Journal.received_append,
      Journal.received_delivered]
  have hcalled (j : Nat) : Journal.CalledBack j (entries ++ .delivered k n :: later) ↔
      entries.CalledBack j ∨ later.CalledBack j := by
    rw [← List.singleton_append, Journal.calledBack_append, Journal.calledBack_append]
    simp [Journal.CalledBack]
  have hlength (i : Nat) (hi : i < c.observers.length) : i < told.observers.length :=
    Nat.lt_of_lt_of_le hi (Nat.le_trans h.observers htold.observers)
  refine ⟨hpasses, ?_, ?_, ?_⟩
  · intro i hi
    have hbefore := h.once i hi
    have hafter := hreact.once i (hlength i hi)
    rw [hreceived]
    by_cases hik : i < k
    · have hne : k ≠ i := by omega
      rw [if_pos hik] at hbefore
      rw [if_neg hne, if_pos (by omega), List.nil_append]
      exact hbefore.append hafter
    · rw [if_neg hik] at hbefore
      by_cases heq : k = i
      · rw [if_pos heq, if_pos (by omega)]
        have hmoved : (handed ++ n :: more).Perm (n :: (handed ++ more)) := List.perm_middle
        exact (hbefore.append (hafter.append_left [n])).trans hmoved
      · rw [if_neg heq, if_neg (by omega), List.nil_append]
        exact hbefore.append hafter
  · intro i hi hquiet
    have hfirst := h.ordered i hi fun j hj hj' => hquiet j hj ((hcalled j).mpr (.inl hj'))
    have hsecond := hreact.ordered i (hlength i hi) fun j hj hj' =>
      hquiet j hj ((hcalled j).mpr (.inr hj'))
    rw [hreceived, hfirst, hsecond]
    by_cases hik : i < k
    · have hne : k ≠ i := by omega
      rw [if_pos hik, if_neg hne, if_pos (by omega)]
      rfl
    · -- Nobody before this observer called back, so nothing was handed out meanwhile.
      have hnone : handed = [] := by
        by_contra hne
        obtain ⟨j, hj, hj'⟩ := h.caller hne
        exact hquiet j (by omega) ((hcalled j).mpr (.inl hj'))
      by_cases heq : k = i
      · rw [if_neg hik, if_pos heq, if_pos (by omega), hnone]
        rfl
      · have hnone' : more = [] := by
          by_contra hne
          exact hquiet k (by omega) ((hcalled k).mpr (.inr (hcaller hne)))
        rw [if_neg hik, if_neg heq, if_neg (by omega), hnone, hnone']
        rfl
  · intro hne
    by_cases hnone : handed = []
    · have hmore : more ≠ [] := by
        rintro rfl
        exact hne (by rw [hnone, List.append_nil])
      exact ⟨k, by omega, (hcalled k).mpr (.inr (hcaller hmore))⟩
    · obtain ⟨j, hj, hj'⟩ := h.caller hnone
      exact ⟨j, by omega, (hcalled j).mpr (.inl hj')⟩

/-! ## Handing out -/

section Handing

variable [Backend β] [Observer β ω] {react : Reaction β ω}

/-- Telling one more observer. -/
theorem Midway.tell (hreact : Heeds react) {n : Notification} {k : Nat}
    (h : Midway n k c d handed entries) (hk : k < c.observers.length) :
    ∃ handed entries, Midway n (k + 1) c (d.tell react n k) handed entries := by
  obtain ⟨o, ho⟩ : ∃ o, d.observers[k]? = some o :=
    ⟨_, List.getElem?_eq_getElem (Nat.lt_of_lt_of_le hk h.observers)⟩
  let told : Controller β ω :=
    { d with observers := d.observers.set k (Observer.receive n o : List (Operation β) × ω).2 }.record
      (.delivered k n)
  have hprompt : told.Prompt := ⟨h.prompt.queue, h.prompt.due⟩
  have htold : Passes d told [] [.delivered k n] :=
    .of_state hprompt (by simp [told, record]) rfl rfl rfl
  have hreturned : d.tell react n k =
      if told.live then react k (Observer.receive n o : List (Operation β) × ω).1 told
      else told := by
    simp only [Controller.tell, ho]
    rfl
  rw [hreturned]
  split
  · obtain ⟨more, later, hhands, hcaller⟩ := hreact k _ told hprompt
    exact ⟨_, _, h.next htold hhands hcaller⟩
  · exact ⟨_, _, h.next htold (.refl hprompt) (fun hne => absurd rfl hne)⟩

/-- Everyone is told; whoever calls back hands out more before those behind are told. -/
theorem midway_deliver (hreact : Heeds react) (n : Notification) (hc : c.Prompt) :
    ∃ handed entries, Midway n c.observers.length c (c.deliver react n) handed entries := by
  have hfirst (k : Nat) (hk : k ≤ c.observers.length) : ∃ handed entries,
      Midway n k c ((List.range k).foldl (fun c i => c.tell react n i) c) handed entries := by
    induction k with
    | zero =>
      refine ⟨[], [], (Hands.refl hc).toPasses, ?_, ?_, fun hne => absurd rfl hne⟩
      · intro i _
        simp
      · intro i _ _
        simp
    | succ k ih =>
      obtain ⟨handed, entries, hk'⟩ := ih (Nat.le_of_succ_le hk)
      rw [List.range_succ, List.foldl_append]
      exact hk'.tell hreact hk
  exact hfirst _ (Nat.le_refl _)

/-- The oldest notification leaves the outbox, and everyone is told of it. -/
theorem hands_deliver (hreact : Heeds react) {n : Notification} {rest : List Notification}
    (hc : c.Prompt) (hbox : c.state.outbox = n :: rest) :
    ∃ handed entries, Hands c
      ({ c with state := { c.state with outbox := rest } }.deliver react n) handed entries ∧
      ({ c with state := { c.state with outbox := rest } }.deliver react n).state.outbox.length ≤
        rest.length := by
  have hprompt : Prompt { c with state := { c.state with outbox := rest } } := ⟨hc.queue, hc.due⟩
  obtain ⟨handed, entries, h⟩ := midway_deliver hreact n hprompt
  obtain ⟨news, hraised, hmore⟩ := h.raised
  refine ⟨n :: handed, entries, ⟨⟨h.prompt, h.observers, h.journal, ⟨news, hraised, ?_⟩, ?_⟩, ?_, ?_⟩,
    h.shrinks⟩
  · rw [hbox]
    exact congrArg (n :: ·) hmore
  · rw [hbox]
    exact Nat.le_trans h.shrinks (Nat.le_succ _)
  · intro i hi
    have honce := h.once i hi
    rwa [if_pos hi] at honce
  · intro i hi hquiet
    have hordered := h.ordered i hi hquiet
    rwa [if_pos hi] at hordered

/-- A limit that leaves nothing in the outbox. -/
theorem hands_flush (hreact : Heeds react) {limit : Nat} (hc : c.Prompt)
    (hlimit : c.state.outbox.length ≤ limit) :
    ∃ handed entries, Hands c (c.flush react limit) handed entries ∧
      (c.flush react limit).state.outbox = [] := by
  induction limit generalizing c with
  | zero => exact ⟨[], [], .refl hc, List.length_eq_zero_iff.mp (Nat.le_zero.mp hlimit)⟩
  | succ limit ih =>
    unfold flush
    split
    · rename_i hbox
      exact ⟨[], [], .refl hc, hbox⟩
    · rename_i n rest hbox
      have hhand : { c with state := { c.state with outbox := rest } }.hand react n =
          { c with state := { c.state with outbox := rest } }.deliver react n := by
        simp only [hand, hc.queue]
      rw [hhand]
      obtain ⟨handed, entries, hfirst, hshrinks⟩ := hands_deliver hreact hc hbox
      have hrest : rest.length ≤ limit := by
        rw [hbox] at hlimit
        exact Nat.le_of_succ_le_succ hlimit
      obtain ⟨more, later, hlater, hempty⟩ := ih hfirst.prompt (Nat.le_trans hshrinks hrest)
      exact ⟨_, _, hfirst.trans hlater, hempty⟩

/-- One operation, and what is in the outbox afterwards. -/
theorem hands_performWith (hreact : Heeds react) (op : Operation β) (hc : c.Prompt) :
    ∃ handed entries, Hands c (c.performWith react op).2 handed entries := by
  have hnext : (c.performed op).Prompt := 
    ⟨hc.queue, fun heager => CaptureState.due_perform heager op c.state⟩
  rw [performWith_snd]
  split
  · obtain ⟨handed, entries, h, hempty⟩ := hands_flush hreact hnext (Nat.le_refl _)
    obtain ⟨news, hraised, hbox⟩ := CaptureState.posts_perform c.eager op c.state
    obtain ⟨more, hraised', hbox'⟩ := h.raised
    refine ⟨handed, entries, ⟨⟨h.prompt, h.observers, h.journal, ⟨news ++ more, ?_, ?_⟩, ?_⟩, h.once,
      h.ordered⟩⟩
    · rw [hraised', ← List.append_assoc]
      exact congrArg (· ++ more) hraised
    · rw [← hbox', ← List.append_assoc]
      exact congrArg (· ++ more) hbox.symm
    · rw [hempty]
      exact Nat.zero_le _
  · rename_i hop
    obtain ⟨houtbox, hlog⟩ :=
      CaptureState.outbox_perform (Bool.eq_false_iff.mpr hop) hc.due
    exact ⟨[], [], .of_state hnext (Nat.le_refl _) (List.append_nil _).symm rfl hlog houtbox⟩

omit [Observer β ω] in
theorem heeds_cutOff : Heeds (cutOff (β := β) (ω := ω)) := by
  intro i ops c hc
  refine ⟨[], [], ?_, fun hne => absurd rfl hne⟩
  unfold cutOff
  split
  · exact .refl hc
  · exact .of_state ⟨hc.queue, hc.due⟩ (Nat.le_refl _) (List.append_nil _).symm rfl rfl rfl

omit [Observer β ω] in
theorem heeds_follow {perform : Operation β → Controller β ω → Outcome × Controller β ω}
    (h : ∀ op c, c.Prompt → ∃ handed entries, Hands c (perform op c).2 handed entries) :
    Heeds (follow perform) := by
  intro i ops c hc
  induction ops generalizing c with
  | nil => exact ⟨[], [], .refl hc, fun hne => absurd rfl hne⟩
  | cons op rest ih =>
    obtain ⟨handed, entries, hfirst⟩ := h op c hc
    let outcome := (perform op c).1
    let returned := (perform op c).2.record
      (.returned i op outcome (perform op c).2.state.ownership)
    have hreturned : Hands (perform op c).2 returned []
        [.returned i op outcome (perform op c).2.state.ownership] :=
      .of_state ⟨hfirst.prompt.queue, hfirst.prompt.due⟩ (Nat.le_refl _) rfl rfl rfl rfl
    obtain ⟨more, later, hrest, -⟩ := ih returned hreturned.prompt
    refine ⟨_, _, (hfirst.trans hreturned).trans hrest, fun _ => ?_⟩
    exact ⟨op, outcome, (perform op c).2.state.ownership, by simp⟩

theorem hands_performAt (depth : Nat) (op : Operation β) (hc : c.Prompt) :
    ∃ handed entries, Hands c (performAt depth op c).2 handed entries := by
  induction depth generalizing op c with
  | zero => exact hands_performWith heeds_cutOff op hc
  | succ depth ih => exact hands_performWith (heeds_follow fun op c hc => ih op hc) op hc

/-! ## Moves and runs -/

theorem Prompt.move_runOne (hc : c.Prompt) (depth : Nat) : c.move (.runOne depth) = c := by
  simp [move, runOneAt, hc.queue]

theorem Prompt.move_runPending (hc : c.Prompt) (depth rounds : Nat) :
    c.move (.runPending depth rounds) = c := by
  cases rounds <;> simp [move, runRounds, pending, hc.queue]

theorem hands_move (m : Move β ω) (hc : c.Prompt) :
    ∃ handed entries, Hands c (c.move m) handed entries := by
  cases m with
  | perform depth op => exact hands_performAt depth op hc
  | runOne depth =>
    rw [hc.move_runOne]
    exact ⟨[], [], .refl hc⟩
  | runPending depth rounds =>
    rw [hc.move_runPending]
    exact ⟨[], [], .refl hc⟩
  | subscribe o =>
    exact ⟨[], [], .of_state ⟨hc.queue, hc.due⟩ (by simp [move, subscribe])
      (List.append_nil _).symm rfl rfl rfl⟩
  | stir i change =>
    exact ⟨[], [], .of_state ⟨hc.queue, hc.due⟩ (Nat.le_refl _)
      (List.append_nil _).symm rfl rfl rfl⟩

theorem hands_run (moves : List (Move β ω)) (hc : c.Prompt) :
    ∃ handed entries, Hands c (c.run moves) handed entries := by
  induction moves generalizing c with
  | nil => exact ⟨[], [], .refl hc⟩
  | cons m rest ih =>
    obtain ⟨handed, entries, hfirst⟩ := hands_move m hc
    obtain ⟨more, later, hrest⟩ := ih hfirst.prompt
    exact ⟨_, _, hfirst.trans hrest⟩

omit [Observer β ω] in
/-- At its beginning a controller has nothing to hand out. -/
theorem prompt_build (builder : ControllerBuilder β) (eager : Bool) (observers : List ω) :
    (build builder eager false observers).Prompt ∧
      (build builder eager false observers).state.outbox = [] := by
  obtain ⟨-, hbox, hdue⟩ := builder.quiet_start
  exact ⟨⟨rfl, fun _ => hdue⟩, hbox⟩

end Handing

end Controller

namespace ControllerBuilder

variable {β ω : Type} [Backend β] [Observer β ω]

/-- Under an immediate context, whatever observers call back: between two moments, everyone who is
subscribed at the first is told once of each notification raised meanwhile. It is told of them in the
order in which they were raised, unless an observer that subscribed before it called back meanwhile. -/
theorem handed_once (builder : ControllerBuilder β) (eager : Bool) (observers : List ω)
    (before after : List (Move β ω)) :
    let c := (Controller.build builder eager false observers).run before
    let d := c.run after
    ∃ news entries, d.state.raised = c.state.raised ++ news ∧ d.journal = c.journal ++ entries ∧
      ∀ i < c.observers.length, (Journal.received i entries).Perm news ∧
        ((∀ j < i, ¬ Journal.CalledBack j entries) → Journal.received i entries = news) := by
  intro c d
  obtain ⟨hprompt, hempty⟩ := Controller.prompt_build builder eager observers
  obtain ⟨_, _, hbefore⟩ := Controller.hands_run before hprompt
  obtain ⟨handed, entries, h⟩ := Controller.hands_run after hbefore.prompt
  have hc : c.state.outbox = [] := hbefore.outbox_eq_nil hempty
  have hd : d.state.outbox = [] := h.outbox_eq_nil hc
  obtain ⟨news, hraised, hbox⟩ := h.raised
  obtain rfl : news = handed := by
    change c.state.outbox ++ news = handed ++ d.state.outbox at hbox
    rwa [hc, hd, List.nil_append, List.append_nil] at hbox
  exact ⟨news, entries, hraised, h.journal, fun i hi => ⟨h.once i hi, h.ordered i hi⟩⟩

/-- An observer that stops the stream as soon as it hears of its opening: the one behind it is told of
the closing before it is told of the opening. -/
theorem closing_told_before_opening :
    let caller : Scripted.Recorder := ⟨[⟨.opened, [.stopStream], 1⟩]⟩
    let builder : ControllerBuilder Scripted.Camera := ControllerBuilder.default
    let c := (Controller.build builder true false [caller, ⟨[]⟩]).run [.perform 1 .startStream]
    let opened := Notification.opened Descriptor.fallbackName Descriptor.fallback
      ⟨Geometry.streamDefault, AdjustmentSet.neutral, false⟩
    let closed := Notification.closed Descriptor.fallbackName Descriptor.fallback
    c.state.raised = [opened, closed] ∧ c.cut = false ∧
      Journal.received 0 c.journal = [opened, closed] ∧
      Journal.received 1 c.journal = [closed, opened] := by
  refine ⟨?_, ?_, ?_, ?_⟩ <;> decide +kernel

end ControllerBuilder

end VideoCapture
