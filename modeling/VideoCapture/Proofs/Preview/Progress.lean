import VideoCapture.Proofs.Preview.Coherence

/-!
# The worker answers

While the owner waits for the worker, every turn of the worker brings it nearer to its answer, and no other
turn takes it farther away. So the owner is answered under every list of turns in which the worker goes on
often enough, and its call comes to an end when the owner then goes on.

## Main definitions

* `State.remaining` — how many turns the worker needs at most.
* `Waiting` — the owner waits for the worker.
* `Fair` — the worker and then the owner go on often enough.

The main statements are `Coherent.stop_returns` and `Coherent.drop_ends`.
-/

namespace VideoCapture.PreviewProtocol

/-- Ends a session or the worker. -/
def ends : LoopCommand → Bool
  | .stop => true
  | .quit => true
  | _ => false

/-- How many commands come up to the first that ends something; none if nothing does. -/
def ahead (commands : List LoopCommand) : Nat := ((commands.findIdx? ends).map Nat.succ).getD 0

/-- How many turns the worker needs at most until it looks at the queue, acknowledges, or is dead. -/
def stageWork : WorkerStage → Nat
  | .due => 3
  | .pulling _ => 2
  | .pushing _ => 1
  | .acknowledging _ => 1
  | .dying => 2
  | .mute => 1
  | _ => 0

section Commands

variable {c : LoopCommand} {commands : List LoopCommand}

theorem ahead_of_countP_eq_zero (h : commands.countP ends = 0) : ahead commands = 0 := by
  have hnone : commands.findIdx? ends = none := by
    rw [List.findIdx?_eq_none_iff]
    intro c hc
    simpa using List.countP_eq_zero.mp h c hc
  simp [ahead, hnone]

theorem ahead_cons_of_ends (h : ends c = true) : ahead (c :: commands) = 1 := by
  simp [ahead, List.findIdx?_cons, h]

theorem ahead_cons_of_not_ends (h : ends c = false) (hcount : commands.countP ends = 1) :
    ahead (c :: commands) = ahead commands + 1 := by
  obtain ⟨i, hi⟩ : ∃ i, commands.findIdx? ends = some i := by
    cases hfind : commands.findIdx? ends with
    | some i => exact ⟨i, rfl⟩
    | none =>
      rw [List.findIdx?_eq_none_iff] at hfind
      have hzero : commands.countP ends = 0 := List.countP_eq_zero.mpr fun c hc => by simp [hfind c hc]
      omega
  simp [ahead, List.findIdx?_cons, h, hi]

theorem ahead_concat_attach (commands : List LoopCommand) (source : String) :
    ahead (commands ++ [.attach source]) = ahead commands := by
  simp [ahead, List.findIdx?_append, List.findIdx?_cons, ends]

theorem countP_bounds (commands : List LoopCommand) :
    (bounds commands).countP ends = commands.countP ends := by
  induction commands with
  | nil => rfl
  | cons c commands ih => cases c <;> simp [List.countP_cons, ih, ends]

end Commands

variable {σ : Type} {names : List String} {p : State σ}

/-- How many turns the worker needs at most until it has answered. -/
def State.remaining (p : State σ) : Nat := 4 * ahead p.commands + stageWork p.worker

/-- The owner waits for an acknowledgement that may still come, or for the end of the worker. -/
def Waiting (p : State σ) : Prop :=
  (∃ last, p.owner = .awaiting last) ∧ p.acks = 0 ∧ p.worker.answers = true ∨
    p.owner = .joining ∧ p.worker.hears = true

/-- The worker goes on until it must have answered, and then the owner until it must have returned. -/
def Fair (p : State σ) (turns : List Turn) : Prop :=
  ∃ first rest, turns = first ++ rest ∧ p.remaining ≤ first.count .work ∧ 2 ≤ rest.count .resume

namespace Coherent

/-- While the owner waits, an answer is due: the worker is about to give it, or to die, or the command that
it answers is under way. -/
theorem of_waiting (h : Coherent names p) (hw : Waiting p) :
    (∃ last, p.worker = .acknowledging last) ∧ p.acks = 0 ∧ (∃ last, p.owner = .awaiting last) ∨
      p.worker = .dying ∨ p.worker = .mute ∨
      p.commands.countP ends = 1 ∧ (p.worker = .idle ∨ p.worker.inSession = true ∧ p.cancel = true) := by
  obtain ⟨unanswered, haccord, -⟩ := h.accord
  rw [← countP_bounds]
  rcases hw with ⟨⟨last, howner⟩, hacks, hworker⟩ | ⟨howner, hworker⟩
  · have hcancel : p.cancel = true := by rw [← h.cancel, h.stopping, howner]; rfl
    rw [howner, hacks] at haccord
    generalize p.running = running, bounds p.commands = commands, p.worker = worker
      at haccord hworker ⊢
    cases haccord with
    | bothSent => exact .inr (.inr (.inr ⟨rfl, .inl rfl⟩))
    | stopSent hw =>
      rcases hw with hw | rfl
      · exact .inr (.inr (.inr ⟨rfl, .inr ⟨hw, hcancel⟩⟩))
      · exact .inr (.inl rfl)
    | stopHandled => exact .inl ⟨⟨false, rfl⟩, hacks, last, howner⟩
    | lost _ hlost => cases worker <;> simp at hworker hlost
    | stopped h => simp at h
    | startSent ho => simp at ho
    | serving ho => simp at ho
    | ended h => simp at h
  · rw [howner] at haccord
    generalize p.running = running, bounds p.commands = commands, p.worker = worker, p.acks = acks
      at haccord hworker ⊢
    cases haccord with
    | quitSent => exact .inr (.inr (.inr ⟨rfl, .inl rfl⟩))
    | lost _ hlost => cases worker <;> simp at hworker hlost ⊢
    | ended => simp at hworker
    | stopped h => simp at h
    | startSent ho => simp at ho
    | serving ho => simp at ho

theorem remaining_pos (h : Coherent names p) (hw : Waiting p) : 0 < p.remaining := by
  rcases h.of_waiting hw with ⟨⟨last, hworker⟩, -⟩ | hworker | hworker | ⟨hcount, -⟩
  · simp [State.remaining, hworker, stageWork]
  · simp [State.remaining, hworker, stageWork]
  · simp [State.remaining, hworker, stageWork]
  · have hahead : ahead p.commands ≠ 0 := by
      cases hcommands : p.commands with
      | nil => simp [hcommands] at hcount
      | cons c rest =>
        rw [hcommands] at hcount
        cases hc : ends c with
        | true => simp [ahead_cons_of_ends hc]
        | false => simp [ahead_cons_of_not_ends hc (by simpa [hc] using hcount)]
    rw [State.remaining]
    omega

end Coherent

theorem remaining_receive {c : LoopCommand} {rest : List LoopCommand} (hcommands : p.commands = c :: rest)
    (hcount : p.commands.countP ends = 1) : (p.receive c rest).remaining < p.remaining := by
  rw [hcommands] at hcount
  have hstage : stageWork (stageAfter p.worker.inSession c) ≤ 3 := by
    cases c with
    | start w h =>
      rcases stageAfter_start p.worker.inSession w h with hnext | hnext <;> rw [hnext] <;> decide
    | _ => cases p.worker.inSession <;> simp [stageAfter, stageWork]
  simp only [State.remaining, State.receive, State.note, hcommands]
  cases hc : ends c with
  | true =>
    have hrest : rest.countP ends = 0 := by simpa [hc] using hcount
    rw [ahead_cons_of_ends hc, ahead_of_countP_eq_zero hrest]
    omega
  | false =>
    have hrest : rest.countP ends = 1 := by simpa [hc] using hcount
    rw [ahead_cons_of_not_ends hc hrest]
    omega

section Worker

variable [FrameSource σ]

/-- A turn of the worker answers the owner, or brings the answer nearer. -/
theorem Coherent.work_of_waiting (h : Coherent names p) (hw : Waiting p) :
    p.work.owner = p.owner ∧ (Waiting p.work → p.work.remaining < p.remaining) := by
  rcases h.of_waiting hw with ⟨⟨last, hworker⟩, hacks, last', howner⟩ | hworker | hworker |
    ⟨hcount, hworker⟩
  · rw [State.work, hworker]
    refine ⟨by simp [hacks], fun hstill => ?_⟩
    simp [Waiting, hacks, howner] at hstill
  · rw [State.work, hworker]
    simp [State.remaining, hworker, stageWork]
  · rw [State.work, hworker]
    simp [State.remaining, hworker, stageWork]
  · have hnonempty : p.commands ≠ [] := by
      intro hnil
      simp [hnil] at hcount
    obtain ⟨c, rest, hcommands⟩ := List.exists_cons_of_ne_nil hnonempty
    have hreceive := remaining_receive hcommands hcount
    rcases hworker with hworker | ⟨hsession, hcancel⟩
    · rw [State.work, hworker]
      simp only [hcommands]
      exact ⟨rfl, fun _ => hreceive⟩
    · cases hworker : p.worker with
      | due =>
        rw [State.work, hworker]
        cases htarget : p.target? with
        | none => simp [State.beginPull, htarget, State.remaining, hworker, stageWork]
        | some target => simp [State.beginPull, htarget, State.remaining, hworker, stageWork]
      | pulling result =>
        rw [State.work, hworker]
        cases result <;> simp [State.endPull, hcancel, State.remaining, hworker, stageWork]
      | pushing f =>
        rw [State.work, hworker]
        simp [State.remaining, hworker, stageWork]
      | pausing =>
        rw [State.work, hworker]
        simp only [hcommands]
        exact ⟨rfl, fun _ => hreceive⟩
      | _ => simp [hworker] at hsession

/-- No other turn changes anything about the wait. -/
theorem step_of_waiting (hw : Waiting p) {t : Turn} (ht : t ≠ .work) :
    (p.step t).owner = p.owner ∧ Waiting (p.step t) ∧ (p.step t).remaining = p.remaining := by
  have hready : p.owner ≠ .ready := by
    rcases hw with ⟨⟨last, howner⟩, -⟩ | ⟨howner, -⟩ <;> simp [howner]
  cases t with
  | attach source =>
    rw [State.step]
    split
    · exact ⟨rfl, hw, rfl⟩
    · rw [State.send]
      split
      · exact ⟨rfl, hw, by simp [State.remaining, ahead_concat_attach]⟩
      · exact ⟨rfl, hw, rfl⟩
  | destroy source => exact ⟨rfl, hw, rfl⟩
  | start width height => simp [State.step, hready, hw]
  | stop => simp [State.step, hready, hw]
  | drop => simp [State.step, hready, hw]
  | resume =>
    have hsame : p.resume = p := by
      rcases hw with ⟨⟨last, howner⟩, hacks, hworker⟩ | ⟨howner, hworker⟩
      · simp only [State.resume, howner, hacks, hworker, ne_eq, not_true_eq_false, if_false, if_true]
      · simp only [State.resume, howner, hworker, if_true]
    simp [State.step, hsame, hw]
  | work => exact absurd rfl ht

/-- An owner that waits is answered before the worker has had all its turns. -/
theorem Coherent.exists_answer (h : Coherent names p) (hw : Waiting p) {turns : List Turn}
    (hturns : p.remaining ≤ turns.count .work) :
    ∃ now, now <+: turns ∧ (p.run now).owner = p.owner ∧ ¬ Waiting (p.run now) := by
  induction turns generalizing p with
  | nil =>
    have hpos := h.remaining_pos hw
    rw [List.count_nil] at hturns
    omega
  | cons t turns ih =>
    -- The first turn leaves the owner where it is.
    have hfirst {q : State σ} (hq : q = p.step t) (howner : q.owner = p.owner) (hstill : Waiting q)
        (hremaining : q.remaining ≤ turns.count .work) :
        ∃ now, now <+: t :: turns ∧ (p.run now).owner = p.owner ∧ ¬ Waiting (p.run now) := by
      subst hq
      obtain ⟨now, hprefix, hnow, hanswered⟩ := ih (h.step t).coherent hstill hremaining
      exact ⟨t :: now, List.cons_prefix_cons.mpr ⟨rfl, hprefix⟩, hnow.trans howner, hanswered⟩
    by_cases ht : t = .work
    · subst ht
      obtain ⟨howner, hless⟩ := h.work_of_waiting hw
      by_cases hstill : Waiting p.work
      · have hlt := hless hstill
        rw [List.count_cons_self] at hturns
        have hremaining : p.work.remaining ≤ turns.count .work := by omega
        exact hfirst rfl howner hstill hremaining
      · exact ⟨[.work], by simp, howner, hstill⟩
    · obtain ⟨howner, hstill, hsame⟩ := step_of_waiting hw ht
      rw [List.count_cons_of_ne ht] at hturns
      exact hfirst rfl howner hstill (hsame ▸ hturns)

/-! ## The owner goes on -/

/-- A worker that ended or died comes to nothing more. -/
theorem answers_work (p : State σ) (h : p.work.worker.answers = true) : p.worker.answers = true := by
  cases hw : p.worker <;> simp_all [State.work]

theorem hears_work (p : State σ) (h : p.work.worker.hears = true) : p.worker.hears = true := by
  cases hw : p.worker <;> simp_all [State.work]

/-- Inside a call, only the owner moves itself, and nobody takes an answer away. -/
theorem step_of_not_ready (howner : p.owner ≠ .ready) {t : Turn} (ht : t ≠ .resume) :
    (p.step t).owner = p.owner ∧ (Waiting (p.step t) → Waiting p) := by
  have hkept : (p.step t).owner = p.owner ∧ ((p.step t).acks = 0 → p.acks = 0) ∧
      ((p.step t).worker.answers = true → p.worker.answers = true) ∧
      ((p.step t).worker.hears = true → p.worker.hears = true) := by
    cases t with
    | attach source =>
      rw [State.step]
      split
      · exact ⟨rfl, id, id, id⟩
      · rw [State.send]
        split <;> exact ⟨rfl, id, id, id⟩
    | destroy source => exact ⟨rfl, id, id, id⟩
    | start width height => simp [State.step, howner]
    | stop => simp [State.step, howner]
    | drop => simp [State.step, howner]
    | resume => exact absurd rfl ht
    | work =>
      obtain ⟨hsame, -, -, hacks⟩ := work_frame p
      refine ⟨hsame, fun hzero => ?_, answers_work p, hears_work p⟩
      by_cases hne : p.acks = 0
      · exact hne
      · exact (hacks hne).symm.trans hzero
  obtain ⟨hsame, hacks, hanswers, hears⟩ := hkept
  refine ⟨hsame, ?_⟩
  rintro (⟨hawaiting, hzero, hworker⟩ | ⟨hjoining, hworker⟩)
  · exact .inl ⟨hsame ▸ hawaiting, hacks hzero, hanswers hworker⟩
  · exact .inr ⟨hsame ▸ hjoining, hears hworker⟩

/-- Inside a call, all is as before when the owner goes on next. -/
theorem exists_resume (howner : p.owner ≠ .ready) {turns : List Turn} (hturns : 0 < turns.count .resume) :
    ∃ now rest, turns = now ++ .resume :: rest ∧ turns.count .resume = rest.count .resume + 1 ∧
      (p.run now).owner = p.owner ∧ (Waiting (p.run now) → Waiting p) := by
  induction turns generalizing p with
  | nil => simp at hturns
  | cons t turns ih =>
    by_cases ht : t = .resume
    · subst ht
      exact ⟨[], turns, rfl, List.count_cons_self, rfl, id⟩
    · obtain ⟨hsame, hw⟩ := step_of_not_ready howner ht
      rw [List.count_cons_of_ne ht] at hturns ⊢
      obtain ⟨now, rest, rfl, hcount, hsame', hw'⟩ := ih (hsame ▸ howner) hturns
      exact ⟨t :: now, rest, rfl, hcount, hsame'.trans hsame, fun hstill => hw (hw' hstill)⟩

/-- An owner that has been answered finds the answer when it goes on. -/
theorem Coherent.exists_answered (h : Coherent names p)
    (howner : (∃ last, p.owner = .awaiting last) ∨ p.owner = .joining) {turns : List Turn}
    (hturns : Fair p turns) :
    ∃ now rest, turns = now ++ .resume :: rest ∧ 0 < rest.count .resume ∧ (p.run now).owner = p.owner ∧
      ¬ Waiting (p.run now) := by
  obtain ⟨first, rest, rfl, hwork, hresume⟩ := hturns
  -- The answer is there, at once or after some of the turns.
  obtain ⟨before, ⟨more, rfl⟩, hsame, hanswered⟩ :
      ∃ before, before <+: first ∧ (p.run before).owner = p.owner ∧ ¬ Waiting (p.run before) := by
    by_cases hw : Waiting p
    · exact h.exists_answer hw hwork
    · exact ⟨[], List.nil_prefix, rfl, hw⟩
  have hcount : 2 ≤ (more ++ rest).count .resume := by
    rw [List.count_append]
    omega
  have hready : (p.run before).owner ≠ .ready := by
    rw [hsame]
    rcases howner with ⟨last, howner⟩ | howner <;> simp [howner]
  obtain ⟨now, rest', hsplit, hrest, hsame', hw⟩ :=
    exists_resume hready (Nat.lt_of_lt_of_le Nat.two_pos hcount)
  refine ⟨before ++ now, rest', by rw [List.append_assoc, hsplit, List.append_assoc], by omega, ?_, ?_⟩
  · rw [run_append, hsame', hsame]
  · rw [run_append]
    exact fun hstill => hanswered (hw hstill)

/-- A stop that waits returns. -/
theorem Coherent.stop_returns (h : Coherent names p) {last : Bool} (howner : p.owner = .awaiting last)
    {turns : List Turn} (hturns : Fair p turns) :
    ∃ now, now <+: turns ∧ PreviewProtocol.stopping (p.run now).log = false := by
  obtain ⟨now, rest, rfl, hrest, hsame, hanswered⟩ := h.exists_answered (.inl ⟨last, howner⟩) hturns
  have hnow : (p.run now).owner = .awaiting last := hsame.trans howner
  have hreceived : ((p.run now).step .resume).owner = .returning last := by
    simp only [State.step, State.resume, hnow]
    split
    · rfl
    · rename_i hzero
      split
      · exact absurd (.inl ⟨⟨last, hnow⟩, Decidable.not_not.mp hzero, ‹_›⟩) hanswered
      · rfl
  obtain ⟨later, rest', rfl, -, hsame', -⟩ :=
    exists_resume (p := (p.run now).step .resume) (by simp [hreceived]) hrest
  refine ⟨now ++ .resume :: (later ++ [.resume]), by simp, ?_⟩
  rw [run_append, run_cons, run_concat, State.step, State.resume, hsame'.trans hreceived]
  simp

/-- Dropping the loop comes to an end, and so has the worker. -/
theorem Coherent.drop_ends (h : Coherent names p) (howner : p.owner = .joining) {turns : List Turn}
    (hturns : Fair p turns) : ∃ now, now <+: turns ∧ (p.run now).owner = .gone := by
  obtain ⟨now, rest, rfl, -, hsame, hanswered⟩ := h.exists_answered (.inr howner) hturns
  have hnow : (p.run now).owner = .joining := hsame.trans howner
  have hworker : (p.run now).worker.hears = false :=
    Bool.eq_false_iff.mpr fun hears => hanswered (.inr ⟨hnow, hears⟩)
  refine ⟨now ++ [.resume], by simp, ?_⟩
  rw [run_concat, State.step, State.resume, hnow]
  simp only [hworker, Bool.false_eq_true, if_false]

end Worker

end VideoCapture.PreviewProtocol
