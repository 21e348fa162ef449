import Mathlib.Data.List.Perm.Basic
import Mathlib.Tactic.Common
import VideoCapture.Proofs.Jobs.Forest

/-!
# Running jobs on the main context

A queue that is drained and a context that runs jobs at once run the same jobs, each once: the queue in the
order in which they were handed over, the other one inside the job that hands them over.

## Main definitions

* `MainQueue.Drains` — running jobs until none waits, as a loop whose end is not given beforehand.
* `MainQueue.Move`, `MainQueue.Steps` — jobs entering and leaving the queue, one at a time, whoever makes
  them do so.
* `MainQueue.Turn`, `MainQueue.session` — the calls of an application on an empty queue.

The main statement is `MainQueue.jobs_run_once`.
-/

namespace VideoCapture

variable {α : Type}

/-! ## What a log says -/

/-- The job that an event says has run. -/
def JobEvent.ran? : JobEvent α → Option α
  | .ran id => some id
  | .handedOver _ => none

/-- The jobs that have run, in their order. -/
def ranIds (log : List (JobEvent α)) : List α := log.filterMap JobEvent.ran?

@[simp] theorem ranIds_ran (id : α) (log : List (JobEvent α)) :
    ranIds (.ran id :: log) = id :: ranIds log := rfl

@[simp] theorem ranIds_append (log more : List (JobEvent α)) :
    ranIds (log ++ more) = ranIds log ++ ranIds more := List.filterMap_append

namespace Job

/-- What is logged when a job runs and its children have to wait. -/
def log (j : Job α) : List (JobEvent α) := .ran j.id :: closing j.id j.children

@[simp] theorem ranIds_closing (id : α) (children : List (Job α)) : ranIds (closing id children) = [] := by
  unfold closing
  split <;> rfl

@[simp] theorem ranIds_log (j : Job α) : ranIds j.log = [j.id] := by
  rw [log, ranIds_ran, ranIds_closing]

theorem ranIds_flatMap_log (jobs : List (Job α)) : ranIds (jobs.flatMap log) = jobs.map id := by
  induction jobs with
  | nil => rfl
  | cons j rest ih => simp [ih]

/-! ## Running at once -/

theorem runNow_eq (j : Job α) :
    j.runNow = .ran j.id :: (runAllNow j.children ++ closing j.id j.children) := by
  cases j
  rw [runNow, children, id, List.cons_append]

theorem runAllNow_append (jobs more : List (Job α)) :
    runAllNow (jobs ++ more) = runAllNow jobs ++ runAllNow more := by
  induction jobs with
  | nil => rfl
  | cons j rest ih => rw [List.cons_append, runAllNow, runAllNow, ih, List.append_assoc]

mutual

theorem ranIds_runNow : ∀ j : Job α, ranIds j.runNow = j.family.map id
  | mk id children => by
    rw [runNow, List.cons_append, ranIds_ran, ranIds_append, ranIds_runAllNow children, ranIds_closing,
      List.append_nil, family, List.map_cons]
    rfl

/-- Each job runs before its children, and what a child leads to before the next child. -/
theorem ranIds_runAllNow : ∀ jobs : List (Job α), ranIds (runAllNow jobs) = (families jobs).map id
  | [] => rfl
  | j :: rest => by
    rw [runAllNow, ranIds_append, ranIds_runNow j, ranIds_runAllNow rest, families, List.map_append]

end

/-- The log of a job is in one piece inside the log of what leads to it. -/
theorem runNow_within_of_mem {c : Job α} {jobs : List (Job α)} (h : c ∈ jobs) :
    c.runNow <:+: runAllNow jobs := by
  obtain ⟨before, after, rfl⟩ := List.append_of_mem h
  refine ⟨runAllNow before, runAllNow after, ?_⟩
  rw [runAllNow_append, runAllNow, List.append_assoc]

theorem runAllNow_children_within (j : Job α) : runAllNow j.children <:+: j.runNow :=
  ⟨[.ran j.id], closing j.id j.children, by rw [runNow_eq]; rfl⟩

mutual

theorem runNow_within_runNow {p : Job α} : ∀ j : Job α, p ∈ j.family → p.runNow <:+: j.runNow
  | mk id children, h => by
    rw [family, List.mem_cons] at h
    rcases h with rfl | h
    · exact List.infix_refl _
    · exact (runNow_within_runAllNow children h).trans (runAllNow_children_within (mk id children))

theorem runNow_within_runAllNow {p : Job α} :
    ∀ jobs : List (Job α), p ∈ families jobs → p.runNow <:+: runAllNow jobs
  | [], h => by simp [families] at h
  | j :: rest, h => by
    rw [families, List.mem_append] at h
    rw [runAllNow]
    rcases h with h | h
    · exact (runNow_within_runNow j h).trans (List.infix_append [] _ _)
    · exact (runNow_within_runAllNow rest h).trans (List.suffix_append _ _).isInfix

end

/-- A child runs after its parent has begun, and before its parent ends. -/
theorem child_inside {p c : Job α} (h : c ∈ p.children) :
    ∃ before after, p.runNow = .ran p.id :: (before ++ c.runNow ++ after) ++ [.handedOver p.id] := by
  obtain ⟨before, after, hchildren⟩ := runNow_within_of_mem h
  have hclosing : closing p.id p.children = [.handedOver p.id] := by
    rw [closing, List.isEmpty_eq_false_iff.mpr (List.ne_nil_of_mem h)]
    rfl
  refine ⟨before, after, ?_⟩
  rw [runNow_eq, hclosing, ← hchildren]
  rfl

end Job

namespace MainQueue

open Job

variable {q next final : MainQueue α} {log : List (JobEvent α)} {count : Nat}

/-! ## Draining -/

theorem runOne_cons (j : Job α) (rest : List (Job α)) :
    (MainQueue.mk (j :: rest)).runOne = some (j.log, ⟨rest ++ j.children⟩) := by
  cases j
  rfl

theorem runOne_eq_none_iff : q.runOne = none ↔ q.jobs = [] := by
  obtain ⟨jobs⟩ := q
  cases jobs with
  | nil => exact iff_of_true rfl rfl
  | cons j rest => simp [runOne_cons]

theorem runOne_eq_some_iff {events : List (JobEvent α)} :
    q.runOne = some (events, next) ↔
      ∃ j rest, q.jobs = j :: rest ∧ events = j.log ∧ next = ⟨rest ++ j.children⟩ := by
  obtain ⟨jobs⟩ := q
  cases jobs with
  | nil => simp [runOne]
  | cons j rest => grind [runOne_cons]

/-- The loop that runs jobs until none waits: how many ran, what was logged and what is left. -/
inductive Drains : MainQueue α → Nat → List (JobEvent α) → MainQueue α → Prop where
  | stop {q : MainQueue α} (h : q.runOne = none) : Drains q 0 [] q
  | next {q between final : MainQueue α} {events more : List (JobEvent α)} {count : Nat}
      (h : q.runOne = some (events, between)) (rest : Drains between count more final) :
      Drains q (count + 1) (events ++ more) final

theorem Drains.unique (h : Drains q count log final) {count' : Nat} {log' : List (JobEvent α)}
    {final' : MainQueue α} (h' : Drains q count' log' final') :
    count = count' ∧ log = log' ∧ final = final' := by
  induction h generalizing count' log' with
  | stop hnone =>
    cases h' with
    | stop => exact ⟨rfl, rfl, rfl⟩
    | next hsome => rw [hnone] at hsome; cases hsome
  | next hsome _ ih =>
    cases h' with
    | stop hnone => rw [hsome] at hnone; cases hnone
    | next hsome' hrest =>
      rw [hsome] at hsome'
      cases hsome'
      obtain ⟨rfl, rfl, rfl⟩ := ih hrest
      exact ⟨rfl, rfl, rfl⟩

/-- With a limit that is high enough, no job is left. -/
theorem drains_runUpTo {n : Nat} (h : sizeAll q.jobs ≤ n) :
    Drains q (q.runUpTo n).1 (q.runUpTo n).2.1 (q.runUpTo n).2.2 := by
  induction n generalizing q with
  | zero =>
    have hsize := sizeAll_eq q.jobs
    have hlength : q.jobs.length = 0 := by omega
    exact .stop (runOne_eq_none_iff.mpr (List.eq_nil_of_length_eq_zero hlength))
  | succ n ih =>
    rw [runUpTo]
    cases hrun : q.runOne with
    | none => exact .stop hrun
    | some parts =>
      obtain ⟨events, between⟩ := parts
      refine .next hrun (ih ?_)
      obtain ⟨⟨id, children⟩, rest, hjobs, -, rfl⟩ := runOne_eq_some_iff.mp hrun
      rw [hjobs, sizeAll, size] at h
      rw [Job.children, sizeAll_append]
      omega

/-- The loop runs the first jobs, and then goes on with the others and what the first ones handed over. -/
theorem Drains.front (jobs later : List (Job α))
    (h : Drains ⟨later ++ jobs.flatMap children⟩ count log final) :
    Drains ⟨jobs ++ later⟩ (jobs.length + count) (jobs.flatMap Job.log ++ log) final := by
  induction jobs generalizing later with
  | nil => simpa using h
  | cons j rest ih =>
    have hrest : Drains ⟨rest ++ (later ++ j.children)⟩ (rest.length + count)
        (rest.flatMap Job.log ++ log) final := by
      apply ih
      simpa using h
    rw [← List.append_assoc] at hrest
    have hall := Drains.next (runOne_cons j (rest ++ later)) hrest
    rw [List.length_cons, List.flatMap_cons, List.append_assoc, Nat.add_right_comm]
    exact hall

/-- The loop runs the jobs generation by generation, and ends. -/
theorem drains_breadthFirst (jobs : List (Job α)) :
    Drains ⟨jobs⟩ (sizeAll jobs) ((breadthFirst jobs).flatMap Job.log) empty := by
  induction jobs using generation_induction with
  | nil => exact .stop rfl
  | step jobs _ ih =>
    rw [sizeAll_eq, breadthFirst_eq, List.flatMap_append]
    have hall := Drains.front jobs [] ih
    rwa [List.append_nil] at hall

theorem runPending_eq (q : MainQueue α) :
    q.runPending = (sizeAll q.jobs, (breadthFirst q.jobs).flatMap Job.log, empty) := by
  obtain ⟨hcount, hlog, hfinal⟩ := (drains_runUpTo (Nat.le_refl _)).unique (drains_breadthFirst q.jobs)
  exact Prod.ext hcount (Prod.ext hlog hfinal)

/-- The loop ends from every queue, in one way. -/
theorem drains_iff : Drains q count log final ↔ q.runPending = (count, log, final) := by
  constructor
  · intro h
    obtain ⟨hcount, hlog, hfinal⟩ := (drains_breadthFirst q.jobs).unique h
    rw [runPending_eq, hcount, hlog, hfinal]
  · intro h
    have hdrains := drains_breadthFirst q.jobs
    rw [runPending_eq] at h
    cases h
    exact hdrains

/-! ## Jobs entering and leaving -/

/-- One job enters the queue or leaves it to be run. -/
inductive Move (α : Type) where
  | queued (job : Job α)
  | ran (job : Job α)

namespace Move

def queued? : Move α → Option (Job α)
  | .queued job => some job
  | .ran _ => none

def ran? : Move α → Option (Job α)
  | .queued _ => none
  | .ran job => some job

end Move

/-- The jobs that entered the queue, in their order. -/
def queuedIn (moves : List (Move α)) : List (Job α) := moves.filterMap Move.queued?

/-- The jobs that left the queue, in their order. -/
def ranIn (moves : List (Move α)) : List (Job α) := moves.filterMap Move.ran?

@[simp] theorem queuedIn_append (moves more : List (Move α)) :
    queuedIn (moves ++ more) = queuedIn moves ++ queuedIn more := List.filterMap_append

@[simp] theorem ranIn_append (moves more : List (Move α)) :
    ranIn (moves ++ more) = ranIn moves ++ ranIn more := List.filterMap_append

/-- A job enters at the end, and leaves at the front. -/
inductive Step : MainQueue α → Move α → MainQueue α → Prop where
  | queued (q : MainQueue α) (job : Job α) : Step q (.queued job) (q.post job)
  | ran (job : Job α) (rest : List (Job α)) : Step ⟨job :: rest⟩ (.ran job) ⟨rest⟩

inductive Steps : MainQueue α → List (Move α) → MainQueue α → Prop where
  | refl (q : MainQueue α) : Steps q [] q
  | head {q between final : MainQueue α} {move : Move α} {moves : List (Move α)}
      (step : Step q move between) (rest : Steps between moves final) : Steps q (move :: moves) final

theorem Steps.trans {moves more : List (Move α)} (h : Steps q moves next) (h' : Steps next more final) :
    Steps q (moves ++ more) final := by
  induction h with
  | refl => exact h'
  | head step _ ih => exact .head step (ih h')

theorem Steps.split {moves more : List (Move α)} (h : Steps q (moves ++ more) final) :
    ∃ between, Steps q moves between ∧ Steps between more final := by
  induction moves generalizing q with
  | nil => exact ⟨q, .refl q, h⟩
  | cons move moves ih =>
    obtain - | ⟨step, rest⟩ := h
    obtain ⟨between, hfirst, hmore⟩ := ih rest
    exact ⟨between, .head step hfirst, hmore⟩

/-- What waits before a move and what enters by it is what leaves by it and what waits after it. -/
theorem Step.order {move : Move α} (h : Step q move next) :
    q.jobs ++ queuedIn [move] = ranIn [move] ++ next.jobs := by
  cases h with
  | queued => rfl
  | ran job rest => exact List.append_nil (job :: rest)

/-- Jobs leave in the order in which they entered, each of them once. -/
theorem Steps.order {moves : List (Move α)} (h : Steps q moves final) :
    q.jobs ++ queuedIn moves = ranIn moves ++ final.jobs := by
  induction h with
  | refl q => exact List.append_nil q.jobs
  | @head q between final move moves step _ ih =>
    have hstep := step.order
    calc q.jobs ++ queuedIn ([move] ++ moves)
        = (ranIn [move] ++ between.jobs) ++ queuedIn moves := by
          rw [queuedIn_append, ← List.append_assoc, hstep]
      _ = ranIn ([move] ++ moves) ++ final.jobs := by
          rw [List.append_assoc, ih, ranIn_append, List.append_assoc]

/-- Jobs wait that have entered and not left. -/
theorem Steps.pending_eq {moves : List (Move α)} (h : Steps empty moves final) :
    final.pending = (queuedIn moves).length - (ranIn moves).length := by
  have horder := congrArg List.length h.order
  rw [List.length_append, List.length_append] at horder
  simp only [empty, pending, List.length_nil] at horder ⊢
  omega

/-! ## Calls of an application -/

/-- A call on the queue. -/
inductive Turn (α : Type) where
  | post (job : Job α)
  | runOne
  | runPending

/-- What a job does to the queue: it leaves, runs, and hands over its children one after the other. -/
def movesOf (j : Job α) : List (Move α) := .ran j :: j.children.map .queued

namespace Turn

/-- What is logged by a call, and the queue after it. -/
def outcome : Turn α → MainQueue α → List (JobEvent α) × MainQueue α
  | post j, q => ([], q.post j)
  | runOne, q => q.runOne.getD ([], q)
  | runPending, q => q.runPending.2

/-- The jobs that a call runs. -/
def runs : Turn α → MainQueue α → List (Job α)
  | post _, _ => []
  | runOne, q => q.jobs.take 1
  | runPending, q => breadthFirst q.jobs

/-- The jobs that a call hands over itself. -/
def posted : Turn α → List (Job α)
  | post j => [j]
  | runOne | runPending => []

/-- The moves of a call. -/
def moves (turn : Turn α) (q : MainQueue α) : List (Move α) :=
  turn.posted.map .queued ++ (turn.runs q).flatMap movesOf

end Turn

/-! ## The moves of a call -/

@[simp] theorem queuedIn_map_queued (jobs : List (Job α)) : queuedIn (jobs.map .queued) = jobs := by
  induction jobs with
  | nil => rfl
  | cons j rest ih => exact congrArg (j :: ·) ih

@[simp] theorem ranIn_map_queued (jobs : List (Job α)) : ranIn (jobs.map .queued) = [] := by
  induction jobs with
  | nil => rfl
  | cons j rest ih => exact ih

@[simp] theorem queuedIn_flatMap_movesOf (jobs : List (Job α)) :
    queuedIn (jobs.flatMap movesOf) = jobs.flatMap children := by
  induction jobs with
  | nil => rfl
  | cons j rest ih =>
    rw [List.flatMap_cons, List.flatMap_cons, queuedIn_append, ih]
    exact congrArg (· ++ rest.flatMap children) (queuedIn_map_queued j.children)

@[simp] theorem ranIn_flatMap_movesOf (jobs : List (Job α)) : ranIn (jobs.flatMap movesOf) = jobs := by
  induction jobs with
  | nil => rfl
  | cons j rest ih =>
    rw [List.flatMap_cons, ranIn_append, ih]
    exact congrArg (fun none => j :: none ++ rest) (ranIn_map_queued j.children)

theorem steps_queued (jobs : List (Job α)) (q : MainQueue α) :
    Steps q (jobs.map .queued) ⟨q.jobs ++ jobs⟩ := by
  induction jobs generalizing q with
  | nil =>
    rw [List.append_nil]
    exact .refl q
  | cons j rest ih =>
    have hrest := ih (q.post j)
    rw [post, List.append_assoc] at hrest
    exact .head (.queued q j) hrest

theorem steps_flatMap_movesOf (jobs later : List (Job α)) :
    Steps ⟨jobs ++ later⟩ (jobs.flatMap movesOf) ⟨later ++ jobs.flatMap children⟩ := by
  induction jobs generalizing later with
  | nil =>
    rw [List.nil_append, List.flatMap_nil, List.flatMap_nil, List.append_nil]
    exact .refl _
  | cons j rest ih =>
    have hfirst : Steps ⟨j :: (rest ++ later)⟩ (movesOf j) ⟨rest ++ later ++ j.children⟩ :=
      .head (.ran j _) (steps_queued j.children _)
    have hrest := ih (later ++ j.children)
    rw [← List.append_assoc] at hrest
    rw [List.flatMap_cons, List.flatMap_cons, ← List.append_assoc]
    exact hfirst.trans hrest

theorem steps_breadthFirst (jobs : List (Job α)) :
    Steps ⟨jobs⟩ ((breadthFirst jobs).flatMap movesOf) empty := by
  induction jobs using generation_induction with
  | nil => exact .refl _
  | step jobs _ ih =>
    have hfirst := steps_flatMap_movesOf jobs []
    rw [List.append_nil] at hfirst
    rw [breadthFirst_eq, List.flatMap_append]
    exact hfirst.trans ih

theorem Turn.steps (turn : Turn α) (q : MainQueue α) : Steps q (turn.moves q) (turn.outcome q).2 := by
  cases turn with
  | post j => exact steps_queued [j] q
  | runOne =>
    obtain ⟨jobs⟩ := q
    cases jobs with
    | nil => exact .refl _
    | cons j rest =>
      have hfirst := steps_flatMap_movesOf [j] rest
      rw [Turn.outcome, runOne_cons]
      simpa [Turn.moves, Turn.posted, Turn.runs] using hfirst
  | runPending =>
    rw [Turn.outcome, runPending_eq]
    exact steps_breadthFirst q.jobs

theorem Turn.ranIds_outcome (turn : Turn α) (q : MainQueue α) :
    ranIds (turn.outcome q).1 = (turn.runs q).map Job.id := by
  cases turn with
  | post j => rfl
  | runOne =>
    obtain ⟨jobs⟩ := q
    cases jobs with
    | nil => rfl
    | cons j rest =>
      rw [Turn.outcome, runOne_cons]
      exact ranIds_log j
  | runPending =>
    rw [Turn.outcome, runPending_eq]
    exact ranIds_flatMap_log _

theorem Turn.ranIn_moves (turn : Turn α) (q : MainQueue α) : ranIn (turn.moves q) = turn.runs q := by
  simp [Turn.moves]

theorem Turn.queuedIn_moves (turn : Turn α) (q : MainQueue α) :
    queuedIn (turn.moves q) = turn.posted ++ (turn.runs q).flatMap children := by
  simp [Turn.moves]

/-- A call neither loses a job nor runs one twice: what it runs, what waits after it and what this leads to
are what waited before it and what it handed over, with what they lead to. -/
theorem Turn.families_perm (turn : Turn α) (q : MainQueue α) :
    (turn.runs q ++ families (turn.outcome q).2.jobs).Perm (families (q.jobs ++ turn.posted)) := by
  cases turn with
  | post j => exact .refl _
  | runOne =>
    obtain ⟨jobs⟩ := q
    cases jobs with
    | nil => exact .refl _
    | cons j rest =>
      rw [Turn.outcome, runOne_cons]
      simp only [Option.getD_some, Turn.runs, Turn.posted, List.append_nil, families_append, families,
        family_eq, List.take_succ_cons, List.take_zero, List.cons_append, List.nil_append]
      exact List.perm_append_comm.cons j
  | runPending =>
    rw [Turn.outcome, runPending_eq]
    simpa [Turn.runs, Turn.posted, empty, families] using breadthFirst_perm_families q.jobs

/-! ## Sessions -/

/-- What is logged by calls one after the other, and the queue after them. -/
def session : List (Turn α) → MainQueue α → List (JobEvent α) × MainQueue α
  | [], q => ([], q)
  | turn :: turns, q =>
    let rest := session turns (turn.outcome q).2
    ((turn.outcome q).1 ++ rest.1, rest.2)

/-- The moves of the calls, one after the other. -/
def sessionMoves : List (Turn α) → MainQueue α → List (Move α)
  | [], _ => []
  | turn :: turns, q => turn.moves q ++ sessionMoves turns (turn.outcome q).2

theorem session_steps (turns : List (Turn α)) (q : MainQueue α) :
    Steps q (sessionMoves turns q) (session turns q).2 := by
  induction turns generalizing q with
  | nil => exact .refl q
  | cons turn turns ih => exact (turn.steps q).trans (ih _)

theorem ranIds_session (turns : List (Turn α)) (q : MainQueue α) :
    ranIds (session turns q).1 = (ranIn (sessionMoves turns q)).map Job.id := by
  induction turns generalizing q with
  | nil => rfl
  | cons turn turns ih =>
    rw [session, sessionMoves, ranIds_append, turn.ranIds_outcome, ih, ranIn_append, turn.ranIn_moves,
      List.map_append]

/-- Jobs enter by the calls, and as children of jobs that run. -/
theorem queuedIn_session_perm (turns : List (Turn α)) (q : MainQueue α) :
    (queuedIn (sessionMoves turns q)).Perm
      (turns.flatMap Turn.posted ++ (ranIn (sessionMoves turns q)).flatMap children) := by
  induction turns generalizing q with
  | nil => exact .refl _
  | cons turn turns ih =>
    have hrest := (ih (turn.outcome q).2).append_left (turn.posted ++ (turn.runs q).flatMap children)
    refine List.Perm.trans (List.Perm.of_eq ?_) (hrest.trans ?_)
    · rw [sessionMoves, queuedIn_append, turn.queuedIn_moves]
    · rw [List.flatMap_cons, sessionMoves, ranIn_append, turn.ranIn_moves, List.flatMap_append,
        List.append_assoc, List.append_assoc]
      exact (List.perm_append_comm_assoc ..).append_left turn.posted

/-- No job is lost or runs twice: what has run, what waits and what this leads to are what waited at the
beginning and what the calls handed over, with what they lead to. -/
theorem session_families_perm (turns : List (Turn α)) (q : MainQueue α) :
    (ranIn (sessionMoves turns q) ++ families (session turns q).2.jobs).Perm
      (families (q.jobs ++ turns.flatMap Turn.posted)) := by
  induction turns generalizing q with
  | nil => simp [sessionMoves, session, ranIn]
  | cons turn turns ih =>
    have hrest := (ih (turn.outcome q).2).append_left (turn.runs q)
    have hfirst := (turn.families_perm q).append_right (families (turns.flatMap Turn.posted))
    rw [families_append, ← List.append_assoc, ← List.append_assoc] at hrest
    rw [← families_append, List.append_assoc q.jobs] at hfirst
    rw [sessionMoves, session, ranIn_append, turn.ranIn_moves, List.flatMap_cons]
    exact hrest.trans hfirst

/-! ## Both contexts -/

/-- Draining ends, however far the jobs lead. It runs them and everything that they lead to once each,
generation by generation, says how many they are and leaves nothing. Whoever hands jobs over and whoever
runs them meanwhile, they leave the queue in the order in which they entered it; this covers all calls
one after the other, also while a call is under way. A context that runs jobs at once runs the same ones,
each before what it leads to and inside the one that hands it over. -/
theorem jobs_run_once :
    (∀ jobs : List (Job α),
        (MainQueue.mk jobs).runPending =
            ((families jobs).length, (breadthFirst jobs).flatMap Job.log, empty) ∧
          (breadthFirst jobs).Perm (families jobs)) ∧
      (∀ (q : MainQueue α) count log final,
        Drains q count log final ↔ q.runPending = (count, log, final)) ∧
      (∀ q : MainQueue α, q.runOne = none ↔ q.pending = 0) ∧
      (∀ moves (q : MainQueue α), Steps empty moves q →
        queuedIn moves = ranIn moves ++ q.jobs ∧
          q.pending = (queuedIn moves).length - (ranIn moves).length) ∧
      (∀ turns : List (Turn α),
        ranIds (session turns empty).1 = (ranIn (sessionMoves turns empty)).map Job.id ∧
          (queuedIn (sessionMoves turns empty)).Perm
            (turns.flatMap Turn.posted ++ (ranIn (sessionMoves turns empty)).flatMap children) ∧
          (ranIn (sessionMoves turns empty) ++ families (session turns empty).2.jobs).Perm
            (families (turns.flatMap Turn.posted)) ∧
          ∀ moves more, sessionMoves turns empty = moves ++ more →
            ∃ q, Steps empty moves q ∧ Steps q more (session turns empty).2) ∧
      (∀ jobs : List (Job α), ranIds (runAllNow jobs) = (families jobs).map Job.id ∧
        ∀ p ∈ families jobs, p.runNow <:+: runAllNow jobs ∧ ∀ c ∈ p.children, ∃ before after,
          p.runNow = .ran p.id :: (before ++ c.runNow ++ after) ++ [.handedOver p.id]) ∧
      ∀ jobs : List (Job α),
        (ranIds (MainQueue.mk jobs).runPending.2.1).Perm (ranIds (runAllNow jobs)) := by
  refine ⟨?_, fun _ _ _ _ => drains_iff, ?_, ?_, ?_, ?_, ?_⟩
  · intro jobs
    rw [runPending_eq, length_families]
    exact ⟨rfl, breadthFirst_perm_families jobs⟩
  · intro q
    rw [runOne_eq_none_iff, pending, List.length_eq_zero_iff]
  · intro moves q hsteps
    exact ⟨hsteps.order, hsteps.pending_eq⟩
  · intro turns
    refine ⟨ranIds_session turns empty, queuedIn_session_perm turns empty,
      session_families_perm turns empty, ?_⟩
    intro moves more hmoves
    apply Steps.split
    rw [← hmoves]
    exact session_steps turns empty
  · intro jobs
    refine ⟨ranIds_runAllNow jobs, fun p hp => ⟨runNow_within_runAllNow jobs hp, ?_⟩⟩
    intro c hc
    exact child_inside hc
  · intro jobs
    rw [runPending_eq, ranIds_flatMap_log, ranIds_runAllNow]
    exact (breadthFirst_perm_families jobs).map Job.id

/-- Two jobs; the first one leads to three more. -/
def twoTrees : List (Job Nat) := [.mk 0 [.mk 1 [.mk 3 []], .mk 2 []], .mk 4 []]

theorem twoTrees_run_once :
    ranIds (MainQueue.mk twoTrees).runPending.2.1 = [0, 4, 1, 2, 3] ∧
      ranIds (runAllNow twoTrees) = [0, 1, 3, 2, 4] ∧
      Drains ⟨twoTrees⟩ 5 (MainQueue.mk twoTrees).runPending.2.1 empty ∧
      (Steps empty [.queued (.mk 0 []), .queued (.mk 1 []), .ran (.mk 0 [])] ⟨[.mk 1 []]⟩ ∧
        (MainQueue.mk [Job.mk 1 []]).pending = 2 - 1) ∧
      (.mk 1 [.mk 3 []] ∈ families twoTrees ∧
        (Job.mk 1 [.mk 3 []]).runNow <:+: runAllNow twoTrees ∧
        .mk 3 [] ∈ (Job.mk 1 [.mk 3 []]).children ∧
        ∃ before after, (Job.mk 1 [.mk 3 []]).runNow =
          .ran 1 :: (before ++ (Job.mk 3 []).runNow ++ after) ++ [.handedOver 1]) ∧
      sessionMoves (twoTrees.map .post) empty = twoTrees.map .queued ++ [] ∧
      ∃ q, Steps empty (twoTrees.map .queued) q ∧ Steps q [] (session (twoTrees.map .post) empty).2 := by
  obtain ⟨hdrain, hloop, -, hmoves, hcalls, hnow, -⟩ := jobs_run_once (α := Nat)
  have hsteps : Steps (empty : MainQueue Nat)
      [.queued (.mk 0 []), .queued (.mk 1 []), .ran (.mk 0 [])] ⟨[.mk 1 []]⟩ :=
    .head (.queued _ _) (.head (.queued _ _) (.head (.ran _ _) (.refl _)))
  have hmember : Job.mk 1 [.mk 3 []] ∈ families twoTrees := by
    simp [twoTrees, families, family]
  have hchild : Job.mk 3 [] ∈ (Job.mk 1 [.mk 3 []]).children := List.mem_singleton.mpr rfl
  have hinside := (hnow twoTrees).2 _ hmember
  refine ⟨?_, ?_, (hloop _ _ _ _).mpr rfl, ⟨hsteps, (hmoves _ _ hsteps).2⟩,
    ⟨hmember, hinside.1, hchild, hinside.2 _ hchild⟩, rfl, (hcalls _).2.2.2 _ _ rfl⟩
  · rw [(hdrain twoTrees).1]
    decide
  · rw [(hnow twoTrees).1]
    decide

end MainQueue

end VideoCapture
