import VideoCapture.Proofs.Preview.Log

/-!
# The accord of the parties

Whatever turns are taken, the owner, the worker and the two queues between them stand in one of ten
ways while an acknowledgement may still come. Once the worker has died, only the owner's own call says where
it stands.

## Main definitions

* `bounds` — the commands that begin or end something.
* `OwnerPhase.Allows` — whether the owner may have a session where it stands.
* `Accord` — how the owner, the commands under way, the worker and the acknowledgements fit together.
-/

namespace VideoCapture.PreviewProtocol

/-- Neither begins nor ends a session. -/
def isAttach : LoopCommand → Bool
  | .attach _ => true
  | _ => false

/-- The commands that begin or end something. -/
def bounds (commands : List LoopCommand) : List LoopCommand := commands.filter fun c => !isAttach c

/-- The worker has given up its end of the queue of acknowledgements. -/
def WorkerStage.isLost : WorkerStage → Bool
  | mute => true
  | dead => true
  | _ => false

/-- Whether the owner has a session can be told from where it stands, except between two calls. -/
def OwnerPhase.Allows : OwnerPhase → Bool → Prop
  | ready, _ => True
  | cancelling _, running => running = true
  | awaiting _, running => running = true
  | returning _, running => running = true
  | _, running => running = false

/-- How the parties fit together: where the owner stands and whether it has a session, the commands under
way that begin or end something, where the worker stands, the acknowledgements under way, and the
sessions that are not acknowledged yet. -/
inductive Accord : OwnerPhase → Bool → List LoopCommand → WorkerStage → Nat → Nat → Prop
  | stopped {owner : OwnerPhase}
    (h : owner = .ready ∨ (∃ w h, owner = .starting w h) ∨ owner = .quitting) :
    Accord owner false [] .idle 0 0
  | startSent {owner : OwnerPhase} {w h : UInt32} (ho : owner = .ready ∨ ∃ last, owner = .cancelling last) :
    Accord owner true [.start w h] .idle 0 1
  | serving {owner : OwnerPhase} {worker : WorkerStage}
    (ho : owner = .ready ∨ ∃ last, owner = .cancelling last)
    (hw : worker.inSession = true ∨ worker = .dying) : Accord owner true [] worker 0 1
  | bothSent {last : Bool} {w h : UInt32} : Accord (.awaiting last) true [.start w h, .stop] .idle 0 1
  | stopSent {last : Bool} {worker : WorkerStage} (hw : worker.inSession = true ∨ worker = .dying) :
    Accord (.awaiting last) true [.stop] worker 0 1
  | stopHandled {last : Bool} : Accord (.awaiting last) true [] (.acknowledging false) 0 1
  | answered {last : Bool} : Accord (.awaiting last) true [] .idle 1 0
  | received {last : Bool} : Accord (.returning last) true [] .idle 0 0
  | quitSent : Accord .joining false [.quit] .idle 0 0
  | ended {owner : OwnerPhase} (h : owner = .joining ∨ owner = .gone) : Accord owner false [] .exited 0 0
  | lost {owner : OwnerPhase} {running : Bool} {commands : List LoopCommand} {worker : WorkerStage}
    {unanswered : Nat} (ho : owner.Allows running) (hw : worker.isLost = true) :
    Accord owner running commands worker 0 unanswered

@[simp] theorem bounds_concat (commands : List LoopCommand) (c : LoopCommand) :
    bounds (commands ++ [c]) = bounds commands ++ bounds [c] := by
  simp [bounds]

@[simp] theorem bounds_attach (source : String) (commands : List LoopCommand) :
    bounds (.attach source :: commands) = bounds commands := rfl

@[simp] theorem bounds_start (w h : UInt32) (commands : List LoopCommand) :
    bounds (.start w h :: commands) = .start w h :: bounds commands := rfl

@[simp] theorem bounds_stop (commands : List LoopCommand) :
    bounds (.stop :: commands) = .stop :: bounds commands := rfl

@[simp] theorem bounds_quit (commands : List LoopCommand) :
    bounds (.quit :: commands) = .quit :: bounds commands := rfl

@[simp] theorem bounds_nil : bounds [] = [] := rfl

attribute [simp] WorkerStage.inSession WorkerStage.hears WorkerStage.answers WorkerStage.isLost
  OwnerPhase.Allows

/-! ## Where a command leads the worker -/

section Commands

variable (inSession : Bool) (c : LoopCommand)

theorem stageAfter_start (w h : UInt32) :
    stageAfter inSession (.start w h) = .due ∨ stageAfter inSession (.start w h) = .dying := by
  simp only [stageAfter]
  split
  · exact .inl rfl
  · exact .inr rfl

theorem stageAfter_eq_dying_iff : stageAfter inSession c = .dying ↔
    inSession = false ∧ ∃ w h, c = .start w h ∧ roomLimit ≤ (⟨w, h⟩ : FrameSize).byteLength := by
  cases c with
  | start w h =>
    have hfits := (⟨w, h⟩ : FrameSize).fits_iff
    cases inSession <;> cases hroom : (⟨w, h⟩ : FrameSize).fits <;>
      simp_all [stageAfter, and_assoc]
  | _ => cases inSession <;> simp [stageAfter]

theorem isLost_stageAfter : (stageAfter inSession c).isLost = false := by
  cases c with
  | start w h => rcases stageAfter_start inSession w h with hnext | hnext <;> rw [hnext] <;> rfl
  | _ => cases inSession <;> rfl

/-- The log tells whether a command leads into a session. -/
theorem servingAfter_handled {σ : Type} :
    (Event.handled c : Event σ).servingAfter inSession = (stageAfter inSession c).inSession := by
  cases c with
  | start w h => cases inSession <;> cases hroom : (⟨w, h⟩ : FrameSize).fits <;> simp [stageAfter, hroom]
  | _ => cases inSession <;> rfl

end Commands

/-! ## What each access does to the accord -/

namespace Accord

variable {owner : OwnerPhase} {running last : Bool} {commands : List LoopCommand}
  {worker worker' : WorkerStage} {acks unanswered : Nat}

theorem running_of_inSession (h : Accord owner running commands worker acks unanswered)
    (hw : worker.inSession = true) : running = true := by
  cases h with
  | serving | bothSent | stopSent | stopHandled | answered | received => rfl
  | lost _ hlost => cases worker <;> simp at hw hlost
  | _ => simp at hw

/-- The worker goes on inside a session. -/
theorem move (h : Accord owner running commands worker acks unanswered)
    (hw : worker.inSession = true) (hw' : worker'.inSession = true) :
    Accord owner running commands worker' acks unanswered := by
  cases h with
  | serving ho => exact .serving ho (.inl hw')
  | stopSent => exact .stopSent (.inl hw')
  | lost _ hlost => cases worker <;> simp at hw hlost
  | _ => simp at hw

/-- Between two calls without a session. -/
theorem of_stopped (h : Accord .ready false commands worker acks unanswered) :
    Accord .quitting false commands worker acks unanswered ∧
      ∀ w h, Accord (.starting w h) false commands worker acks unanswered := by
  cases h with
  | stopped => exact ⟨.stopped (by simp), fun w h => .stopped (by simp)⟩
  | ended h => simp at h
  | lost _ hw => exact ⟨.lost rfl hw, fun w h => .lost rfl hw⟩

/-- A stop begins. -/
theorem cancel (h : Accord .ready true commands worker acks unanswered) (last : Bool) :
    (worker.isLost = false → unanswered = 1) ∧
      Accord (.cancelling last) true commands worker acks unanswered := by
  cases h with
  | startSent => exact ⟨fun _ => rfl, .startSent (by simp)⟩
  | serving _ hw => exact ⟨fun _ => rfl, .serving (by simp) hw⟩
  | lost _ hw => exact ⟨fun h => absurd (h.symm.trans hw) Bool.false_ne_true, .lost rfl hw⟩

theorem sendStart {w h : UInt32} (hs : Accord (.starting w h) running commands worker acks unanswered) :
    running = false ∧ Accord .ready false commands worker acks unanswered ∧
      Accord .ready true (commands ++ [.start w h]) worker acks (unanswered + 1) := by
  cases hs with
  | stopped => exact ⟨rfl, .stopped (by simp), .startSent (by simp)⟩
  | lost ho hw => exact ⟨ho, .lost trivial hw, .lost trivial hw⟩
  | startSent ho => simp at ho
  | serving ho => simp at ho
  | ended h => simp at h

theorem sendStop (h : Accord (.cancelling last) running commands worker acks unanswered) :
    Accord (.awaiting last) running (commands ++ [.stop]) worker acks unanswered := by
  cases h with
  | startSent => exact .bothSent
  | serving _ hw => exact .stopSent hw
  | lost ho hw => exact .lost ho hw
  | stopped h => simp at h
  | ended h => simp at h

/-- A stop that nobody hears does not wait. -/
theorem passStop (h : Accord (.cancelling last) running commands worker acks unanswered)
    (hw : worker.hears = false) :
    Accord (.returning last) running commands worker acks unanswered := by
  cases h with
  | lost ho hlost => exact .lost ho hlost
  | serving _ hsession => cases worker <;> simp at hw hsession
  | startSent => simp at hw
  | stopped h => simp at h
  | ended h => simp at h

/-- The owner receives the acknowledgement. -/
theorem hear (h : Accord (.awaiting last) running commands worker acks unanswered) (hacks : acks ≠ 0) :
    Accord (.returning last) running commands worker (acks - 1) unanswered := by
  cases h with
  | answered => exact .received
  | stopped h => simp at h
  | startSent ho => simp at ho
  | serving ho => simp at ho
  | ended h => simp at h
  | _ => exact absurd rfl hacks

/-- The owner finds that no acknowledgement will come. -/
theorem giveUp (h : Accord (.awaiting last) running commands worker acks unanswered)
    (hw : worker.answers = false) :
    Accord (.returning last) running commands worker acks unanswered := by
  cases h with
  | lost ho hlost => exact .lost ho hlost
  | stopSent hsession => cases worker <;> simp at hw hsession
  | stopped h => simp at h
  | startSent ho => simp at ho
  | serving ho => simp at ho
  | ended h => simp at h
  | _ => simp at hw

/-- A stop returns. -/
theorem release (h : Accord (.returning last) running commands worker acks unanswered) :
    (worker.isLost = false → unanswered = 0) ∧
      Accord (if last then .quitting else .ready) false commands worker acks unanswered := by
  cases h with
  | received => exact ⟨fun _ => rfl, .stopped (by cases last <;> simp)⟩
  | lost _ hw =>
    refine ⟨fun h => absurd (h.symm.trans hw) Bool.false_ne_true, .lost ?_ hw⟩
    cases last <;> simp
  | stopped h => simp at h
  | startSent ho => simp at ho
  | serving ho => simp at ho
  | ended h => simp at h

theorem sendQuit (h : Accord .quitting running commands worker acks unanswered) :
    Accord .joining running (commands ++ [.quit]) worker acks unanswered := by
  cases h with
  | stopped => exact .quitSent
  | lost ho hw => exact .lost ho hw
  | startSent ho => simp at ho
  | serving ho => simp at ho
  | ended h => simp at h

/-- Nobody hears that the worker may end. -/
theorem passQuit (h : Accord .quitting running commands worker acks unanswered)
    (hw : worker.hears = false) : Accord .joining running commands worker acks unanswered := by
  cases h with
  | lost ho hlost => exact .lost ho hlost
  | stopped => simp at hw
  | startSent ho => simp at ho
  | serving ho => simp at ho
  | ended h => simp at h

theorem join (h : Accord .joining running commands worker acks unanswered)
    (hw : worker.hears = false) : Accord .gone running commands worker acks unanswered := by
  cases h with
  | ended => exact .ended (by simp)
  | lost ho hlost => exact .lost ho hlost
  | quitSent => simp at hw
  | stopped h => simp at h
  | startSent ho => simp at ho
  | serving ho => simp at ho

/-- The worker takes a command, outside a session or between two pulls. -/
theorem receive {c : LoopCommand}
    (h : Accord owner running (bounds (c :: commands)) worker acks unanswered)
    (hw : worker = .idle ∨ worker = .pausing) :
    Accord owner running (bounds commands) (stageAfter worker.inSession c) acks unanswered := by
  cases c with
  | attach source =>
    rcases hw with rfl | rfl
    · exact h
    · exact h.move rfl rfl
  | start w' h' =>
    rw [bounds_start] at h
    generalize hcommands : bounds commands = rest at h
    have hnext : (stageAfter worker.inSession (.start w' h')).inSession = true ∨
        stageAfter worker.inSession (.start w' h') = .dying := by
      refine (stageAfter_start worker.inSession w' h').imp_left fun hdue => ?_
      rw [hdue]
      rfl
    cases h with
    | startSent ho => exact .serving ho hnext
    | bothSent => exact .stopSent hnext
    | lost _ hlost => rcases hw with rfl | rfl <;> simp at hlost
  | stop =>
    rw [bounds_stop] at h
    generalize hcommands : bounds commands = rest at h
    cases h with
    | stopSent => exact .stopHandled
    | lost _ hlost => rcases hw with rfl | rfl <;> simp at hlost
  | quit =>
    rw [bounds_quit] at h
    generalize hcommands : bounds commands = rest at h
    cases h with
    | quitSent => exact .ended (by simp)
    | lost _ hlost => rcases hw with rfl | rfl <;> simp at hlost

/-- A start is met outside a session only. -/
theorem not_start {w h : UInt32} (hw : worker.inSession = true) :
    ¬ Accord owner running (.start w h :: commands) worker acks unanswered := by
  intro h
  cases h with
  | lost _ hlost => cases worker <;> simp at hw hlost
  | _ => simp at hw

/-- A stop is never met outside a session. -/
theorem not_stop : ¬ Accord owner running (.stop :: commands) .idle acks unanswered := by
  intro h
  cases h with
  | stopSent hw => simp at hw
  | lost _ hlost => simp at hlost

/-- The worker never ends inside a session. -/
theorem not_quit (hw : worker.inSession = true) :
    ¬ Accord owner running (.quit :: commands) worker acks unanswered := by
  intro h
  cases h with
  | quitSent => simp at hw
  | lost _ hlost => cases worker <;> simp at hw hlost

theorem acknowledge (h : Accord owner running commands (.acknowledging last) acks unanswered) :
    last = false ∧ unanswered = 1 ∧ Accord owner running commands .idle 1 0 := by
  cases h with
  | stopHandled => exact ⟨rfl, rfl, .answered⟩
  | serving _ hw => simp at hw
  | stopSent hw => simp at hw
  | lost _ hlost => simp at hlost

/-- The worker dies. -/
theorem die (h : Accord owner running commands .dying acks unanswered) :
    unanswered = 1 ∧ Accord owner running commands .mute acks unanswered := by
  cases h with
  | serving ho => exact ⟨rfl, .lost (by rcases ho with rfl | ⟨last, rfl⟩ <;> simp) rfl⟩
  | stopSent => exact ⟨rfl, .lost rfl rfl⟩
  | lost _ hlost => simp at hlost

theorem leave (h : Accord owner running commands .mute acks unanswered) :
    Accord owner running commands .dead acks unanswered := by
  cases h with
  | lost ho => exact .lost ho rfl
  | serving _ hw => simp at hw
  | stopSent hw => simp at hw

end Accord

end VideoCapture.PreviewProtocol
