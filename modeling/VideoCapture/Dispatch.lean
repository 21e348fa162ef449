/-!
# Main-context jobs

Work that has to run on the application's main context. A job that runs may hand further jobs to the
same context. The context either runs a job at once, inside the one that hands it over, or keeps it
in a queue until the application drains it.

## Main definitions

* `Job` — a job with the jobs it hands over.
* `Job.runNow` — running a job and everything it hands over at once.
* `MainQueue` — jobs waiting in the order in which they were posted.
* `MainQueue.runOne`, `MainQueue.runPending` — draining the queue.
-/

namespace VideoCapture

/-- A job, named by a value of `α`, and the jobs it hands over when it runs. -/
inductive Job (α : Type) where
  | mk (id : α) (children : List (Job α))
  deriving Inhabited

inductive JobEvent (α : Type) where
  | ran (id : α)
  /-- All jobs that `id` hands over have been handed over. -/
  | handedOver (id : α)
  deriving DecidableEq

namespace Job

variable {α : Type}

def id : Job α → α
  | mk id _ => id

def children : Job α → List (Job α)
  | mk _ children => children

mutual

/-- The number of jobs in a job: itself and everything it leads to. -/
def size : Job α → Nat
  | mk _ children => sizeAll children + 1

def sizeAll : List (Job α) → Nat
  | [] => 0
  | j :: rest => j.size + sizeAll rest

end

/-- The mark after the last child, for a job that has any. -/
def closing (id : α) (children : List (Job α)) : List (JobEvent α) :=
  if children.isEmpty then [] else [.handedOver id]

mutual

/-- Runs a job at once, and each job it hands over at the moment of handing over. -/
def runNow : Job α → List (JobEvent α)
  | mk id children => .ran id :: runAllNow children ++ closing id children

def runAllNow : List (Job α) → List (JobEvent α)
  | [] => []
  | j :: rest => j.runNow ++ runAllNow rest

end

end Job

/-- Jobs waiting in the order in which they were posted. -/
structure MainQueue (α : Type) where
  jobs : List (Job α)

namespace MainQueue

variable {α : Type}

def empty : MainQueue α := ⟨[]⟩

/-- Puts a job behind the others. -/
def post (j : Job α) (q : MainQueue α) : MainQueue α := ⟨q.jobs ++ [j]⟩

def pending (q : MainQueue α) : Nat := q.jobs.length

/-- Runs the first waiting job, if there is one; what it hands over goes behind the others. -/
def runOne (q : MainQueue α) : Option (List (JobEvent α) × MainQueue α) :=
  match q.jobs with
  | [] => none
  | .mk id children :: rest => some (.ran id :: Job.closing id children, ⟨rest ++ children⟩)

/-- Runs at most `limit` jobs; also says how many ran. -/
def runUpTo : Nat → MainQueue α → Nat × List (JobEvent α) × MainQueue α
  | 0, q => (0, [], q)
  | limit + 1, q =>
    match q.runOne with
    | none => (0, [], q)
    | some (events, next) =>
      let (count, more, final) := runUpTo limit next
      (count + 1, events ++ more, final)

/-- Runs every waiting job and every job these lead to. -/
def runPending (q : MainQueue α) : Nat × List (JobEvent α) × MainQueue α :=
  q.runUpTo (Job.sizeAll q.jobs)

end MainQueue

end VideoCapture
