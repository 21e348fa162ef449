import Mathlib.Data.List.Perm.Basic
import Mathlib.Tactic.Common
import VideoCapture.Dispatch

/-!
# Jobs and what they lead to

A list of jobs and everything that these hand over can be gone through in two orders: each job before
what it leads to, or one generation after the other.

## Main definitions

* `Job.family`, `Job.families` — jobs and everything they lead to, each job before its children.
* `Job.generation` — the jobs that are handed over by the generation before.
* `Job.breadthFirst` — all generations.

The main statement is `Job.breadthFirst_perm_families`.
-/

namespace VideoCapture.Job

variable {α : Type}

mutual

/-- A job and everything it leads to. What a child leads to comes before the next child. -/
def family : Job α → List (Job α)
  | mk id children => mk id children :: families children

def families : List (Job α) → List (Job α)
  | [] => []
  | j :: rest => j.family ++ families rest

end

/-- What jobs hand over, what those hand over, and so on, `k` times. -/
def generation : Nat → List (Job α) → List (Job α)
  | 0, jobs => jobs
  | k + 1, jobs => generation k (jobs.flatMap children)

/-- The first `n` generations. -/
def generations (n : Nat) (jobs : List (Job α)) : List (Job α) :=
  (List.range n).flatMap fun k => generation k jobs

/-- All generations; there are not more of them than jobs. -/
def breadthFirst (jobs : List (Job α)) : List (Job α) := generations (sizeAll jobs) jobs

/-! ## Families -/

theorem family_eq (j : Job α) : j.family = j :: families j.children := by
  cases j
  rw [family, children]

@[simp] theorem families_append (jobs more : List (Job α)) :
    families (jobs ++ more) = families jobs ++ families more := by
  induction jobs with
  | nil => rfl
  | cons j rest ih => rw [List.cons_append, families, families, ih, List.append_assoc]

mutual

theorem length_family : ∀ j : Job α, j.family.length = j.size
  | mk _ children => by rw [family, size, List.length_cons, length_families children]

/-- The size of jobs is the number of them and of everything they lead to. -/
theorem length_families : ∀ jobs : List (Job α), (families jobs).length = sizeAll jobs
  | [] => rfl
  | j :: rest => by rw [families, sizeAll, List.length_append, length_family j, length_families rest]

end

@[simp] theorem sizeAll_append (jobs more : List (Job α)) :
    sizeAll (jobs ++ more) = sizeAll jobs + sizeAll more := by
  rw [← length_families, families_append, List.length_append, length_families, length_families]

/-- Jobs and everything that their children lead to are everything that they lead to. -/
theorem append_families_children_perm (jobs : List (Job α)) :
    (jobs ++ families (jobs.flatMap children)).Perm (families jobs) := by
  induction jobs with
  | nil => exact .refl _
  | cons j rest ih =>
    have hmiddle : (rest ++ (families j.children ++ families (rest.flatMap children))).Perm
        (families j.children ++ families rest) :=
      (List.perm_append_comm_assoc ..).trans (ih.append_left (families j.children))
    rw [List.flatMap_cons, families_append, families, family_eq]
    exact hmiddle.cons j

theorem sizeAll_eq (jobs : List (Job α)) :
    sizeAll jobs = jobs.length + sizeAll (jobs.flatMap children) := by
  have hlength := (append_families_children_perm jobs).length_eq
  rw [List.length_append, length_families, length_families] at hlength
  exact hlength.symm

theorem sizeAll_children_lt {jobs : List (Job α)} (h : jobs ≠ []) :
    sizeAll (jobs.flatMap children) < sizeAll jobs := by
  have hpositive := List.length_pos_iff.mpr h
  have hsize := sizeAll_eq jobs
  omega

/-! ## Generations -/

/-- What holds of jobs whenever it holds of their children holds of all jobs. -/
theorem generation_induction {motive : List (Job α) → Prop} (nil : motive [])
    (step : ∀ jobs, jobs ≠ [] → motive (jobs.flatMap children) → motive jobs) (jobs : List (Job α)) :
    motive jobs := by
  induction hsize : sizeAll jobs using Nat.strongRecOn generalizing jobs with
  | ind n ih =>
    by_cases hempty : jobs = []
    · rw [hempty]
      exact nil
    · have hsmaller := sizeAll_children_lt hempty
      exact step jobs hempty (ih _ (by omega) _ rfl)

/-- There are not more generations than jobs. -/
theorem generation_eq_nil {k : Nat} {jobs : List (Job α)} (h : sizeAll jobs ≤ k) :
    generation k jobs = [] := by
  induction k generalizing jobs with
  | zero =>
    have hsize := sizeAll_eq jobs
    have hlength : jobs.length = 0 := by omega
    exact List.eq_nil_of_length_eq_zero hlength
  | succ k ih =>
    apply ih
    by_cases hempty : jobs = []
    · simp [hempty, sizeAll]
    · have hsmaller := sizeAll_children_lt hempty
      omega

theorem generations_succ (n : Nat) (jobs : List (Job α)) :
    generations (n + 1) jobs = jobs ++ generations n (jobs.flatMap children) := by
  rw [generations, List.range_succ_eq_map, List.flatMap_cons, List.flatMap_map]
  rfl

/-- Further generations are empty. -/
theorem generations_of_le {n : Nat} {jobs : List (Job α)} (h : sizeAll jobs ≤ n) :
    generations n jobs = breadthFirst jobs := by
  induction h with
  | refl => rfl
  | step hle ih =>
    rw [generations, List.range_succ, List.flatMap_append, List.flatMap_singleton, generation_eq_nil hle,
      List.append_nil]
    exact ih

/-- The jobs come first, and then everything that their children lead to. -/
theorem breadthFirst_eq (jobs : List (Job α)) :
    breadthFirst jobs = jobs ++ breadthFirst (jobs.flatMap children) := by
  by_cases hempty : jobs = []
  · rw [hempty]
    rfl
  · have hsmaller := sizeAll_children_lt hempty
    obtain ⟨n, hn⟩ : ∃ n, sizeAll jobs = n + 1 := ⟨sizeAll jobs - 1, by omega⟩
    rw [breadthFirst, hn, generations_succ, generations_of_le (by omega)]

/-- In generations, each job is met as often as it is met before its children. -/
theorem breadthFirst_perm_families (jobs : List (Job α)) : (breadthFirst jobs).Perm (families jobs) := by
  induction jobs using generation_induction with
  | nil => exact .refl _
  | step jobs _ ih =>
    rw [breadthFirst_eq]
    exact (ih.append_left jobs).trans (append_families_children_perm jobs)

end VideoCapture.Job
