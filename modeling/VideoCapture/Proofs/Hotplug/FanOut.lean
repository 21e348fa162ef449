import VideoCapture.Hotplug.Hub
import VideoCapture.Proofs.Transcript
import Mathlib.Tactic.Common

/-!
# Who hears which events

A hub calls its listeners one after the other, and each of them may register further ones meanwhile.
Those are called for later events only: while an event is under way, the hub goes through the
listeners that were registered when it began.

## Main definitions

* `Hearing` — a listener is called with an event.
* `Hearing.received` — the events that one listener is called with.
* `Hub.meet` — the calls that one event leads to, and the hub after it.
* `Hub.after`, `Hub.hearings` — the hub after some events, and all calls that they lead to.

The main statement is `Hub.later_events_heard`.
-/

namespace VideoCapture.Hotplug

/-- The listener at a position is called with an event and the name of the hub, and registers further
listeners. -/
structure Hearing (L : Type) where
  listener : Nat
  notice : Notice
  origin : String
  registered : List L

namespace Hearing

variable {L : Type}

/-- The events that the listener at position `i` is called with, each with the name that comes with
it. -/
def received (i : Nat) (calls : List (Hearing L)) : List (Notice × String) :=
  calls.filterMap fun c => if c.listener = i then some (c.notice, c.origin) else none

@[simp] theorem received_nil (i : Nat) : received i ([] : List (Hearing L)) = [] := rfl

@[simp] theorem received_append (i : Nat) (calls more : List (Hearing L)) :
    received i (calls ++ more) = received i calls ++ received i more :=
  List.filterMap_append

end Hearing

namespace Hub

variable {L : Type} [Listener L] {h : Hub L} {notice : Notice} {i : Nat}

/-- A listener after it has heard an event. -/
def heard (notice : Notice) (origin : String) (l : L) : L := (Listener.hear notice origin l).1

/-- The listeners that a listener registers while it hears an event. -/
def newcomers (notice : Notice) (origin : String) (l : L) : List L :=
  (Listener.hear notice origin l).2

/-! ## One event -/

/-- The listener at position `i` is called, if there is one. -/
def call (notice : Notice) (h : Hub L) (i : Nat) : List (Hearing L) × Hub L :=
  ((h.listeners[i]?.map fun l => ⟨i, notice, h.name, newcomers notice h.name l⟩).toList,
    h.tell notice i)

/-- The calls that an event leads to, and the hub after it. -/
def meet (h : Hub L) (notice : Notice) : List (Hearing L) × Hub L :=
  (transcript (call notice) h (List.range h.count), (h.announce notice).2)

/-- Called with an event, a listener changes in its place, and the newcomers are put behind everyone.
-/
theorem call_between (notice : Notice) (name : String) (before : List L) (l : L) (after : List L) :
    call notice ⟨name, before ++ l :: after⟩ before.length =
      ([⟨before.length, notice, name, newcomers notice name l⟩],
        ⟨name, before ++ heard notice name l :: (after ++ newcomers notice name l)⟩) := by
  simp [call, tell, heard, newcomers]

/-- The listeners that wait to be called are called in order, and whoever is registered meanwhile
comes to stand behind those who were registered before. -/
theorem call_waiting (notice : Notice) (name : String) (called waiting new : List L) :
    let first : Hub L := ⟨name, called ++ (waiting ++ new)⟩
    let positions := List.range' called.length waiting.length
    transcript (call notice) first positions =
        (waiting.zipIdx called.length).map
          (fun p => ⟨p.2, notice, name, newcomers notice name p.1⟩) ∧
      stateAfter (call notice) first positions =
        ⟨name, called ++ waiting.map (heard notice name) ++
          (new ++ waiting.flatMap (newcomers notice name))⟩ := by
  induction waiting generalizing called new with
  | nil => simp
  | cons l rest ih =>
    have hrest := ih (called ++ [heard notice name l]) (new ++ newcomers notice name l)
    have hcall := call_between notice name called l (rest ++ new)
    simp only [List.length_append, List.length_singleton, List.append_assoc,
      List.singleton_append] at hrest
    rw [List.append_assoc] at hcall
    simp [List.range'_succ, hcall, hrest]

theorem meet_eq (h : Hub L) (notice : Notice) :
    h.meet notice =
      (h.listeners.zipIdx.map fun p => ⟨p.2, notice, h.name, newcomers notice h.name p.1⟩,
        ⟨h.name, h.listeners.map (heard notice h.name) ++
          h.listeners.flatMap (newcomers notice h.name)⟩) := by
  obtain ⟨hcalls, hlast⟩ := call_waiting notice h.name [] h.listeners []
  rw [List.append_nil, List.length_nil, ← List.range_eq_range'] at hcalls hlast
  exact Prod.ext hcalls hlast

/-- Everyone registered before the event is called once, in the order of registration. -/
theorem calls_meet (h : Hub L) (notice : Notice) :
    (h.meet notice).1.map (fun c => (c.listener, c.notice, c.origin)) =
      (List.range h.count).map fun i => (i, notice, h.name) := by
  rw [meet_eq, List.map_map, count, List.range_eq_range', ← List.zipIdx_map_snd 0 h.listeners,
    List.map_map]
  rfl

theorem received_meet (h : Hub L) (notice : Notice) (i : Nat) :
    Hearing.received i (h.meet notice).1 = if i < h.count then [(notice, h.name)] else [] := by
  have hcalled (n : Nat) : ((List.range n).map fun i => (i, notice, h.name)).filterMap
      (fun c => if c.1 = i then some c.2 else none) = if i < n then [(notice, h.name)] else [] := by
    induction n with
    | zero => rfl
    | succ n ih =>
      rw [List.range_succ, List.map_append, List.filterMap_append, ih]
      grind
  rw [← hcalled, ← calls_meet, List.filterMap_map]
  rfl

/-- A listener hears an event in its place. -/
theorem listener_meet {l : L} (hl : h.listeners[i]? = some l) (notice : Notice) :
    (h.meet notice).2.listeners[i]? = some (heard notice h.name l) := by
  have hi : i < h.listeners.length := (List.getElem?_eq_some_iff.mp hl).1
  rw [meet_eq]
  show (h.listeners.map (heard notice h.name) ++ _)[i]? = _
  rw [List.getElem?_append_left (by simpa using hi), List.getElem?_map, hl]
  rfl

@[simp] theorem name_meet (h : Hub L) (notice : Notice) : (h.meet notice).2.name = h.name := by
  rw [meet_eq]

/-- Whoever is registered during an event stands behind those who hear it. -/
theorem newcomers_meet (h : Hub L) (notice : Notice) :
    (h.meet notice).2.listeners.drop h.count = (h.meet notice).1.flatMap Hearing.registered := by
  have hnew : h.listeners.flatMap (newcomers notice h.name) =
      h.listeners.zipIdx.flatMap fun p => newcomers notice h.name p.1 := by
    conv_lhs => rw [← List.zipIdx_map_fst 0 h.listeners, List.flatMap_map]
  rw [meet_eq, List.flatMap_map, ← hnew]
  exact List.drop_left' (by simp [count])

theorem count_meet (h : Hub L) (notice : Notice) :
    (h.meet notice).2.count =
      h.count + ((h.meet notice).1.flatMap Hearing.registered).length := by
  have hgrown : h.count ≤ (h.meet notice).2.count := by
    rw [meet_eq]
    simp [count]
  rw [← newcomers_meet, List.length_drop]
  exact (Nat.add_sub_of_le hgrown).symm

/-! ## All events -/

/-- The hub after some events. -/
def after : Hub L → List Notice → Hub L := stateAfter meet

/-- The calls that some events lead to, in order. -/
def hearings : Hub L → List Notice → List (Hearing L) := transcript meet

theorem name_after (h : Hub L) (events : List Notice) : (h.after events).name = h.name := by
  induction events generalizing h with
  | nil => rfl
  | cons n rest ih => exact (ih (h.meet n).2).trans (name_meet h n)

theorem count_after (h : Hub L) (events : List Notice) :
    (h.after events).count =
      h.count + ((h.hearings events).flatMap Hearing.registered).length := by
  induction events generalizing h with
  | nil => rfl
  | cons n rest ih =>
    show ((h.meet n).2.after rest).count =
      h.count + (((h.meet n).1 ++ (h.meet n).2.hearings rest).flatMap Hearing.registered).length
    rw [ih, count_meet, List.flatMap_append, List.length_append, Nat.add_assoc]

/-- A listener changes as the events make it change. -/
theorem listener_after {l : L} (hl : h.listeners[i]? = some l) (events : List Notice) :
    (h.after events).listeners[i]? = some (events.foldl (fun l n => heard n h.name l) l) := by
  induction events generalizing h l with
  | nil => exact hl
  | cons n rest ih =>
    have hrest := ih (listener_meet hl n)
    rw [name_meet] at hrest
    exact hrest

/-- A listener that is registered is called with every event. -/
theorem received_of_registered (hi : i < h.count) (events : List Notice) :
    Hearing.received i (h.hearings events) = events.map fun n => (n, h.name) := by
  induction events generalizing h with
  | nil => rfl
  | cons n rest ih =>
    have hlater : i < (h.meet n).2.count := by
      rw [count_meet]
      omega
    show Hearing.received i ((h.meet n).1 ++ (h.meet n).2.hearings rest) = _
    rw [Hearing.received_append, received_meet, if_pos hi, ih hlater, name_meet]
    rfl

/-- A listener misses the events that began before it was registered, and is called with all others.
-/
theorem exists_missed (h : Hub L) (events : List Notice) (i : Nat) :
    ∃ missed, (∀ k ≤ events.length, i < (h.after (events.take k)).count ↔ missed ≤ k) ∧
      Hearing.received i (h.hearings events) =
        (events.drop missed).map fun n => (n, h.name) := by
  induction events generalizing h with
  | nil =>
    by_cases hi : i < h.count
    · exact ⟨0, by simpa [after] using hi, rfl⟩
    · exact ⟨1, by simpa [after] using hi, rfl⟩
  | cons n rest ih =>
    by_cases hi : i < h.count
    · refine ⟨0, fun k _ => ?_, received_of_registered hi (n :: rest)⟩
      rw [count_after]
      omega
    obtain ⟨missed, hregistered, hreceived⟩ := ih (h.meet n).2
    refine ⟨missed + 1, fun k hk => ?_, ?_⟩
    · cases k with
      | zero => simpa [after] using hi
      | succ k =>
        show i < ((h.meet n).2.after (rest.take k)).count ↔ _
        rw [hregistered k (Nat.le_of_succ_le_succ hk), Nat.add_le_add_iff_right]
    · show Hearing.received i ((h.meet n).1 ++ (h.meet n).2.hearings rest) = _
      rw [Hearing.received_append, received_meet, if_neg hi, hreceived, name_meet]
      rfl

/-- An event is passed on, with the name of the hub, to everyone registered before it begins, in the
order of registration; whoever is registered meanwhile comes to stand behind them and is not called
with it. Each listener is called with the events that begin after its registration, once each and in
order, and is changed by these alone. The listeners become more by those who are registered. -/
theorem later_events_heard (h : Hub L) (events : List Notice) :
    let calls := h.hearings events
    let last := h.after events
    (∀ before n rest, events = before ++ n :: rest →
        ∃ during, calls = h.hearings before ++ during ++ (h.after (before ++ [n])).hearings rest ∧
          during.map (fun c => (c.listener, c.notice, c.origin)) =
            (List.range (h.after before).count).map (fun i => (i, n, h.name)) ∧
          (h.after (before ++ [n])).listeners.drop (h.after before).count =
            during.flatMap Hearing.registered) ∧
      (∀ i, ∃ missed, (∀ k ≤ events.length, i < (h.after (events.take k)).count ↔ missed ≤ k) ∧
        Hearing.received i calls = (events.drop missed).map fun n => (n, h.name)) ∧
      (∀ (i : Nat) (l : L) before rest, events = before ++ rest →
        (h.after before).listeners[i]? = some l →
          last.listeners[i]? = some (rest.foldl (fun l n => heard n h.name l) l)) ∧
      last.count = h.count + (calls.flatMap Hearing.registered).length := by
  intro calls last
  refine ⟨?_, h.exists_missed events, ?_, h.count_after events⟩
  · rintro before n rest rfl
    have hconcat : h.after (before ++ [n]) = ((h.after before).meet n).2 :=
      stateAfter_concat before n
    refine ⟨((h.after before).meet n).1, ?_, ?_, ?_⟩
    · rw [hconcat, List.append_assoc]
      exact transcript_append before (n :: rest)
    · rw [calls_meet, name_after]
    · rw [hconcat, newcomers_meet]
  · rintro i l before rest rfl hl
    have hlast : last = (h.after before).after rest := stateAfter_append before rest
    rw [hlast, listener_after hl, name_after]

end Hub

end VideoCapture.Hotplug
