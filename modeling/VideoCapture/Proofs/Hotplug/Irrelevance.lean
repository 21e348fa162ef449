import VideoCapture.Controller.Hotplug
import VideoCapture.Hotplug.Monitor
import VideoCapture.Proofs.Hotplug.FanOut
import VideoCapture.Proofs.Moves

/-!
# Hot-plug traffic that controllers never see

A monitor hears of every device of the operating system, and a hub passes its events on to
controllers. Most of what the monitor hears has nothing to do with capture devices that come or go. A
controller cannot tell whether it happened at all.

## Main definitions

* `Installation` — a monitor, and the hub that passes its events on to controllers.
* `Happening` — what the operating system tells, or what is done with a controller.
* `Happening.Irrelevant` — a report that has nothing to do with a capture device coming or going.
* `Installation.course` — what happens, with the controllers after each happening.

The main statement is `Installation.irrelevant_reports_invisible`.
-/

namespace VideoCapture

namespace Hotplug

/-- A monitor, and the hub that passes its events on to controllers. -/
structure Installation (β ω : Type) where
  monitor : Monitor
  hub : Hub (Controller β ω)

/-- What can happen to an installation. -/
inductive Happening (β ω : Type) where
  /-- The operating system tells of a device. `listing` is what listing the audio devices yields at
  that moment. -/
  | told (action subsystem : String) (raw : RawDevice) (listing : Option (List String))
  /-- Something is done with the controller at a position. -/
  | moved (controller : Nat) (m : Move β ω)

namespace Happening

variable {β ω : Type}

/-- What is told is of the audio class or of a subsystem that is not watched, or neither of an
addition nor of a removal, or of a device that has no known capture interface or does not capture. -/
def Irrelevant : Happening β ω → Prop
  | told action subsystem raw _ =>
    classify subsystem = some .audio ∨ classify subsystem = none ∨
      (action ≠ "add" ∧ action ≠ "remove") ∨ levelOf raw.api = none ∨
      captureCapability ∉ raw.capabilities
  | moved .. => False

instance : DecidablePred (Irrelevant (β := β) (ω := ω))
  | told .. => inferInstanceAs (Decidable (_ ∨ _))
  | moved .. => inferInstanceAs (Decidable False)

end Happening

theorem Action.parse_eq_other_iff (name : String) :
    Action.parse name = .other ↔ name ≠ "add" ∧ name ≠ "remove" := by
  unfold parse
  grind

/-! ## What the monitor makes of a report -/

namespace Monitor

variable {action : Action} {subsystem : String} {raw : RawDevice} {listing : Option (List String)}
  {n : Notice}

theorem deviceClass_of_mem_audioNotices {removing : Bool} {cached fresh : List String}
    (h : n ∈ audioNotices removing subsystem cached fresh) : n.event.deviceClass = .audio := by
  simp only [audioNotices, List.mem_append, List.mem_map] at h
  rcases h with ⟨_, _, rfl⟩ | ⟨_, _, rfl⟩ <;> rfl

/-- A capture device that comes or goes is the only event, and the monitor stays as it is. -/
theorem handle_of_capture {level : Capabilities} (haction : action ≠ .other)
    (hclass : classify subsystem = some .video) (hlevel : levelOf raw.api = some level)
    (hcaptures : captureCapability ∈ raw.capabilities) (m : Monitor) :
    m.handle action subsystem raw listing =
      ([⟨action = .add, ⟨.video, subsystem, raw.name.getD raw.node, level⟩⟩], m) := by
  simp [handle, captureEvent?, haction, hclass, hlevel, hcaptures]

/-- Whatever else is told leads to events of the audio class at most. -/
theorem audio_of_mem_handle
    (h : action = .other ∨ classify subsystem ≠ some .video ∨ levelOf raw.api = none ∨
      captureCapability ∉ raw.capabilities)
    {m : Monitor} (hn : n ∈ (m.handle action subsystem raw listing).1) :
    n.event.deviceClass = .audio := by
  unfold handle at hn
  split at hn
  · cases hn
  · split at hn
    · cases hn
    · -- Of a capture device there is no event.
      have hnone : captureEvent? subsystem raw = none := by
        unfold captureEvent?
        grind
      simp [hnone] at hn
    · split at hn
      · cases hn
      · exact deviceClass_of_mem_audioNotices hn

end Monitor

end Hotplug

/-! ## What controllers make of an event -/

namespace Controller

variable {β ω : Type} [Backend β] [Observer β ω]

theorem hear_of_audio {n : Hotplug.Notice} (h : n.event.deviceClass = .audio)
    (c : Controller β ω) : c.hear n = c := by
  simp [hear, hotplugOperation?, h]

theorem hear_of_video (added : Bool) (framework name : String) (capabilities : Capabilities)
    (c : Controller β ω) :
    c.hear ⟨added, ⟨.video, framework, name, capabilities⟩⟩ =
      (c.perform (if added then .addDevice framework name capabilities
        else .removeDevice framework name capabilities)).2 := by
  cases added <;> rfl

end Controller

namespace Hotplug

variable {β ω : Type} [Backend β] [Observer β ω]

/-- Controllers register nobody, so an event only makes each of them hear it. -/
theorem Hub.announce_controllers (n : Notice) (h : Hub (Controller β ω)) :
    (h.announce n).2 = ⟨h.name, h.listeners.map fun c => c.hear n⟩ := by
  have hmeet := congrArg Prod.snd (h.meet_eq n)
  have hnobody : h.listeners.flatMap (newcomers n h.name) = [] :=
    List.flatMap_eq_nil_iff.mpr fun _ _ => rfl
  rw [hnobody, List.append_nil] at hmeet
  exact hmeet

/-- Events of the audio class pass controllers by. -/
theorem Hub.foldl_announce_of_audio {notices : List Notice}
    (h : ∀ n ∈ notices, n.event.deviceClass = .audio) (hub : Hub (Controller β ω)) :
    notices.foldl (fun hub n => (hub.announce n).2) hub = hub := by
  induction notices with
  | nil => rfl
  | cons n rest ih =>
    have hsame : (hub.announce n).2 = hub := by
      simp [announce_controllers, Controller.hear_of_audio (h n List.mem_cons_self)]
    rw [List.foldl_cons, hsame]
    exact ih fun n' hn' => h n' (List.mem_cons_of_mem n hn')

namespace Installation

/-- The installation after one happening. -/
def meet (x : Installation β ω) : Happening β ω → Installation β ω
  | .told action subsystem raw listing =>
    let (notices, monitor) := x.monitor.handle (Action.parse action) subsystem raw listing
    ⟨monitor, notices.foldl (fun hub n => (hub.announce n).2) x.hub⟩
  | .moved i m => { x with hub := { x.hub with listeners := x.hub.listeners.modify i (·.move m) } }

/-- The installation after some happenings. -/
def after (x : Installation β ω) (happenings : List (Happening β ω)) : Installation β ω :=
  happenings.foldl meet x

/-- What happens, with the controllers after each happening. -/
def course (x : Installation β ω) :
    List (Happening β ω) → List (Happening β ω × List (Controller β ω))
  | [] => []
  | e :: rest => (e, (x.meet e).hub.listeners) :: (x.meet e).course rest

variable {x y : Installation β ω}

/-- An irrelevant report changes nothing but the monitor. -/
theorem hub_meet_of_irrelevant {e : Happening β ω} (h : e.Irrelevant) :
    (x.meet e).hub = x.hub := by
  cases e with
  | told action subsystem raw listing =>
    refine Hub.foldl_announce_of_audio (fun n hn => Monitor.audio_of_mem_handle ?_ hn) x.hub
    rw [Action.parse_eq_other_iff]
    unfold Happening.Irrelevant at h
    grind
  | moved => exact h.elim

/-- Any other report asks one operation of every controller. -/
theorem hub_meet_of_relevant {action subsystem : String} {raw : RawDevice}
    {listing : Option (List String)}
    (h : ¬ (Happening.told action subsystem raw listing : Happening β ω).Irrelevant) :
    ∃ level, levelOf raw.api = some level ∧ ∀ x : Installation β ω,
      (x.meet (.told action subsystem raw listing)).hub =
        ⟨x.hub.name, x.hub.listeners.map fun c =>
          (c.perform (if action = "add" then .addDevice subsystem (raw.name.getD raw.node) level
            else .removeDevice subsystem (raw.name.getD raw.node) level)).2⟩ := by
  simp only [Happening.Irrelevant, not_or, Decidable.not_not] at h
  obtain ⟨haudio, hwatched, haction, hlevel, hcaptures⟩ := h
  have hclass : classify subsystem = some .video := by
    cases hc : classify subsystem with
    | none => exact absurd hc hwatched
    | some deviceClass => cases deviceClass <;> simp_all
  obtain ⟨level, hlevel⟩ := Option.ne_none_iff_exists'.mp hlevel
  refine ⟨level, hlevel, fun x => ?_⟩
  have hother : Action.parse action ≠ .other := by rwa [Ne, Action.parse_eq_other_iff]
  have hadd : Action.parse action = .add ↔ action = "add" := by
    unfold Action.parse
    grind
  simp only [meet, Monitor.handle_of_capture hother hclass hlevel hcaptures, List.foldl_cons,
    List.foldl_nil, Hub.announce_controllers, Controller.hear_of_video, hadd, decide_eq_true_eq]

/-- What a happening makes of the hub does not depend on the monitor, unless it is irrelevant. -/
theorem hub_meet_congr (h : x.hub = y.hub) {e : Happening β ω} (he : ¬ e.Irrelevant) :
    (x.meet e).hub = (y.meet e).hub := by
  cases e with
  | told action subsystem raw listing =>
    obtain ⟨level, -, hmeet⟩ := hub_meet_of_relevant he
    rw [hmeet x, hmeet y, h]
  | moved i m => simp only [meet, h]

/-- With the same controllers, the irrelevant reports can be left out of what happens. -/
theorem course_filter_of_hub_eq (h : x.hub = y.hub) (happenings : List (Happening β ω)) :
    let kept := happenings.filter fun e => ¬ e.Irrelevant
    (x.course happenings).filter (fun p => ¬ p.1.Irrelevant) = y.course kept ∧
      (x.after happenings).hub = (y.after kept).hub := by
  induction happenings generalizing x y with
  | nil => exact ⟨rfl, h⟩
  | cons e rest ih =>
    by_cases he : e.Irrelevant
    · have hrest := ih ((hub_meet_of_irrelevant he).trans h)
      simpa [course, after, he] using hrest
    · have hnow := hub_meet_congr h he
      have hrest := ih hnow
      simpa [course, after, he, hnow] using hrest

/-- The reports that have nothing to do with a capture device coming or going can be left out of all
that happens: after each happening that remains, the controllers are what they are when all of it
happens, with the calls of their backends and with the notifications of their observers. Each report
that remains makes every controller add or remove the device that is told of. -/
theorem irrelevant_reports_invisible (x : Installation β ω) (happenings : List (Happening β ω)) :
    let kept := happenings.filter fun e => ¬ e.Irrelevant
    (x.course happenings).filter (fun p => ¬ p.1.Irrelevant) = x.course kept ∧
      (x.after happenings).hub = (x.after kept).hub ∧
      ∀ action subsystem raw listing, .told action subsystem raw listing ∈ kept →
        ∃ level, levelOf raw.api = some level ∧ ∀ y : Installation β ω,
          (y.meet (.told action subsystem raw listing)).hub.listeners =
            y.hub.listeners.map fun c =>
              (c.perform (if action = "add" then .addDevice subsystem (raw.name.getD raw.node) level
                else .removeDevice subsystem (raw.name.getD raw.node) level)).2 := by
  intro kept
  obtain ⟨hcourse, hafter⟩ := course_filter_of_hub_eq (rfl : x.hub = x.hub) happenings
  refine ⟨hcourse, hafter, fun action subsystem raw listing hkept => ?_⟩
  have hrelevant := of_decide_eq_true (List.mem_filter.mp hkept).2
  obtain ⟨level, hlevel, hmeet⟩ := hub_meet_of_relevant hrelevant
  exact ⟨level, hlevel, fun y => by rw [hmeet y]⟩

end Installation

end Hotplug

end VideoCapture
