import VideoCapture.V4L2.Capture
import VideoCapture.Proofs.Transcript
import Mathlib.Tactic.Common

/-!
# Sessions of the Video4Linux2 backend

Nodes appear and vanish, and the driver may refuse every single step of an opening. What is open and
what an observer is told stays in step all the same: a device is open from a successful opening to
the next call that opens or closes, each opening is told of once, and so is its end.

## Main definitions

* `Request`, `Exchange` — a call to the backend, and a call with its answer.
* `Capture.ask` — one call, `Capture.history` — all calls with what was told during each.
* `Alternate` — openings and closings are told of in turn.
* `Capture.Conduct` — what each call comes to.

The main statement is `Capture.session_law`.
-/

namespace VideoCapture

/-- The same outcome with another value in it. -/
def Reply.mapValue {β α γ : Type} (f : α → γ) (r : Reply β α) : Reply β γ :=
  ⟨f r.value, r.signals, r.backend⟩

namespace V4L2

/-! ## Calls and what is told -/

/-- A call to the backend. Nothing is asked of one that has been dropped. -/
inductive Request where
  | devices
  | select (device : Descriptor) (channel : UInt32) (format : VideoFormat)
  | openAt (g : Geometry)
  | close
  | read
  | adjust (kind : Adjustment) (value : UInt32)
  | resolve (subsystem name : String) (capabilities : Capabilities)
  | drop

/-- The call is one to open or to close. -/
def Request.turns : Request → Bool
  | openAt _ | close | drop => true
  | _ => false

/-- A call with its answer. -/
inductive Exchange where
  | devices (found : Except CaptureError (List Descriptor))
  | select (device : Descriptor) (channel : UInt32) (format : VideoFormat) (accepted : Bool)
  | openAt (g : Geometry) (outcome : Except CaptureError AdjustmentSet)
  | close
  | read (outcome : Except CaptureError Frame)
  | adjust (kind : Adjustment) (value : UInt32) (outcome : Except CaptureError Unit)
  | resolve (device : Option Descriptor)
  | drop

namespace Exchange

/-- The call was one to open or to close. -/
def turns : Exchange → Bool
  | openAt .. | close | drop => true
  | _ => false

/-- A device was opened. -/
def opens : Exchange → Bool
  | openAt _ (.ok _) => true
  | _ => false

/-- The device that was selected, with its channel and format. -/
def accepted? : Exchange → Option (Descriptor × UInt32 × VideoFormat)
  | select device channel format true => some (device, channel, format)
  | _ => none

end Exchange

/-- A call with its answer, and the signals raised during it. -/
structure Entry where
  exchange : Exchange
  signals : List Signal

/-- Openings and closings alternate in a list of signals, beginning with an opening. The flag tells
whether the last of them is an opening. -/
inductive Alternate : List Signal → Bool → Prop
  | nil : Alternate [] false
  | opened {told : List Signal} {device : Descriptor} {config : DeviceConfig}
    (h : Alternate told false) : Alternate (told ++ [.opened device config]) true
  | closed {told : List Signal} {device : Descriptor} (h : Alternate told true) :
    Alternate (told ++ [.closed device]) false
  | error {told : List Signal} {device : Descriptor} {code : DeviceErrorCode} {held : Bool}
    (h : Alternate told held) : Alternate (told ++ [.error device code]) held

/-- The signal is a complaint about `device`, which can be used in spite of it. -/
def Minor (device : Descriptor) (s : Signal) : Prop :=
  ∃ code, code ≠ .device ∧ s = .error device code

theorem Alternate.append_minor {told complaints : List Signal} {device : Descriptor} {held : Bool}
    (h : Alternate told held) (hminor : ∀ s ∈ complaints, Minor device s) :
    Alternate (told ++ complaints) held := by
  induction complaints generalizing told with
  | nil => rwa [List.append_nil]
  | cons s rest ih =>
    obtain ⟨code, -, rfl⟩ := hminor s List.mem_cons_self
    rw [List.append_cons]
    exact ih h.error fun s' hs' => hminor s' (List.mem_cons_of_mem _ hs')

theorem minor_of_mem_complaints {sel : Selection} {g : Geometry} {configured : Configured}
    {s : Signal} (h : s ∈ complaints sel g configured) : Minor sel.descriptor s := by
  simp only [complaints, List.mem_append, List.mem_ite_nil_right, List.mem_singleton] at h
  rcases h with ((⟨-, rfl⟩ | ⟨-, rfl⟩) | ⟨-, rfl⟩) | ⟨-, rfl⟩ <;> exact ⟨_, by decide, rfl⟩

def Selection.choice (sel : Selection) : Descriptor × UInt32 × VideoFormat :=
  (sel.descriptor, sel.channel, sel.format)

namespace Capture

variable {H α : Type}

/-- Nothing was told during the call, and the choice and the session are what they were. -/
structure Keeps (c : Capture H) (r : Reply (Capture H) α) : Prop where
  signals : r.signals = []
  selected : r.backend.selected = c.selected
  session : r.backend.session = c.session

variable [Hardware H] {c : Capture H}

/-! ## What each call comes to -/

/-- What each call comes to. -/
structure Conduct (c : Capture H) : Prop where
  devices : Keeps c c.devices
  /-- A selection is for the next opening. -/
  select : ∀ device channel format, (c.select device channel format).signals = [] ∧
    (c.select device channel format).backend.session = c.session
  accepted : ∀ device channel format, (c.select device channel format).value = true →
    (c.select device channel format).backend.selected.map Selection.choice =
      some (device, channel, format)
  /-- A refusal keeps the earlier choice. -/
  refused : ∀ device channel format, (c.select device channel format).value = false →
    Keeps c (c.select device channel format)
  read : Keeps c c.read
  /-- Reading fails for want of an open device exactly if none is open. -/
  readNotOpen : c.read.value = .error .notOpen ↔ c.session = none
  adjust : ∀ kind value, Keeps c (c.adjust kind value)
  adjustNotOpen : ∀ kind value, (c.adjust kind value).value = .error .notOpen ↔ c.session = none
  close : c.close.backend.session = none ∧ c.close.backend.selected = c.selected
  /-- The end of a session is told of once. -/
  closeTold : c.session.isSome = true → ∃ device, c.close.signals = [.closed device]
  closeSilent : c.session = none → c.close.signals = []
  /-- An opening ends the session before and is told of last. -/
  opened : ∀ g settings, (c.openAt g).value = .ok settings →
    (c.openAt g).backend.session.isSome = true ∧ (c.openAt g).backend.selected = c.selected ∧
      ∃ sel config minor, c.selected = some sel ∧ config.geometry = g ∧
        config.settings = settings ∧ (∀ s ∈ minor, Minor sel.descriptor s) ∧
        (c.openAt g).signals = c.close.signals ++ minor ++ [.opened sel.descriptor config]
  /-- An opening that fails ends the session before and leaves nothing open. -/
  failed : ∀ g e, (c.openAt g).value = .error e →
    (c.openAt g).backend.session = none ∧ (c.openAt g).backend.selected = c.selected
  failedUnselected : ∀ g, c.selected = none →
    (c.openAt g).value = .error .notOpen ∧ (c.openAt g).signals = []
  /-- With a device selected, the failure is complained about once and last. -/
  failedTold : ∀ g e sel, (c.openAt g).value = .error e → c.selected = some sel →
    ∃ minor, (∀ s ∈ minor, Minor sel.descriptor s) ∧
      (c.openAt g).signals = c.close.signals ++ minor ++ [.error sel.descriptor .device]

theorem session_close (c : Capture H) : c.close.backend.session = none := by
  unfold close
  split
  · assumption
  · rfl

theorem selected_close (c : Capture H) : c.close.backend.selected = c.selected := by
  unfold close
  split <;> rfl

theorem signals_close_of_closed (h : c.session = none) : c.close.signals = [] := by
  rw [close, h]

theorem exists_signals_close (hsession : c.session.isSome = true)
    (hselected : c.selected.isSome = true) : ∃ device, c.close.signals = [.closed device] := by
  obtain ⟨s, hs⟩ := Option.isSome_iff_exists.mp hsession
  obtain ⟨sel, hsel⟩ := Option.isSome_iff_exists.mp hselected
  exact ⟨sel.descriptor, by simp [close, hs, hsel]⟩

theorem keeps_read (c : Capture H) : Keeps c c.read := by
  rcases read_cases c with ⟨-, hread⟩ | ⟨s, dequeued, h, -, -, hread⟩ | ⟨s, text, h, -, -, hread⟩ <;>
    rw [hread] <;> exact ⟨rfl, rfl, rfl⟩

theorem read_notOpen_iff : c.read.value = .error .notOpen ↔ c.session = none := by
  rcases read_cases c with ⟨hs, hread⟩ | ⟨s, dequeued, h, hs, -, hread⟩ |
    ⟨s, text, h, hs, -, hread⟩ <;> simp [hread, hs]

theorem keeps_adjust (kind : Adjustment) (value : UInt32) (c : Capture H) :
    Keeps c (c.adjust kind value) := by
  unfold adjust
  split <;> exact ⟨rfl, rfl, rfl⟩

theorem write_ne_notOpen (node : Nat) (kind : Adjustment) (value : UInt32)
    (controls : PictureControls) (h : H) :
    (controls.write node kind value h).1 ≠ .error .notOpen := by
  unfold PictureControls.write
  split
  · simp
  · split <;> simp

theorem adjust_notOpen_iff (kind : Adjustment) (value : UInt32) :
    (c.adjust kind value).value = .error .notOpen ↔ c.session = none := by
  unfold adjust
  split
  · simp_all
  · rename_i s hs
    simp [hs, write_ne_notOpen]

/-- Streaming from a configured device begins with an opening that is told of, or ends in a
complaint. -/
theorem stream_cases (sel : Selection) (g : Geometry) (configured : Configured) (c : Capture H) :
    (∃ settings config session h, config.geometry = g ∧ config.settings = settings ∧
      stream sel g configured c = ⟨.ok settings, [.opened sel.descriptor config],
        { c with hardware := h, session := some session, scratch := #[] }⟩) ∨
    ∃ e h, stream sel g configured c =
      ⟨.error e, [.error sel.descriptor .device], { c with hardware := h }⟩ := by
  unfold stream
  split
  · exact .inr ⟨_, _, rfl⟩
  · refine .inl ⟨_, _, _, _, ?_, ?_, rfl⟩ <;> rfl

/-- Opening the selected device succeeds and is told of last, or fails and is complained about last. -/
theorem openSelected_cases (sel : Selection) (g : Geometry) (c : Capture H) :
    ∃ minor, (∀ s ∈ minor, Minor sel.descriptor s) ∧
      ((∃ settings config session h, config.geometry = g ∧ config.settings = settings ∧
        c.openSelected sel g = ⟨.ok settings, minor ++ [.opened sel.descriptor config],
          { c with hardware := h, session := some session, scratch := #[] }⟩) ∨
      ∃ e h, c.openSelected sel g =
        ⟨.error e, minor ++ [.error sel.descriptor .device], { c with hardware := h }⟩) := by
  unfold openSelected
  split
  · exact ⟨[], by simp, .inr ⟨_, _, rfl⟩⟩
  · rename_i configured h _
    refine ⟨complaints sel g configured, fun s => minor_of_mem_complaints, ?_⟩
    rcases stream_cases sel g configured { c with hardware := h } with
      ⟨settings, config, session, h', hg, hsettings, heq⟩ | ⟨e, h', heq⟩
    · exact .inl ⟨settings, config, session, h', hg, hsettings, by rw [heq]⟩
    · exact .inr ⟨e, h', by rw [heq]⟩

theorem openAt_of_unselected {g : Geometry} (h : c.selected = none) :
    c.openAt g = ⟨.error .notOpen, c.close.signals, c.close.backend⟩ := by
  simp [openAt, selected_close, h]

/-- Opening with a device selected: the session before is ended first. -/
theorem openAt_cases {sel : Selection} (g : Geometry) (h : c.selected = some sel) :
    ∃ minor, (∀ s ∈ minor, Minor sel.descriptor s) ∧
      ((∃ settings config, config.geometry = g ∧ config.settings = settings ∧
        (c.openAt g).value = .ok settings ∧ (c.openAt g).backend.session.isSome = true ∧
        (c.openAt g).backend.selected = c.selected ∧
        (c.openAt g).signals = c.close.signals ++ minor ++ [.opened sel.descriptor config]) ∨
      ∃ e, (c.openAt g).value = .error e ∧ (c.openAt g).backend.session = none ∧
        (c.openAt g).backend.selected = c.selected ∧
        (c.openAt g).signals = c.close.signals ++ minor ++ [.error sel.descriptor .device]) := by
  have hsel : c.close.backend.selected = some sel := (selected_close c).trans h
  have hopen : c.openAt g =
      { c.close.backend.openSelected sel g with
        signals := c.close.signals ++ (c.close.backend.openSelected sel g).signals } := by
    rw [openAt, hsel]
  obtain ⟨minor, hminor, ⟨settings, config, session, hw, hg, hsettings, heq⟩ | ⟨e, hw, heq⟩⟩ :=
    openSelected_cases sel g c.close.backend
  · refine ⟨minor, hminor, .inl ⟨settings, config, hg, hsettings, ?_⟩⟩
    simp [hopen, heq, selected_close]
  · refine ⟨minor, hminor, .inr ⟨e, ?_⟩⟩
    simp [hopen, heq, selected_close, session_close]

/-- Selecting a device is silent and leaves the session alone, and it takes effect if it is
accepted. -/
theorem select_cases (device : Descriptor) (channel : UInt32) (format : VideoFormat)
    (c : Capture H) :
    (∃ path h, c.select device channel format =
      ⟨true, [], { c with hardware := h, selected := some ⟨device, path, channel, format⟩ }⟩) ∨
    ∃ h, c.select device channel format = ⟨false, [], { c with hardware := h }⟩ := by
  unfold select
  split
  · exact .inr ⟨c.hardware, rfl⟩
  · dsimp only
    split
    · exact .inl ⟨_, _, rfl⟩
    · exact .inr ⟨_, rfl⟩

/-- The backend conducts itself so as long as no device is open that was not selected. -/
theorem conduct (h : c.session.isSome = true → c.selected.isSome = true) : c.Conduct where
  devices := ⟨rfl, rfl, rfl⟩
  select device channel format := by
    rcases select_cases device channel format c with ⟨path, hw, heq⟩ | ⟨hw, heq⟩ <;> simp [heq]
  accepted device channel format haccepted := by
    rcases select_cases device channel format c with ⟨path, hw, heq⟩ | ⟨hw, heq⟩
    · simp [heq, Selection.choice]
    · simp [heq] at haccepted
  refused device channel format hrefused := by
    rcases select_cases device channel format c with ⟨path, hw, heq⟩ | ⟨hw, heq⟩
    · simp [heq] at hrefused
    · rw [heq]
      exact ⟨rfl, rfl, rfl⟩
  read := keeps_read c
  readNotOpen := read_notOpen_iff
  adjust kind value := keeps_adjust kind value c
  adjustNotOpen := adjust_notOpen_iff
  close := ⟨session_close c, selected_close c⟩
  closeTold hsession := exists_signals_close hsession (h hsession)
  closeSilent := signals_close_of_closed
  opened g settings hopened := by
    cases hsel : c.selected with
    | none => simp [openAt_of_unselected hsel] at hopened
    | some sel =>
      obtain ⟨minor, hminor, ⟨settings', config, hg, hsettings, hvalue, hrest⟩ | ⟨e, hvalue, -⟩⟩ :=
        openAt_cases g hsel
      · obtain rfl : settings = settings' := by simpa [hopened] using hvalue
        exact ⟨hrest.1, hrest.2.1.trans hsel, sel, config, minor, rfl, hg, hsettings, hminor,
          hrest.2.2⟩
      · simp [hopened] at hvalue
  failed g e hfailed := by
    cases hsel : c.selected with
    | none =>
      rw [openAt_of_unselected hsel]
      exact ⟨session_close c, (selected_close c).trans hsel⟩
    | some sel =>
      obtain ⟨minor, hminor, ⟨settings, config, -, -, hvalue, -⟩ | ⟨e', -, hsession, hkept, -⟩⟩ :=
        openAt_cases g hsel
      · simp [hfailed] at hvalue
      · exact ⟨hsession, hkept.trans hsel⟩
  failedUnselected g hsel := by
    have hclosed : c.session = none := by
      cases hsession : c.session with
      | none => rfl
      | some s => simp [hsession, hsel] at h
    rw [openAt_of_unselected hsel]
    exact ⟨rfl, signals_close_of_closed hclosed⟩
  failedTold g e sel hfailed hsel := by
    obtain ⟨minor, hminor, ⟨settings, config, -, -, hvalue, -⟩ | ⟨e', -, -, -, htold⟩⟩ :=
      openAt_cases g hsel
    · simp [hfailed] at hvalue
    · exact ⟨minor, hminor, htold⟩

/-! ## All calls -/

/-- One call. -/
def ask (r : Request) (c : Capture H) : Reply (Capture H) Exchange :=
  match r with
  | .devices => c.devices.mapValue .devices
  | .select device channel format =>
    (c.select device channel format).mapValue (.select device channel format)
  | .openAt g => (c.openAt g).mapValue (.openAt g)
  | .close => c.close.mapValue fun _ => .close
  | .read => c.read.mapValue .read
  | .adjust kind value => (c.adjust kind value).mapValue (.adjust kind value)
  | .resolve subsystem name capabilities => ⟨.resolve (resolve subsystem name capabilities), [], c⟩
  | .drop => c.close.mapValue fun _ => .drop

/-- A call that neither opens nor closes is silent and keeps the session. -/
theorem quiet_ask {r : Request} (h : r.turns = false) (c : Capture H) :
    (c.ask r).signals = [] ∧ (c.ask r).backend.session = c.session := by
  cases r with
  | select device channel format =>
    rcases select_cases device channel format c with ⟨path, h', heq⟩ | ⟨h', heq⟩ <;>
      simp [ask, heq, Reply.mapValue]
  | read => exact ⟨(keeps_read c).signals, (keeps_read c).session⟩
  | adjust kind value => exact ⟨(keeps_adjust kind value c).signals, (keeps_adjust kind value c).session⟩
  | devices => exact ⟨rfl, rfl⟩
  | resolve subsystem name capabilities => exact ⟨rfl, rfl⟩
  | openAt g => cases h
  | close => cases h
  | drop => cases h

/-- A call, or a change of the nodes on their own. -/
inductive Occasion (H : Type) where
  | asked (r : Request)
  | changed (change : H → H)

/-- The backend meets one occasion. -/
def meet (c : Capture H) : Occasion H → List Entry × Capture H
  | .asked r => ([⟨(c.ask r).value, (c.ask r).signals⟩], (c.ask r).backend)
  | .changed change => ([], { c with hardware := change c.hardware })

/-- The backend after some occasions. -/
def after : Capture H → List (Occasion H) → Capture H := stateAfter meet

/-- The calls on some occasions. -/
def history : Capture H → List (Occasion H) → List Entry := transcript meet

/-- What the calls so far tell about the backend. -/
structure Kept (c : Capture H) (entries : List Entry) : Prop where
  /-- The latest call to open or to close was a successful opening exactly if a device is open. -/
  opened : c.session.isSome =
    ((entries.map Entry.exchange).filter Exchange.turns).getLast?.any Exchange.opens
  /-- The device selected is the one accepted last. -/
  selected : c.selected.map Selection.choice =
    ((entries.map Entry.exchange).filterMap Exchange.accepted?).getLast?
  /-- Openings and closings have been told of in turn, and an opening last exactly if a device is
  open. -/
  told : Alternate (entries.flatMap Entry.signals) c.session.isSome
  /-- Only a selected device is open. -/
  chosen : c.session.isSome = true → c.selected.isSome = true

namespace Kept

variable {entries : List Entry}

omit [Hardware H] in
/-- A call that neither selects, opens nor closes changes nothing. -/
theorem keep (h : c.Kept entries) {x : Exchange} {r : Reply (Capture H) Exchange}
    (hkeeps : Keeps c r) (hturns : x.turns = false) (haccepted : x.accepted? = none) :
    r.backend.Kept (entries ++ [⟨x, r.signals⟩]) where
  opened := by simp [hkeeps.session, h.opened, hturns]
  selected := by simp [hkeeps.selected, h.selected, haccepted]
  told := by simpa [hkeeps.session, hkeeps.signals] using h.told
  chosen := by simpa [hkeeps.session, hkeeps.selected] using h.chosen

/-- Closing ends what was told to be open. -/
theorem alternate_close (h : c.Kept entries) :
    Alternate (entries.flatMap Entry.signals ++ c.close.signals) false := by
  have htold := h.told
  cases hsession : c.session with
  | none =>
    rw [hsession] at htold
    rw [signals_close_of_closed hsession, List.append_nil]
    exact htold
  | some s =>
    have hheld : c.session.isSome = true := by rw [hsession]; rfl
    obtain ⟨device, hclose⟩ := exists_signals_close hheld (h.chosen hheld)
    rw [hheld] at htold
    rw [hclose]
    exact htold.closed

theorem close (h : c.Kept entries) {x : Exchange} (hturns : x.turns = true) (hopens : x.opens = false)
    (haccepted : x.accepted? = none) : c.close.backend.Kept (entries ++ [⟨x, c.close.signals⟩]) where
  opened := by simp [session_close, hturns, hopens]
  selected := by simp [selected_close, h.selected, haccepted]
  told := by simpa [session_close] using h.alternate_close
  chosen := by simp [session_close]

theorem select (h : c.Kept entries) (device : Descriptor) (channel : UInt32)
    (format : VideoFormat) :
    (c.ask (.select device channel format)).backend.Kept
      (entries ++ [⟨(c.ask (.select device channel format)).value,
        (c.ask (.select device channel format)).signals⟩]) := by
  rcases select_cases device channel format c with ⟨path, hw, heq⟩ | ⟨hw, heq⟩
  · rw [ask, heq]
    exact ⟨by simp [Reply.mapValue, h.opened, Exchange.turns],
      by simp [Reply.mapValue, Exchange.accepted?, Selection.choice],
      by simpa [Reply.mapValue] using h.told, fun _ => rfl⟩
  · rw [ask, heq]
    exact h.keep (r := ⟨.select device channel format false, [], { c with hardware := hw }⟩)
      ⟨rfl, rfl, rfl⟩ rfl rfl

theorem openAt (h : c.Kept entries) (g : Geometry) :
    (c.ask (.openAt g)).backend.Kept
      (entries ++ [⟨(c.ask (.openAt g)).value, (c.ask (.openAt g)).signals⟩]) := by
  have hclosed := h.alternate_close
  cases hsel : c.selected with
  | none =>
    rw [ask, openAt_of_unselected hsel]
    exact h.close (x := .openAt g (.error .notOpen)) rfl rfl rfl
  | some sel =>
    obtain ⟨minor, hminor, ⟨settings, config, -, -, hvalue, hsession, hkept, htold⟩ |
      ⟨e, hvalue, hsession, hkept, htold⟩⟩ := openAt_cases g hsel
    · refine ⟨?_, ?_, ?_, ?_⟩
      · simp [ask, Reply.mapValue, hvalue, hsession, Exchange.turns, Exchange.opens]
      · simp [ask, Reply.mapValue, hkept, h.selected, Exchange.accepted?]
      · simpa [ask, Reply.mapValue, hsession, htold] using (hclosed.append_minor hminor).opened
      · simp [ask, Reply.mapValue, hkept, hsel]
    · refine ⟨?_, ?_, ?_, ?_⟩
      · simp [ask, Reply.mapValue, hvalue, hsession, Exchange.turns, Exchange.opens]
      · simp [ask, Reply.mapValue, hkept, h.selected, Exchange.accepted?]
      · simpa [ask, Reply.mapValue, hsession, htold] using (hclosed.append_minor hminor).error
      · simp [ask, Reply.mapValue, hsession]

/-- Whatever is asked next, and whatever the nodes do, the calls tell about the backend. -/
theorem meet (h : c.Kept entries) (o : Occasion H) :
    (c.meet o).2.Kept (entries ++ (c.meet o).1) := by
  cases o with
  | changed change =>
    rw [Capture.meet, List.append_nil]
    exact ⟨h.opened, h.selected, h.told, h.chosen⟩
  | asked r =>
    cases r with
    | select device channel format => exact h.select device channel format
    | openAt g => exact h.openAt g
    | close => exact h.close rfl rfl rfl
    | drop => exact h.close rfl rfl rfl
    | devices => exact h.keep (r := c.ask .devices) ⟨rfl, rfl, rfl⟩ rfl rfl
    | read =>
      obtain ⟨hsignals, hselected, hsession⟩ := keeps_read c
      exact h.keep (r := c.ask .read) ⟨hsignals, hselected, hsession⟩ rfl rfl
    | adjust kind value =>
      obtain ⟨hsignals, hselected, hsession⟩ := keeps_adjust kind value c
      exact h.keep (r := c.ask (.adjust kind value)) ⟨hsignals, hselected, hsession⟩ rfl rfl
    | resolve subsystem name capabilities =>
      exact h.keep (r := c.ask (.resolve subsystem name capabilities)) ⟨rfl, rfl, rfl⟩ rfl rfl

end Kept

omit [Hardware H] in
theorem kept_initial (hardware : H) : (initial hardware).Kept [] :=
  ⟨rfl, rfl, .nil, by simp [initial]⟩

theorem kept_after (hardware : H) (occasions : List (Occasion H)) :
    ((initial hardware).after occasions).Kept ((initial hardware).history occasions) :=
  transcript_induction (motive := fun entries (c : Capture H) => c.Kept entries)
    (kept_initial hardware) (fun _ _ o h => h.meet o) occasions

/-- After any calls, whatever the nodes have done meanwhile: a device is open exactly if the latest
call to open or to close was a successful opening, the device selected is the one accepted last, and
openings and closings have been told of in turn. Whatever is called next comes to what it should. -/
theorem session_law (hardware : H) (occasions : List (Occasion H)) :
    let c := (initial hardware).after occasions
    c.Kept ((initial hardware).history occasions) ∧ c.Conduct := by
  intro c
  have hkept : c.Kept ((initial hardware).history occasions) := kept_after hardware occasions
  exact ⟨hkept, conduct hkept.chosen⟩

end Capture

end V4L2

end VideoCapture
