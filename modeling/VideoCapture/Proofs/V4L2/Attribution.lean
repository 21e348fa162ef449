import VideoCapture.Proofs.V4L2.Sessions
import VideoCapture.Scripted.Nodes

/-!
# Which device is named

The end of a session and a failure to read name a device, and so does its beginning. The beginning
names the device opened, and the other two the one that is selected by then: another one, if another
selection was accepted in between, although a selection is meant for the next opening.

## Main definitions

* `lastAccepted` — the device selected last.
* `OpenAs` — which device the calls so far opened last, and under which name it goes by now.
* `Attribution` — which devices an answer and its signals may name.

The main statement is `Capture.attributed`.
-/

namespace VideoCapture.V4L2

variable {entries : List Entry} {e : Entry} {opened named : Descriptor}

/-- The device selected last, if any selection was accepted. -/
def lastAccepted (entries : List Entry) : Option Descriptor :=
  ((entries.map Entry.exchange).filterMap Exchange.accepted?).getLast?.map Prod.fst

theorem lastAccepted_concat (entries : List Entry) (e : Entry) :
    lastAccepted (entries ++ [e]) =
      (e.exchange.accepted?.map Prod.fst).or (lastAccepted entries) := by
  cases h : e.exchange.accepted? <;> simp [lastAccepted, h]

/-- The latest session began with the opening of `opened` and has not ended, and its device goes by the
name of `named`: the one selected last since then, or `opened` itself if no selection was accepted. -/
def OpenAs (entries : List Entry) (opened named : Descriptor) : Prop :=
  ∃ before opening between told config, entries = before ++ opening :: between ∧
    opening.signals = told ++ [.opened opened config] ∧ (∀ x ∈ between, x.signals = []) ∧
    named = (lastAccepted between).getD opened

/-- A silent call keeps a session open; if it selects a device, the session goes by the name of that
one from then on. -/
theorem OpenAs.concat (h : OpenAs entries opened named) (hsilent : e.signals = []) :
    OpenAs (entries ++ [e]) opened ((e.exchange.accepted?.map Prod.fst).getD named) := by
  obtain ⟨before, opening, between, told, config, rfl, hopening, hbetween, rfl⟩ := h
  refine ⟨before, opening, between ++ [e], told, config, by simp, hopening, ?_, ?_⟩
  · intro x hx
    rcases List.mem_append.mp hx with hx | hx
    · exact hbetween x hx
    · rwa [List.mem_singleton.mp hx]
  · rw [lastAccepted_concat]
    cases e.exchange.accepted? <;> rfl

/-- Which devices the next call may name, in its answer and in the signals raised during it. -/
structure Attribution (entries : List Entry) (next : Entry) : Prop where
  /-- What is told to be opened is the device selected last. -/
  opened : ∀ device config, .opened device config ∈ next.signals → lastAccepted entries = some device
  /-- What is told to be closed was opened, or selected since. -/
  closed : ∀ device, .closed device ∈ next.signals → ∃ opened, OpenAs entries opened device
  /-- A failure to read names what would be told to be closed. -/
  failed : ∀ name text, next.exchange = .read (.error (.readFailure name text)) →
    ∃ opened device, OpenAs entries opened device ∧ name = device.display

namespace Capture

variable {H : Type}

/-- An open device goes by the name of the one selected. -/
def Attributed (entries : List Entry) (c : Capture H) : Prop :=
  c.session.isSome = true → ∃ sel opened, c.selected = some sel ∧ OpenAs entries opened sel.descriptor

variable [Hardware H] {c : Capture H}

/-- A call that neither opens nor closes selects what it accepts. -/
theorem selected_ask {r : Request} (h : r.turns = false) (c : Capture H) :
    (c.ask r).backend.selected.map Selection.descriptor =
      ((c.ask r).value.accepted?.map Prod.fst).or (c.selected.map Selection.descriptor) := by
  cases r with
  | select device channel format =>
    rcases select_cases device channel format c with ⟨path, h', heq⟩ | ⟨h', heq⟩ <;>
      simp [ask, heq, Reply.mapValue, Exchange.accepted?]
  | read => simp [ask, Reply.mapValue, (keeps_read c).selected, Exchange.accepted?]
  | adjust kind value =>
    simp [ask, Reply.mapValue, (keeps_adjust kind value c).selected, Exchange.accepted?]
  | devices => rfl
  | resolve subsystem name capabilities => rfl
  | openAt g => cases h
  | close => cases h
  | drop => cases h

/-- A call that neither opens nor closes may change the name that an open device goes by. -/
theorem Attributed.quiet (h : c.Attributed entries) {r : Request} (hr : r.turns = false) :
    (c.ask r).backend.Attributed (entries ++ [⟨(c.ask r).value, (c.ask r).signals⟩]) := by
  intro hsession
  obtain ⟨hsilent, hkept⟩ := quiet_ask hr c
  rw [hkept] at hsession
  obtain ⟨sel, opened, hsel, hopen⟩ := h hsession
  have hnow := selected_ask hr c
  rw [hsel, Option.map_some, Option.or_some, Option.map_eq_some_iff] at hnow
  obtain ⟨sel', hsel', hname⟩ := hnow
  refine ⟨sel', opened, hsel', ?_⟩
  rw [hname]
  exact hopen.concat hsilent

theorem attributed_close (c : Capture H) : c.close.backend.Attributed entries := by
  intro hsession
  simp [session_close] at hsession

/-- A device that has just been opened goes by its own name. -/
theorem attributed_openAt (g : Geometry) (c : Capture H) (x : Exchange) :
    (c.openAt g).backend.Attributed (entries ++ [⟨x, (c.openAt g).signals⟩]) := by
  cases hsel : c.selected with
  | none =>
    rw [openAt_of_unselected hsel]
    exact attributed_close c
  | some sel =>
    intro hsession
    obtain ⟨minor, -, ⟨settings, config, -, -, -, -, hkept, htold⟩ | ⟨e, -, hclosed, -⟩⟩ :=
      openAt_cases g hsel
    · exact ⟨sel, sel.descriptor, hkept.trans hsel, entries, _, [], _, config, rfl, htold, by simp,
        rfl⟩
    · simp [hclosed] at hsession

theorem Attributed.meet (h : c.Attributed entries) (o : Occasion H) :
    (c.meet o).2.Attributed (entries ++ (c.meet o).1) := by
  cases o with
  | changed change =>
    rw [Capture.meet, List.append_nil]
    exact h
  | asked r =>
    cases r with
    | openAt g => exact attributed_openAt g c _
    | close => exact attributed_close c
    | drop => exact attributed_close c
    | devices => exact h.quiet rfl
    | select device channel format => exact h.quiet rfl
    | read => exact h.quiet rfl
    | adjust kind value => exact h.quiet rfl
    | resolve subsystem name capabilities => exact h.quiet rfl

theorem attributed_after (hardware : H) (occasions : List (Occasion H)) :
    ((initial hardware).after occasions).Attributed ((initial hardware).history occasions) :=
  transcript_induction (motive := fun entries (c : Capture H) => c.Attributed entries)
    (by intro h; cases h) (fun _ _ o h => h.meet o) occasions

/-! ## The names -/

theorem Attributed.of_mem_close (h : c.Attributed entries) {device : Descriptor}
    (hdevice : .closed device ∈ c.close.signals) : ∃ opened, OpenAs entries opened device := by
  cases hs : c.session with
  | none => simp [signals_close_of_closed hs] at hdevice
  | some s =>
    obtain ⟨sel, opened, hsel, hopen⟩ := h (by rw [hs]; rfl)
    obtain rfl : device = sel.descriptor := by simpa [close, hs, hsel] using hdevice
    exact ⟨opened, hopen⟩

theorem not_opened_mem_close {device : Descriptor} {config : DeviceConfig} :
    .opened device config ∉ c.close.signals := by
  unfold close
  split <;> simp

/-- An answer other than a failure to read, given in silence, names nothing. -/
theorem attribution_of_silent (hsilent : e.signals = [])
    (hx : ∀ name text, e.exchange ≠ .read (.error (.readFailure name text))) :
    Attribution entries e where
  opened := by simp [hsilent]
  closed := by simp [hsilent]
  failed name text hfailed := absurd hfailed (hx name text)

theorem Attributed.close (h : c.Attributed entries) {x : Exchange}
    (hx : ∀ name text, x ≠ .read (.error (.readFailure name text))) :
    Attribution entries ⟨x, c.close.signals⟩ where
  opened _ _ hmem := absurd hmem not_opened_mem_close
  closed _ hmem := h.of_mem_close hmem
  failed name text hfailed := absurd hfailed (hx name text)

theorem Attributed.read (h : c.Attributed entries) :
    Attribution entries ⟨.read c.read.value, c.read.signals⟩ where
  opened := by simp [(keeps_read c).signals]
  closed := by simp [(keeps_read c).signals]
  failed name text hfailed := by
    rcases read_cases c with ⟨-, hread⟩ | ⟨s, dequeued, h', -, -, hread⟩ |
      ⟨s, reason, h', hs, -, hread⟩
    · simp [hread] at hfailed
    · simp [hread] at hfailed
    · obtain ⟨sel, opened, hsel, hopen⟩ := h (by rw [hs]; rfl)
      refine ⟨opened, sel.descriptor, hopen, ?_⟩
      simp only [hread, hsel, Option.map_some, Option.getD_some, Exchange.read.injEq,
        Except.error.injEq, CaptureError.readFailure.injEq] at hfailed
      exact hfailed.1.symm

/-- An opening tells of the end of the session before, complains, and tells of the device selected. -/
theorem signals_openAt_cases {g : Geometry} {signal : Signal} (h : signal ∈ (c.openAt g).signals) :
    signal ∈ c.close.signals ∨ (∃ device code, signal = .error device code) ∨
      ∃ sel config, c.selected = some sel ∧ signal = .opened sel.descriptor config := by
  cases hsel : c.selected with
  | none =>
    rw [openAt_of_unselected hsel] at h
    exact .inl h
  | some sel =>
    obtain ⟨minor, hminor, hlast⟩ := openAt_cases g hsel
    have hcomplaint (hmem : signal ∈ minor) : ∃ device code, signal = .error device code := by
      obtain ⟨code, -, rfl⟩ := hminor signal hmem
      exact ⟨_, _, rfl⟩
    obtain ⟨settings, config, -, -, -, -, -, htold⟩ | ⟨e, -, -, -, htold⟩ := hlast <;>
      rw [htold, List.mem_append, List.mem_append, List.mem_singleton] at h <;>
      rcases h with (hclose | hmem) | rfl
    · exact .inl hclose
    · exact .inr (.inl (hcomplaint hmem))
    · exact .inr (.inr ⟨sel, config, rfl, rfl⟩)
    · exact .inl hclose
    · exact .inr (.inl (hcomplaint hmem))
    · exact .inr (.inl ⟨_, _, rfl⟩)

theorem Attributed.openAt (h : c.Attributed entries) (hkept : c.Kept entries) (g : Geometry) :
    Attribution entries ⟨.openAt g (c.openAt g).value, (c.openAt g).signals⟩ where
  opened device config hmem := by
    rcases signals_openAt_cases hmem with hclose | ⟨_, code, herror⟩ | ⟨sel, config', hsel, hopened⟩
    · exact absurd hclose not_opened_mem_close
    · cases herror
    · cases hopened
      rw [lastAccepted, ← hkept.selected, hsel]
      rfl
  closed device hmem := by
    rcases signals_openAt_cases hmem with hclose | ⟨_, code, herror⟩ | ⟨sel, config', -, hopened⟩
    · exact h.of_mem_close hclose
    · cases herror
    · cases hopened
  failed := by simp

/-- Whatever is asked next, and whatever the nodes have done meanwhile: what is told to be opened is
the device selected last. What is told to be closed, or fails to be read, is a device that was opened
and has not been closed since, under the name of the one selected last since then. -/
theorem attributed (hardware : H) (occasions : List (Occasion H)) (r : Request) :
    let c := (initial hardware).after occasions
    Attribution ((initial hardware).history occasions) ⟨(c.ask r).value, (c.ask r).signals⟩ := by
  intro c
  have hkept := kept_after hardware occasions
  have h := attributed_after hardware occasions
  cases r with
  | openAt g => exact h.openAt hkept g
  | close => exact h.close (by simp [ask, Reply.mapValue])
  | drop => exact h.close (by simp [ask, Reply.mapValue])
  | read => exact h.read
  | devices => exact attribution_of_silent rfl (by simp [ask, Reply.mapValue])
  | select device channel format =>
    exact attribution_of_silent (quiet_ask rfl c).1 (by simp [ask, Reply.mapValue])
  | adjust kind value =>
    exact attribution_of_silent (quiet_ask rfl c).1 (by simp [ask, Reply.mapValue])
  | resolve subsystem name capabilities => exact attribution_of_silent rfl (by simp [ask])

/-- Another camera is selected while the first is open: the failure to read and the end of the session
name the camera that was never opened. -/
theorem closed_under_another_name :
    let cameras : Scripted.NodeTable :=
      ⟨[{ Scripted.Node.plain "/dev/video0" "C920" with
          formats := [⟨.planarCode, .planarCode, none⟩] }, .plain "/dev/video1" "Brio"], []⟩
    let first : Descriptor := ⟨"V4L2", "video4linux2", "C920"⟩
    let second : Descriptor := ⟨"V4L2", "video4linux2", "Brio"⟩
    let g : Geometry := ⟨2, 2, 30⟩
    let entries := (initial cameras).history
      [.asked (.select first 0 .auto), .asked (.openAt g), .asked (.select second 0 .auto),
        .asked .read, .asked .close]
    entries.flatMap Entry.signals =
        [.opened first ⟨g, .neutral, false⟩, .closed second] ∧
      entries[3]?.map Entry.exchange =
        some (.read (.error (.readFailure second.display "sim: no more frames"))) := by
  exact ⟨by decide +kernel, rfl⟩

end Capture

end VideoCapture.V4L2
