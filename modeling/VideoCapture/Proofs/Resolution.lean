import VideoCapture.Proofs.Settled

/-!
# How a device is chosen and opened

Backends are offered a device in the order of their registration, up to the first that accepts it.
That one is opened. If nobody accepts, or it does not open, the synthetic device is chosen and opened
instead; nobody else is tried.

## Main definitions

* `Trace.Resolves` — the calls by which a device is chosen and opened, and what is open afterwards.
* `Answers` — which selections backends accept, and at which geometries they open.
* `Answers.Fit` — calls that were answered in this way.

The main statements are `CaptureState.resolves_swap`, by which every move to another device makes such
calls, and `Trace.Resolves.eq_outcome`, by which the answers decide what is open afterwards.
-/

namespace VideoCapture

namespace Trace

/-- The synthetic device is chosen and opened. -/
def fallingBack (channel : UInt32) (format : VideoFormat) (g : Geometry) : Trace :=
  [(0, .setDevice Descriptor.fallback channel format true),
    (0, .openAt g (some AdjustmentSet.neutral))]

/-- The calls by which a device is chosen among `count` backends and opened at `g`, with the position
of the backend that is open afterwards and the device that it serves. -/
inductive Resolves (device : Descriptor) (channel : UInt32) (format : VideoFormat) (g : Geometry)
    (count : Nat) : Trace → Nat → Descriptor → Prop
  /-- The first backend that accepts the device opens it. -/
  | opened {i : Nat} (settings : AdjustmentSet) (registered : i < count) :
    Resolves device channel format g count
      (refusals device channel format 0 i ++
        [(i, .setDevice device channel format true), (i, .openAt g (some settings))]) i device
  /-- The first backend that accepts the device does not open it. -/
  | unopened {i : Nat} (registered : i < count) :
    Resolves device channel format g count
      (refusals device channel format 0 i ++
        [(i, .setDevice device channel format true), (i, .openAt g none)] ++
        fallingBack channel format g) 0 Descriptor.fallback
  /-- No backend accepts the device. -/
  | refused :
    Resolves device channel format g count
      (refusals device channel format 0 count ++ fallingBack channel format g) 0
      Descriptor.fallback

variable {device chosen : Descriptor} {channel : UInt32} {format : VideoFormat} {g : Geometry}
  {count i : Nat} {calls : Trace}

/-- The last call opens the backend. -/
theorem Resolves.exists_opening (h : Resolves device channel format g count calls i chosen) :
    ∃ before settings, calls = before ++ [(i, .openAt g (some settings))] := by
  cases h <;> exact ⟨_, _, List.append_cons _ _ _⟩

end Trace

/-! ## What the answers decide -/

/-- Which selections the backend at each position accepts, and at which geometries it opens. -/
structure Answers where
  accepts : Nat → Selection → Bool
  opens : Nat → Geometry → Bool

namespace Answers

/-- A call was answered in this way. Calls that neither select nor open anything do not matter. -/
def Fits (a : Answers) : Nat × Call → Prop
  | (i, .setDevice device channel format accepted) => accepted = a.accepts i (device, channel, format)
  | (i, .openAt g settings) => settings.isSome = a.opens i g
  | _ => True

instance (a : Answers) : DecidablePred a.Fits
  | (_, .setDevice ..) => inferInstanceAs (Decidable (_ = _))
  | (_, .openAt ..) => inferInstanceAs (Decidable (_ = _))
  | (_, .devices) | (_, .close) | (_, .read _) | (_, .adjust ..) => inferInstanceAs (Decidable True)

/-- All calls were answered in this way. -/
def Fit (a : Answers) (calls : Trace) : Prop := ∀ e ∈ calls, a.Fits e

@[simp] theorem fit_append (a : Answers) (calls more : Trace) :
    a.Fit (calls ++ more) ↔ a.Fit calls ∧ a.Fit more :=
  List.forall_mem_append

@[simp] theorem fit_cons (a : Answers) (e : Nat × Call) (calls : Trace) :
    a.Fit (e :: calls) ↔ a.Fits e ∧ a.Fit calls :=
  List.forall_mem_cons

/-- The first of `count` backends that accepts a selection. -/
def taker? (a : Answers) (selection : Selection) (count : Nat) : Option Nat :=
  (List.range count).find? fun i => a.accepts i selection

/-- The backend that ends up open, and the device that it serves. -/
def outcome (a : Answers) (selection : Selection) (g : Geometry) (count : Nat) : Nat × Descriptor :=
  match a.taker? selection count with
  | some i => if a.opens i g then (i, selection.1) else (0, Descriptor.fallback)
  | none => (0, Descriptor.fallback)

variable {a : Answers} {selection : Selection} {g : Geometry} {device : Descriptor}
  {channel : UInt32} {format : VideoFormat} {count : Nat}

theorem outcome_of_opens {i : Nat} (hi : a.taker? selection count = some i)
    (hopens : a.opens i g = true) : a.outcome selection g count = (i, selection.1) := by
  rw [outcome, hi]
  exact if_pos hopens

theorem outcome_of_fails (h : ∀ i, a.taker? selection count = some i → a.opens i g = false) :
    a.outcome selection g count = (0, Descriptor.fallback) := by
  rw [outcome]
  split
  · rename_i i hi
    exact if_neg (ne_true_of_eq_false (h i hi))
  · rfl

/-- Backends that refuse a device do not accept it. -/
theorem accepts_of_fit_refusals (h : a.Fit (Trace.refusals device channel format 0 count)) {i : Nat}
    (hi : i < count) : a.accepts i (device, channel, format) = false := by
  have hmem : (i, Call.setDevice device channel format false) ∈
      Trace.refusals device channel format 0 count :=
    List.mem_map.mpr ⟨i, List.mem_range'_1.mpr ⟨Nat.zero_le i, by omega⟩, rfl⟩
  exact (h _ hmem).symm

theorem taker?_of_accepted {i : Nat} (hi : i < count)
    (hrefused : a.Fit (Trace.refusals device channel format 0 i))
    (haccepted : a.accepts i (device, channel, format) = true) :
    a.taker? (device, channel, format) count = some i := by
  refine List.find?_range_eq_some.mpr ⟨haccepted, List.mem_range.mpr hi, fun j hj => ?_⟩
  simpa using accepts_of_fit_refusals hrefused hj

theorem taker?_of_refused (hrefused : a.Fit (Trace.refusals device channel format 0 count)) :
    a.taker? (device, channel, format) count = none := by
  refine List.find?_range_eq_none.mpr fun j hj => ?_
  simpa using accepts_of_fit_refusals hrefused hj

end Answers

/-- What is open in the end is decided by the answers. -/
theorem Trace.Resolves.eq_outcome {a : Answers} {device chosen : Descriptor} {channel : UInt32}
    {format : VideoFormat} {g : Geometry} {count i : Nat} {calls : Trace}
    (h : Resolves device channel format g count calls i chosen) (hfit : a.Fit calls) :
    (i, chosen) = a.outcome (device, channel, format) g count := by
  cases h with
  | opened settings hi =>
    simp only [Answers.fit_append, Answers.fit_cons] at hfit
    obtain ⟨hrefused, haccepted, hopens, -⟩ := hfit
    have htaker := Answers.taker?_of_accepted hi hrefused haccepted.symm
    exact (Answers.outcome_of_opens htaker hopens.symm).symm
  | unopened hi =>
    simp only [Answers.fit_append, Answers.fit_cons] at hfit
    obtain ⟨⟨hrefused, haccepted, hopens, -⟩, -⟩ := hfit
    have htaker := Answers.taker?_of_accepted hi hrefused haccepted.symm
    refine (Answers.outcome_of_fails fun j hj => ?_).symm
    rw [← Option.some.inj (htaker.symm.trans hj)]
    exact hopens.symm
  | refused =>
    have htaker := Answers.taker?_of_refused ((a.fit_append _ _).mp hfit).1
    exact (Answers.outcome_of_fails fun j hj => absurd (htaker.symm.trans hj) (by simp)).symm

namespace Custody

variable {β : Type}

/-- From one device side to the other there were these calls, and afterwards the backend at position
`i` is chosen for a device. -/
structure Moved (c d : Custody β) (calls : Trace) (i : Nat) (device : Descriptor) : Prop where
  trace : d.trace = c.trace ++ calls
  manager : d.manager = some i
  current : d.current = device
  length : d.backends.length = c.backends.length

/-- More calls may come first. -/
theorem Moved.after {c d e : Custody β} {before calls : Trace} {i : Nat} {device : Descriptor}
    (h : d.Moved e calls i device) (htrace : d.trace = c.trace ++ before)
    (hlength : d.backends.length = c.backends.length) :
    c.Moved e (before ++ calls) i device :=
  ⟨by rw [h.trace, htrace, List.append_assoc], h.manager, h.current, h.length.trans hlength⟩

/-- One more call may come first. -/
theorem Moved.cons {c d e : Custody β} {first : Nat × Call} {calls : Trace} {i : Nat}
    {device : Descriptor} (h : d.Moved e calls i device) (htrace : d.trace = c.trace ++ [first])
    (hlength : d.backends.length = c.backends.length) : c.Moved e (first :: calls) i device :=
  h.after htrace hlength

/-- The chosen backend answers a call that leaves it chosen. -/
theorem Moved.reply {c d : Custody β} {calls : Trace} {i : Nat} {device : Descriptor}
    (h : c.Moved d calls i device) (j : Nat) (r : Registered β) (call : Call)
    (opened : Option Geometry) :
    c.Moved { d.reply j r call with opened := opened } (calls ++ [(j, call)]) i device :=
  ⟨by simp [Custody.reply, h.trace], h.manager, h.current,
    (talked_reply d j r call).length.trans h.length⟩

end Custody

namespace CaptureState

variable {β : Type} {s t : CaptureState β} {device : Descriptor} {m : Mode}

/-- The calls by which the synthetic device is chosen and opened for a consumer. -/
def fallingBack (s : CaptureState β) (m : Mode) : Trace :=
  Trace.fallingBack s.channel s.format (s.openGeometry m)

/-- The calls by which a device is chosen and opened for a consumer, with what is open afterwards. -/
def Resolves (s : CaptureState β) (device : Descriptor) (m : Mode) (calls : Trace) (i : Nat)
    (chosen : Descriptor) : Prop :=
  Trace.Resolves device s.channel s.format (s.openGeometry m) s.backends.length calls i chosen

theorem openGeometry_congr (h : t.control = s.control) (m : Mode) :
    t.openGeometry m = s.openGeometry m := by
  rw [openGeometry_eq, openGeometry_eq, h]

theorem fallingBack_congr (h : t.control = s.control) : t.fallingBack m = s.fallingBack m := by
  have hchannel : t.channel = s.channel := congrArg Control.channel h
  have hformat : t.format = s.format := congrArg Control.format h
  rw [fallingBack, fallingBack, openGeometry_congr h, hchannel, hformat]

/-- Which calls these are depends on what callers asked for and on how many backends there are. -/
theorem Resolves.congr {calls : Trace} {i : Nat} {chosen : Descriptor}
    (h : t.Resolves device m calls i chosen) (hcontrol : t.control = s.control)
    (hlength : t.backends.length = s.backends.length) : s.Resolves device m calls i chosen := by
  have hchannel : t.channel = s.channel := congrArg Control.channel hcontrol
  have hformat : t.format = s.format := congrArg Control.format hcontrol
  rwa [Resolves, openGeometry_congr hcontrol, hchannel, hformat, hlength] at h

variable [Backend β]

/-! ## Choosing and opening -/

/-- The synthetic device is chosen in place of another one, and it opens at once. -/
theorem moved_selectFallback (hs : s.custody.Sound) (m : Mode) :
    (s.selectFallback.tryOpen m).1 = true ∧
      s.custody.Moved (s.selectFallback.tryOpen m).2.custody (s.fallingBack m) 0
        Descriptor.fallback := by
  obtain ⟨l, hl, -⟩ := hs.synthetic
  let u := s.selectFallback
  have hu : u.custody = _ := (trySelect_fallback hl).2
  have hgeometry : u.openGeometry m = s.openGeometry m :=
    openGeometry_congr (control_selectFallback s) m
  have hchosen : s.custody.Moved u.custody
      [(0, .setDevice Descriptor.fallback s.channel s.format true)] 0 Descriptor.fallback := by
    rw [hu]
    exact ⟨rfl, rfl, rfl, List.length_set⟩
  obtain ⟨hopened, hcustody⟩ := tryOpen_synthetic (first_selectFallback hl) hchosen.manager m
  rw [hcustody, hgeometry]
  exact ⟨hopened, hchosen.reply ..⟩

theorem length_trySelect (device : Descriptor) (s : CaptureState β) :
    (s.trySelect device).2.backends.length = s.backends.length := by
  have htalked := talked_offer device s.backends.length 0 { s with manager := none }
  rw [trySelect_eq]
  dsimp only
  split <;> exact htalked.length

/-- The chosen backend opens, or the synthetic one opens in its place. -/
theorem moved_openFor {k : Control} {i : Nat} (h : s.custody.Ready k i) (m : Mode) :
    (∃ settings, s.custody.Moved (s.openFor m).custody
        [(i, .openAt (s.openGeometry m) (some settings))] i s.current) ∨
      s.custody.Moved (s.openFor m).custody
        ((i, .openAt (s.openGeometry m) none) :: s.fallingBack m) 0 Descriptor.fallback := by
  obtain ⟨r, hr⟩ := h.exists_backend h.manager
  have hstart : s.custody.Moved s.custody [] i s.current :=
    ⟨(List.append_nil _).symm, h.manager, rfl, rfl⟩
  have hspec := tryOpen_spec h m
  rw [openFor_eq]
  cases hv : (Backend.openAt (s.openGeometry m) r.backend).value with
  | ok settings =>
    obtain ⟨hopened, hcustody⟩ := tryOpen_of_opened hr h.manager hv
    rw [if_pos hopened, hcustody]
    exact .inl ⟨settings, hstart.reply ..⟩
  | error e =>
    obtain ⟨hfailed, hcustody⟩ := tryOpen_of_failed hr h.manager hv
    rw [hfailed, if_neg Bool.false_ne_true] at hspec ⊢
    have hback := (moved_selectFallback hspec.toSound m).2
    rw [fallingBack_congr (control_tryOpen m s)] at hback
    refine .inr (hback.cons (congrArg Custody.trace hcustody) ?_)
    rw [hcustody]
    exact List.length_set

/-- A device is chosen while none is open, and opened for a consumer. -/
theorem resolves_openFor (hs : s.custody.Sound) (ho : s.opened = none)
    (hd : device = s.desired ∨ device = Descriptor.fallback) (m : Mode) :
    ∃ calls i chosen, s.Resolves device m calls i chosen ∧
      s.custody.Moved ((s.select device).openFor m).custody calls i chosen := by
  let u := (s.trySelect device).2
  have hcontrol : u.control = s.control := control_trySelect device s
  have hback : u.fallingBack m = s.fallingBack m := fallingBack_congr hcontrol
  have hlength : u.backends.length = s.backends.length := length_trySelect device s
  rw [select_eq]
  cases hchosen : (s.trySelect device).1 with
  | true =>
    obtain ⟨i, hi, hmanager, hcurrent, htrace⟩ := trySelect_of_accepted hchosen
    obtain ⟨i', hready⟩ := ready_trySelect hs ho hd hchosen
    obtain rfl : i' = i := Option.some.inj (hready.manager.symm.trans hmanager)
    have hmoved := moved_openFor hready m
    rw [hback, openGeometry_congr hcontrol, hcurrent] at hmoved
    rw [List.append_assoc] at htrace
    rw [if_pos rfl]
    rcases hmoved with ⟨settings, hopened⟩ | hfailed
    · refine ⟨_, _, _, .opened settings hi, ?_⟩
      simpa using hopened.after (c := s.custody) htrace hlength
    · refine ⟨_, _, _, .unopened hi, ?_⟩
      simpa [fallingBack] using hfailed.after (c := s.custody) htrace hlength
  | false =>
    obtain ⟨-, -, htrace⟩ := trySelect_of_refused hchosen
    obtain ⟨hopened, hmoved⟩ := moved_selectFallback (sound_trySelect device hs ho) m
    have hopen := (openFor_eq m u.selectFallback).trans (if_pos hopened)
    rw [hback] at hmoved
    rw [if_neg Bool.false_ne_true, hopen]
    exact ⟨_, _, _, .refused, hmoved.after htrace hlength⟩

/-! ## Moving to another device -/

/-- The open device is closed, and another one is chosen and opened. -/
theorem resolves_reopen {k : Control} {i : Nat} {g : Geometry} (h : s.custody.Serving k i g)
    (hd : device = s.desired ∨ device = Descriptor.fallback) (m : Mode) :
    ∃ calls j chosen, s.Resolves device m calls j chosen ∧
      s.custody.Moved ((s.close.select device).openFor m).custody ((i, .close) :: calls) j
        chosen := by
  obtain ⟨r, hr⟩ := h.exists_backend h.manager
  have hclose := close_of_opened hr h.manager h.opened
  have hclosed := ready_close h
  have hdesired : s.close.desired = s.desired := congrArg Control.desired (control_close s)
  have hlength : s.close.backends.length = s.backends.length :=
    (congrArg (fun c => c.backends.length) hclose).trans List.length_set
  obtain ⟨calls, j, chosen, hcalls, hmoved⟩ :=
    resolves_openFor hclosed.toSound hclosed.closed (hdesired ▸ hd) m
  exact ⟨calls, j, chosen, hcalls.congr (control_close s) hlength,
    hmoved.cons (congrArg Custody.trace hclose) hlength⟩

/-- The active consumers move: the open device is closed, and another one is chosen and opened for
the consumer that decides. -/
theorem resolves_swap {k : Control} {i : Nat} {g : Geometry} (h : s.custody.Serving k i g)
    (hm : s.activeMode = some m) (hd : device = s.desired ∨ device = Descriptor.fallback) :
    ∃ calls j chosen, s.Resolves device m calls j chosen ∧
      s.custody.Moved (s.swap device).custody ((i, .close) :: calls) j chosen := by
  rw [activeMode_eq, Control.activeMode] at hm
  split at hm
  · rename_i hs
    obtain rfl : Mode.stream = m := Option.some.inj hm
    rw [swap_of_streaming hs]
    exact resolves_reopen h hd .stream
  · split at hm
    · rename_i hs hp
      obtain rfl : Mode.preview = m := Option.some.inj hm
      have hdesired : s.stopLoop.desired = s.desired :=
        congrArg Control.desired (control_stopLoop s)
      have hcustody : s.stopLoop.custody = s.custody := custody_stopLoop s
      obtain ⟨calls, j, chosen, hcalls, hmoved⟩ :=
        resolves_reopen (s := s.stopLoop) (hcustody ▸ h) (hdesired ▸ hd) .preview
      rw [hcustody] at hmoved
      rw [swap_of_previewing hp (Bool.eq_false_iff.mpr hs), custody_startLoop]
      exact ⟨calls, j, chosen, hcalls.congr (control_stopLoop s)
        (congrArg (fun c => c.backends.length) hcustody), hmoved⟩
    · cases hm

end CaptureState

end VideoCapture
