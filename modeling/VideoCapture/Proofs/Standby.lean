import VideoCapture.Proofs.Presence
import VideoCapture.Proofs.Recovery

/-!
# The synthetic device stands in

The synthetic device comes first, accepts nothing but itself, and never fails. Once the active
consumer has it, it goes on delivering until somebody asks for another device: nothing that happens in
the background and no device that is unplugged takes it away.

## Main definitions

* `CaptureState.Faithful` — the first backend is the synthetic device and accepted itself only.
* `Notification.standingIn` — what is told when the synthetic device opens.
* `Registered.closing` — what is told when a backend closes.
* `CaptureState.Standby` — the consumer that decides has the synthetic device.

The main statements are `CaptureState.standby_swap`, by which a move to the synthetic device always
succeeds, and `CaptureState.Standby.frameInto`, by which it delivers.
-/

namespace VideoCapture

/-- What is told when the synthetic device opens. -/
def Notification.standingIn (g : Geometry) : Notification :=
  .opened Descriptor.fallbackName Descriptor.fallback ⟨g, AdjustmentSet.neutral, false⟩

/-- What is told when a backend closes as it stands. -/
def Registered.closing {β : Type} [Backend β] (r : Registered β) : List Notification :=
  (Backend.close r.backend).signals.map (Notification.ofSignal r.framework)

namespace CaptureState

variable {β : Type} {s t : CaptureState β}

/-! ## The first backend accepts nothing but the synthetic device -/

section Faithful

/-- The first backend is the synthetic device. If it made the latest selection, that was itself. -/
structure Faithful (s : CaptureState β) : Prop where
  first : ∃ l : Logo, s.backends[0]? = some ⟨Descriptor.fallbackName, .logo l⟩
  own : ∀ device channel format,
    s.trace.selection? = some (0, device, channel, format) → device = Descriptor.fallback

theorem Faithful.congr (h : s.Faithful) (hbackends : t.backends = s.backends)
    (htrace : t.trace = s.trace) : t.Faithful := by
  refine ⟨?_, ?_⟩
  · rw [hbackends]
    exact h.first
  · rw [htrace]
    exact h.own

theorem Faithful.of_log (h : s.Faithful) (hbackends : t.backends = s.backends)
    (hlog : t.log = s.log) : t.Faithful :=
  h.congr hbackends (by rw [trace, trace, hlog])

/-- A call leaves the synthetic device in its place. It may only make it accept itself. -/
theorem Faithful.call (h : s.Faithful) {α : Type} {act : Source β → Reply (Source β) α}
    {describe : α → Call} (hlogo : ∀ l : Logo, ∃ l' : Logo, (act (.logo l)).backend = .logo l')
    (hown : ∀ (l : Logo) selection, (describe (act (.logo l)).value).accepted? = some selection →
      selection.1 = Descriptor.fallback) (i : Nat) : (s.call i act describe).2.Faithful := by
  cases hr : s.backends[i]? with
  | none => rwa [call_of_missing hr]
  | some r =>
    obtain ⟨l, hl⟩ := h.first
    have hcustody := custody_call hr act describe
    have hbackends := congrArg Custody.backends hcustody
    have htrace := congrArg Custody.trace hcustody
    simp only [custody, Custody.reply] at hbackends htrace
    constructor
    · by_cases hzero : i = 0
      · subst hzero
        obtain rfl : r = ⟨Descriptor.fallbackName, .logo l⟩ := Option.some.inj (hr.symm.trans hl)
        obtain ⟨l', hl'⟩ := hlogo l
        refine ⟨l', ?_⟩
        rw [hbackends, List.getElem?_set_self (List.getElem?_eq_some_iff.mp hl).1, hl']
      · refine ⟨l, ?_⟩
        rw [hbackends, List.getElem?_set_ne hzero]
        exact hl
    · intro device channel format hselection
      rw [htrace, Trace.selection?_concat] at hselection
      cases haccepted : (describe (act r.backend).value).accepted? with
      | none =>
        rw [haccepted] at hselection
        exact h.own device channel format hselection
      | some selection =>
        rw [haccepted] at hselection
        obtain ⟨rfl, rfl⟩ := Prod.mk.inj (Option.some.inj hselection)
        -- It was the first backend that accepted, so it was the synthetic device.
        obtain rfl : r = ⟨Descriptor.fallbackName, .logo l⟩ := Option.some.inj (hr.symm.trans hl)
        exact hown l _ haccepted

/-- Any device but the synthetic one is served by another backend. -/
theorem Faithful.ne_zero (h : s.Faithful) {k : Control} {i : Nat} {g : Geometry}
    (hi : s.custody.Serving k i g) (hcurrent : s.current ≠ Descriptor.fallback) : i ≠ 0 := by
  rintro rfl
  exact hcurrent (h.own _ _ _ hi.accepted)

theorem faithful_register (h : s.Faithful) (b : Source β) (framework : String) :
    (s.register b framework).Faithful := by
  obtain ⟨l, hl⟩ := h.first
  have hpos : 0 < s.backends.length := (List.getElem?_eq_some_iff.mp hl).1
  exact ⟨⟨l, (List.getElem?_append_left hpos).trans hl⟩, h.own⟩

theorem faithful_alter (h : s.Faithful) (i : Nat) (change : β → β) :
    (s.alter i change).Faithful := by
  obtain ⟨l, hl⟩ := h.first
  refine ⟨⟨l, ?_⟩, h.own⟩
  simp only [alter, List.getElem?_modify, hl]
  split <;> rfl

variable [Backend β]

/-- No move of the controller makes the first backend accept another device. -/
theorem Evolves.faithful (h : Evolves s t) (hs : s.Faithful) : t.Faithful := by
  induction h with
  | silent hbackends _ _ _ _ hlog => exact hs.of_log hbackends hlog
  | note s h =>
    rename_i e
    have hcall : e.call? = none := by
      cases e with
      | called => exact h.elim
      | _ => rfl
    exact hs.congr rfl (congrArg Custody.trace (custody_note hcall s))
  | report s h => exact hs.congr rfl (congrArg Custody.trace (custody_raise _ s))
  | release | choose | shut => exact hs.of_log rfl rfl
  | ask s h i =>
    cases h with
    | _ => exact hs.call (fun l => ⟨_, rfl⟩) (fun l selection haccepted => by cases haccepted) i
  | offer s _ i device =>
    refine hs.call (fun l => ⟨_, rfl⟩) (fun l selection haccepted => ?_) i
    have hvalue : (Backend.select device s.channel s.format (Source.logo (β := β) l)).value =
        device.isFallback := rfl
    rw [hvalue] at haccepted
    cases hdevice : device.isFallback with
    | false =>
      rw [hdevice] at haccepted
      cases haccepted
    | true =>
      rw [hdevice] at haccepted
      rw [← Option.some.inj haccepted]
      exact (Descriptor.isFallback_iff device).mp hdevice
  | tryOpen s m =>
    cases hm : s.manager with
    | none =>
      simp only [CaptureState.tryOpen, hm]
      exact hs
    | some i =>
      have hasked : (s.call i (Backend.openAt (s.openGeometry m))
          (fun r => Call.openAt (s.openGeometry m) r.toOption)).2.Faithful :=
        hs.call (fun l => ⟨_, rfl⟩) (fun l selection haccepted => by cases haccepted) i
      exact hasked.of_log (backends_tryOpen hm m) (log_tryOpen hm m)
  | trans _ _ ih ih' => exact ih' (ih hs)

theorem faithful_step (h : s.Faithful) (e : Step β) : (s.step e).Faithful := by
  cases e with
  | operation op =>
    by_cases hop : ∀ b, op ≠ .addBackend b
    · exact (evolves_operate hop s).faithful h
    · obtain ⟨b, rfl⟩ : ∃ b, op = .addBackend b := by simpa using hop
      exact faithful_register h (.device b) _
  | handOut => exact h.of_log rfl rfl
  | stir i change => exact faithful_alter h i change

theorem faithful_initial (preview stream : Geometry) (backends : List β) :
    (initial preview stream backends).Faithful := by
  have hstart : ((blank (β := β) preview stream).register (.logo Logo.initial)
      Descriptor.fallbackName).Faithful := by
    refine ⟨⟨Logo.initial, rfl⟩, fun device channel format hselection => ?_⟩
    cases hselection
  exact List.foldlRecOn (motive := Faithful) _ _ hstart
    fun _ hs b _ => faithful_register hs (.device b) _

end Faithful

/-! ## Standing in -/

/-- The consumer that decides has the synthetic device. -/
structure Standby (s : CaptureState β) (m : Mode) : Prop where
  settled : s.Settled
  active : s.activeMode = some m
  current : s.current = Descriptor.fallback

namespace Standby

variable {m : Mode}

theorem congr (h : s.Standby m) (hcustody : t.custody = s.custody)
    (hcontrol : t.control = s.control) : t.Standby m where
  settled := h.settled.congr hcustody hcontrol
  active := by rw [activeMode_eq, hcontrol]; exact h.active
  current := (congrArg Custody.current hcustody).trans h.current

theorem raise (h : s.Standby m) (n : Notification) : (s.raise n).Standby m :=
  h.congr (custody_raise n s) (control_raise n s)

theorem serving (h : s.Standby m) : s.custody.Serving s.control 0 (s.openGeometry m) := by
  obtain ⟨i, hi⟩ := h.settled.serving h.active
  obtain rfl : i = 0 := hi.fallback h.current
  rwa [openGeometry_eq]

/-- The first backend is the synthetic device, and it is open for the consumer. -/
theorem exists_logo (h : s.Standby m) :
    ∃ l : Logo, s.backends[0]? = some ⟨Descriptor.fallbackName, .logo l⟩ ∧
      l.opened = some (s.openGeometry m) := by
  obtain ⟨l, hl, ho⟩ := h.serving.synthetic
  rw [if_pos h.serving.manager] at ho
  exact ⟨l, hl, ho.trans h.serving.opened⟩

end Standby

variable [Backend β]

/-! ## Choosing and opening the synthetic device -/

theorem select_fallback (hs : s.custody.Sound) :
    s.select Descriptor.fallback = s.selectFallback := by
  obtain ⟨l, hl, -⟩ := hs.synthetic
  rw [select_eq]
  exact if_pos (trySelect_fallback hl).1

theorem raised_close {i : Nat} {r : Registered β} {g : Geometry} (hr : s.backends[i]? = some r)
    (hm : s.manager = some i) (ho : s.opened = some g) : s.close.raised = s.raised ++ r.closing := by
  unfold close
  split
  · rename_i j _ hj _
    obtain rfl : i = j := Option.some.inj (hm.symm.trans hj)
    exact raised_call (s := { s with opened := none }) hr Backend.close fun _ => Call.close
  · rename_i hnone
    exact absurd ho (hnone i g hm)

/-- The synthetic device tells nothing when it is chosen. -/
theorem raised_selectFallback (hs : s.custody.Sound) : s.selectFallback.raised = s.raised := by
  obtain ⟨l, hl, -⟩ := hs.synthetic
  obtain ⟨count, hcount⟩ : ∃ count, s.backends.length = count + 1 :=
    Nat.exists_eq_add_one.mpr (List.getElem?_eq_some_iff.mp hl).1
  have hasked := raised_call (s := { s with manager := none }) hl
    (Backend.select Descriptor.fallback s.channel s.format)
    (Call.setDevice Descriptor.fallback s.channel s.format)
  have hoffer := offer_fallback (s := { s with manager := none }) hl count
  rw [← hcount] at hoffer
  rw [selectFallback, trySelect_eq, hoffer]
  exact hasked.trans (List.append_nil _)

theorem raised_openFor_selectFallback (hs : s.custody.Sound) (m : Mode) :
    (s.selectFallback.openFor m).raised =
      s.raised ++ [Notification.standingIn (s.openGeometry m)] := by
  obtain ⟨l, hl, -⟩ := hs.synthetic
  let u := s.selectFallback
  have hul := first_selectFallback hl
  have hmanager : u.manager = some 0 := congrArg Custody.manager (trySelect_fallback hl).2
  have hgeometry : u.openGeometry m = s.openGeometry m :=
    openGeometry_congr (control_selectFallback s) m
  have hopen : u.openFor m = (u.tryOpen m).2 :=
    (openFor_eq m u).trans (if_pos (moved_selectFallback hs m).1)
  calc (u.openFor m).raised
      = (u.call 0 (Backend.openAt (u.openGeometry m))
          fun r => Call.openAt (u.openGeometry m) r.toOption).2.raised := by
        rw [hopen, raised_of_log (log_tryOpen hmanager m)]
    _ = u.raised ++ [Notification.standingIn (u.openGeometry m)] := raised_call hul _ _
    _ = s.raised ++ [Notification.standingIn (s.openGeometry m)] := by
        rw [hgeometry, raised_selectFallback hs]

/-- Apart from the preview loop, a move closes what is open, and chooses and opens a device. -/
theorem exists_swap {m : Mode} (hm : s.activeMode = some m) (device : Descriptor) :
    ∃ u : CaptureState β, u.custody = s.custody ∧ u.control = s.control ∧ u.raised = s.raised ∧
      (s.swap device).custody = ((u.close.select device).openFor m).custody ∧
      (s.swap device).raised = ((u.close.select device).openFor m).raised := by
  rw [activeMode_eq, Control.activeMode] at hm
  split at hm
  · rename_i hs
    obtain rfl : Mode.stream = m := Option.some.inj hm
    rw [swap_of_streaming hs]
    exact ⟨s, rfl, rfl, rfl, rfl, rfl⟩
  · split at hm
    · rename_i hs hp
      obtain rfl : Mode.preview = m := Option.some.inj hm
      rw [swap_of_previewing hp (Bool.eq_false_iff.mpr hs), custody_startLoop, raised_startLoop]
      exact ⟨s.stopLoop, custody_stopLoop s, control_stopLoop s, raised_stopLoop s, rfl, rfl⟩
    · cases hm

/-- The consumer that decides moves to the synthetic device: what is open is closed, and the synthetic
device opens. -/
theorem standby_swap {m : Mode} (h : s.Settled) (hm : s.activeMode = some m) {i : Nat}
    {r : Registered β} (hmanager : s.manager = some i) (hr : s.backends[i]? = some r) :
    (s.swap Descriptor.fallback).Standby m ∧
      (s.swap Descriptor.fallback).raised =
        s.raised ++ r.closing ++ [Notification.standingIn (s.openGeometry m)] := by
  obtain ⟨i', hi⟩ := h.serving hm
  obtain rfl : i' = i := Option.some.inj (hi.manager.symm.trans hmanager)
  obtain ⟨u, hcustody, hcontrol, hraised, hswap, htold⟩ := exists_swap hm Descriptor.fallback
  rw [← hcustody] at hi
  have hclosed := ready_close hi
  have hur : u.backends[i']? = some r := by
    rw [show u.backends = s.backends from congrArg Custody.backends hcustody, hr]
  have hgeometry : u.close.openGeometry m = s.openGeometry m :=
    openGeometry_congr ((control_close u).trans hcontrol) m
  have hchosen := select_fallback hclosed.toSound
  obtain ⟨hopened, hmoved⟩ := moved_selectFallback hclosed.toSound m
  have hopen := (openFor_eq m u.close.selectFallback).trans (if_pos hopened)
  constructor
  · refine ⟨settled_swap (hcustody ▸ hi) (exists_activeMode_iff.mp ⟨m, hm⟩) (.inr rfl), ?_, ?_⟩
    · rwa [activeMode_eq, control_swap]
    · show (s.swap Descriptor.fallback).custody.current = _
      rw [hswap, hchosen, hopen]
      exact hmoved.current
  · rw [htold, hchosen, raised_openFor_selectFallback hclosed.toSound,
      raised_close hur hi.manager hi.opened, hraised, hgeometry]

/-! ## While it stands in -/

namespace Standby

variable {m : Mode}

/-- The synthetic device delivers its picture, and it goes on standing in. -/
theorem readActive (h : s.Standby m) :
    ∃ l : Logo, s.backends[0]? = some ⟨Descriptor.fallbackName, .logo l⟩ ∧
      s.readActive.1 = some ((l.advance (s.openGeometry m).width.toNat
        (s.openGeometry m).height.toNat).picture (s.openGeometry m)) ∧
      s.readActive.2.Standby m := by
  obtain ⟨l, hl, hopened⟩ := h.exists_logo
  obtain ⟨hf, hread⟩ := read_synthetic hl h.serving.manager h.serving.opened hopened
  have hserving := serving_read h.serving
  obtain ⟨htalked, -⟩ :=
    adjusts_flushAdjustments (hserving.registered 0 hserving.manager) hserving.manager
  have hactive := readActive_of_activeMode h.active
  rw [hf] at hactive
  refine ⟨l, hl, congrArg Prod.fst hactive, settled_readActive h.settled, ?_, ?_⟩
  · rw [activeMode_eq, control_readActive]
    exact h.active
  · rw [hactive]
    exact (htalked.current.trans (congrArg Custody.current hread)).trans h.current

/-- A caller's buffer gets the picture of the synthetic device at the geometry of the consumer. -/
theorem frameInto (h : s.Standby m) (buffer : Array UInt8) :
    ∃ l : Logo, s.backends[0]? = some ⟨Descriptor.fallbackName, .logo l⟩ ∧
      (s.frameInto buffer).1 =
        (some (s.openGeometry m).frameSize, ((l.advance (s.openGeometry m).width.toNat
          (s.openGeometry m).height.toNat).picture (s.openGeometry m)).data) := by
  obtain ⟨l, hl, hf, -⟩ := h.readActive
  refine ⟨l, hl, ?_⟩
  simp only [CaptureState.frameInto]
  split
  · rename_i f t hread
    rw [hread] at hf
    rw [Option.some.inj hf]
    rfl
  · rename_i t hread
    rw [hread] at hf
    cases hf

/-- A pull takes a picture of the synthetic device, or nothing at all. -/
theorem pull (h : s.Standby m) : s.pull.Standby m := by
  have hbegun : s.pulling.Standby m := h.congr rfl rfl
  obtain ⟨-, -, -, hread⟩ := hbegun.readActive
  simp only [CaptureState.pull]
  split
  · split
    · rename_i f u hu
      have hpulled : s.pulling.readActive = (some f, u) := hu
      rw [hpulled] at hread
      exact hread.congr (custody_note rfl u) rfl
    · rename_i u hu
      have hpulled : s.pulling.readActive = (none, u) := hu
      rw [hpulled] at hread
      exact hread
  · exact hbegun

/-- Whatever happens that nobody asked for, the synthetic device goes on standing in. -/
theorem step (h : s.Standby m) {e : Step β} (he : e.asked? = none) :
    (s.step e).Standby m ∧ (s.step e).control = s.control := by
  cases e with
  | operation op =>
    cases op with
    | pull => exact ⟨h.pull, control_pull s⟩
    | _ => cases he
  | handOut => exact ⟨h.congr rfl rfl, rfl⟩
  | stir i change => exact ⟨⟨settled_alter h.settled i change, h.active, h.current⟩, rfl⟩

theorem run (h : s.Standby m) {steps : List (Step β)} (hsteps : ∀ e ∈ steps, e.asked? = none) :
    (s.run steps).Standby m ∧ (s.run steps).control = s.control := by
  induction steps using List.reverseRecOn with
  | nil => exact ⟨h, rfl⟩
  | append_singleton steps e ih =>
    obtain ⟨hbefore, hcontrol⟩ := ih fun e he => hsteps e (List.mem_append_left _ he)
    obtain ⟨hlater, hsame⟩ := hbefore.step (hsteps e (by simp))
    rw [run_concat]
    exact ⟨hlater, hsame.trans hcontrol⟩

end Standby

end CaptureState

theorem ControllerBuilder.faithful_run {β : Type} [Backend β] (builder : ControllerBuilder β)
    (steps : List (Step β)) : (builder.start.run steps).Faithful := by
  induction steps using List.reverseRecOn with
  | nil => exact CaptureState.faithful_initial _ _ _
  | append_singleton steps e ih =>
    rw [CaptureState.run_concat]
    exact CaptureState.faithful_step ih e

end VideoCapture
