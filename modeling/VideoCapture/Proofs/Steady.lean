import VideoCapture.Proofs.Frames
import VideoCapture.Proofs.Turns

/-!
# What holds between operations

A frame is fetched from the open device, or from the synthetic one in its place, and only then is
anything adjusted. This changes what is recorded along with what the calls tell, and it leaves the
preview loop running. So what holds between operations holds in every reachable state.

## Main definitions

* `CaptureState.Fetches` — the calls by which a frame is fetched.
* `CaptureState.Fetched` — the state after them, before anything is adjusted.

The main statement is `ControllerBuilder.steady_run`.
-/

namespace VideoCapture

theorem Control.Synced.step {β : Type} {c : Control} (h : c.Synced) (e : Step β) :
    (c.step e).Synced := by
  cases e with
  | operation op => exact h.after op
  | handOut => exact h
  | stir => exact h

namespace CaptureState

variable {β : Type}

/-- The calls by which a frame is fetched for `m`, the position of the backend that delivers it, and
the adjustments recorded for `m` by then. -/
inductive Fetches (s : CaptureState β) (m : Mode) : Trace → Nat → AdjustmentSet → Prop
  /-- The open backend delivers. -/
  | delivered {i : Nat} {f : Frame} (manager : s.manager = some i) :
    Fetches s m [(i, .read (some f))] i (s.mode m).settings
  /-- The open backend fails. The synthetic device is chosen, opened and read in its place, and what
  is recorded is what this opening reported. -/
  | rescued {i : Nat} {f : Frame} {settings : AdjustmentSet} (manager : s.manager = some i) :
    Fetches s m
      [(i, .read none), (i, .close), (0, .setDevice Descriptor.fallback s.channel s.format true),
        (0, .openAt (s.openGeometry m) (some settings)), (0, .read (some f))] 0 settings

/-- A frame has been fetched for `m` with the given calls, and nothing has been adjusted since. -/
structure Fetched (s u : CaptureState β) (m : Mode) (calls : Trace) (i : Nat) : Prop where
  fetches : s.Fetches m calls i (u.mode m).settings
  trace : u.trace = s.trace ++ calls
  serving : u.custody.Serving s.control i (s.openGeometry m)
  converses : Converses (Call.Opens (s.openGeometry m)) (some m) s u
  control : u.control = s.control

variable {s t u : CaptureState β} {i : Nat} {m : Mode}

/-- What is recorded when the frame has been fetched is what the calls tell. -/
theorem Fetched.told {calls : Trace} (h : s.Fetched u m calls i) (htold : s.Told m) : u.Told m := by
  obtain ⟨hfetches, htrace, -, -, -⟩ := h
  rw [Told, htrace]
  generalize (u.mode m).settings = recorded at hfetches
  cases hfetches with
  | delivered =>
    rw [Trace.settings?_append_of_isPlain (by simp [Call.IsPlain])]
    exact htold
  | rescued => simp [Trace.settings?, Call.settle]

/-- What is sent afterwards is what the consumer requested that has the device to itself. -/
theorem Fetched.exclusiveMode_eq {calls : Trace} (h : s.Fetched u m calls i)
    (hsync : s.control.Synced) : u.requests.exclusiveMode = s.control.soleMode := by
  have hrequests : u.requests = s.requests := congrArg Control.requests h.control
  rw [hrequests]
  exact hsync.exclusiveMode_eq

theorem Steady.note (h : s.Steady) {e : Effect} (hcall : e.call? = none) (hspares : e.SparesLoop) :
    (s.note e).Steady where
  settled := h.settled.congr (custody_note hcall s) rfl
  logged := h.logged.of_adds (adds_note (P := Effect.SparesLoop) hspares s) (fun _ => id) rfl
  fits := h.fits
  told m hm := (h.told m hm).congr (custody_note hcall s) rfl

/-- While the preview has the device to itself, the loop runs at the size of the open device. -/
theorem Steady.exists_size (h : s.Steady) (hp : s.previewOnly = true) :
    ∃ g, s.opened = some g ∧ s.loop.size? = some g.frameSize := by
  have ho := h.settled.opened_eq
  rw [previewOnly_iff.mp hp, Option.map_some] at ho
  have hsize : s.loop.size? = s.opened.map Geometry.frameSize := h.fits.trans (if_pos hp)
  rw [ho] at hsize
  exact ⟨_, ho, hsize⟩

/-- Between operations the loop runs exactly while the preview has the device to itself. -/
theorem Steady.running_eq (h : s.Steady) : s.loop.running = s.previewOnly := by
  cases hp : s.previewOnly with
  | false => exact h.fits.still hp
  | true =>
    obtain ⟨g, -, hsize⟩ := h.exists_size hp
    by_contra hstill
    rw [LoopStatus.size?, if_neg hstill] at hsize
    simp at hsize

/-- The state in which a pull of the loop begins. -/
def pulling (s : CaptureState β) : CaptureState β := { s with loop := { s.loop with due := false } }

theorem Steady.pulling (h : s.Steady) : s.pulling.Steady :=
  ⟨h.settled, ⟨h.logged.size, h.logged.worker⟩, h.fits, h.told⟩

theorem settings_pulling (s : CaptureState β) (n : Mode) :
    (s.pulling.mode n).settings = (s.mode n).settings := by
  cases n <;> rfl

section Calls

variable [Backend β]

/-- The open backend delivers. -/
theorem fetched_read (h : s.custody.Serving s.control i (s.openGeometry m))
    {r : Registered β} (hr : s.backends[i]? = some r) {f : Frame}
    (hf : (Backend.read r.backend).value = .ok f) :
    s.read.1 = some f ∧ s.Fetched s.read.2 m [(i, .read (some f))] i := by
  obtain ⟨hvalue, hcustody⟩ := read_backend hr h
  rw [hf] at hvalue hcustody
  have hsaid := converses_read s
  refine ⟨hvalue, ?_, congrArg Custody.trace hcustody, serving_read h, hsaid.onBehalf _,
    control_read s⟩
  rw [hsaid.settings m (by simp)]
  exact .delivered h.manager

/-- The synthetic device delivers in place of a backend that failed. -/
theorem fetched_readFallback (h : s.custody.Serving s.control i (s.openGeometry m))
    {r : Registered β} (hr : s.backends[i]? = some r) {e : CaptureError}
    (he : (Backend.read r.backend).value = .error e) :
    s.read.1 = none ∧ ∃ calls, s.Fetched (s.read.2.readFallback m).2 m calls 0 := by
  let u := s.read.2.close
  let v := u.selectFallback.openFor m
  obtain ⟨hfailed, hready, htrace, hfirst⟩ := close_of_failed h hr he
  have hcontrol : u.control = s.control := by simp [u]
  have hgeometry : u.openGeometry m = s.openGeometry m := by
    rw [openGeometry_eq, openGeometry_eq, hcontrol]
  have hchannel : u.channel = s.channel := congrArg Control.channel hcontrol
  have hformat : u.format = s.format := congrArg Control.format hcontrol
  obtain ⟨l, hl, -⟩ := h.synthetic
  have hrescue := rescue_synthetic (s := u) hready (hfirst.trans hl) m
  rw [hgeometry, hcontrol] at hrescue
  obtain ⟨-, -, -, -, hlater, hopened⟩ := hrescue
  have hcalls := hlater
  rw [htrace, hchannel, hformat, List.append_assoc] at hcalls
  -- The record was made at the opening, and the trace tells what it reported.
  have hrecorded : (v.read.2.mode m).settings = AdjustmentSet.neutral := by
    have htold : v.Told m := told_openFor (ready_selectFallback hready.toSound hready.closed) m
    have hsaid := converses_read v
    have hknown : v.read.2.trace.settings? = some (v.read.2.mode m).settings := by
      rw [hsaid.settings?_trace, hsaid.settings m (by simp)]
      exact htold
    rw [hlater] at hknown
    simpa [Trace.settings?, Call.settle, eq_comm] using hknown
  have hresult : (s.read.2.readFallback m).2 = v.read.2 := by rw [readFallback_eq]
  rw [hresult]
  refine ⟨hfailed, _, ?_, hcalls, serving_read hopened, ?_, ?_⟩
  · rw [hrecorded]
    exact .rescued h.manager
  · rw [← hresult]
    exact ((converses_read s).onBehalf _).trans (converses_readFallback (by simp [openGeometry_eq]))
  · simp [v, hcontrol]

/-- A frame for the consumer that decides is fetched, and then the device is adjusted. -/
theorem Settled.exists_fetched (h : s.Settled) (hm : s.activeMode = some m) :
    ∃ f u calls j, s.readActive = (some f, u.flushAdjustments) ∧ s.Fetched u m calls j := by
  obtain ⟨i, r, hi, -, hr⟩ := h.exists_serving_backend hm
  rw [readActive_of_activeMode hm]
  cases hv : (Backend.read r.backend).value with
  | ok f =>
    obtain ⟨hf, hfetched⟩ := fetched_read hi hr hv
    exact ⟨f, s.read.2, _, i, by rw [hf], hfetched⟩
  | error e =>
    obtain ⟨hfailed, calls, hfetched⟩ := fetched_readFallback hi hr hv
    exact ⟨_, (s.read.2.readFallback m).2, calls, 0, by rw [hfailed], hfetched⟩

/-- What is sent afterwards is recorded along. -/
theorem told_flushAdjustments (hm : u.manager = some i) (hi : i < u.backends.length)
    (hx : ∀ n, u.requests.exclusiveMode = some n → n = m) (htold : u.Told m) :
    u.flushAdjustments.Told m := by
  cases hmode : u.requests.exclusiveMode with
  | none =>
    rw [flushAdjustments_of_not_exclusive hmode]
    exact htold
  | some n =>
    obtain rfl := hx n hmode
    obtain ⟨-, htrace, hsettings⟩ := flushAdjustments_of_exclusive hm hi hmode
    rw [Told, htrace, hsettings]
    exact Trace.settings?_append_adjustments htold i _

/-- A frame leaves the loop and what is recorded for others as they are. -/
theorem steady_readActive (h : s.Steady) (hsync : s.control.Synced) :
    s.readActive.2.Steady ∧ s.readActive.2.loop = s.loop ∧
      ∀ n, s.control.activeMode ≠ some n →
        (s.readActive.2.mode n).settings = (s.mode n).settings := by
  cases hm : s.control.activeMode with
  | none =>
    rw [readActive_of_idle hm]
    exact ⟨h, rfl, fun _ _ => rfl⟩
  | some m =>
    obtain ⟨f, u, calls, j, hread, hfetched⟩ := h.settled.exists_fetched hm
    have hsettled := settled_readActive h.settled
    rw [hread] at hsettled ⊢
    have hcontrol : u.flushAdjustments.control = s.control := by simp [hfetched.control]
    have hflush := converses_flushAdjustments u
    have hloop : u.flushAdjustments.loop = s.loop := hflush.loop.trans hfetched.converses.loop
    have hexclusive {n : Mode} (hn : u.requests.exclusiveMode = some n) : n = m := by
      rw [hfetched.exclusiveMode_eq hsync] at hn
      exact Option.some.inj ((Control.activeMode_of_soleMode hn).symm.trans hm)
    refine ⟨⟨hsettled, ?_, ?_, ?_⟩, hloop, ?_⟩
    · exact (h.logged.converses hfetched.converses).converses hflush
    · have hreopened : u.flushAdjustments.opened = s.opened := by
        rw [hsettled.opened_eq, h.settled.opened_eq, hcontrol]
      rw [LoopFits, hloop, hreopened,
        previewOnly_of_activeMode (congrArg Control.activeMode hcontrol)]
      exact h.fits
    · intro n hn
      rw [hcontrol] at hn
      obtain rfl := Option.some.inj (hm.symm.trans hn)
      exact told_flushAdjustments hfetched.serving.manager
        (hfetched.serving.registered j hfetched.serving.manager) (fun _ => hexclusive)
        (hfetched.told (h.told m hm))
    · intro n hn
      rw [hflush.settings n fun hx => hn (congrArg some (hexclusive hx).symm)]
      exact hfetched.converses.settings n hn

/-- A pull that finds the preview alone delivers a frame for the display. -/
theorem Steady.pull_of_previewOnly (h : s.Steady) (hp : s.previewOnly = true) :
    ∃ f, s.pulling.readActive.1 = some f ∧
      s.pull = s.pulling.readActive.2.note (.displayed f) := by
  have hcond : (s.pulling.loop.running && s.pulling.previewOnly) = true := by
    show (s.loop.running && s.previewOnly) = true
    rw [h.running_eq, hp]
    rfl
  have hm : s.pulling.activeMode = some .preview := previewOnly_iff.mp hp
  obtain ⟨f, u, -, -, hread, -⟩ := h.pulling.settled.exists_fetched hm
  refine ⟨f, by rw [hread], ?_⟩
  simp only [pull]
  split
  · split
    · rename_i g t hpulled
      obtain ⟨hf, ht⟩ := Prod.mk.inj (hread.symm.trans hpulled)
      rw [hread, ht, Option.some.inj hf]
    · rename_i t hpulled
      cases hread.symm.trans hpulled
  · rename_i hidle
    exact absurd hcond hidle

/-- Any other pull does nothing. -/
theorem pull_of_not_previewOnly (hp : s.previewOnly = false) : s.pull = s.pulling := by
  have hcond : (s.pulling.loop.running && s.pulling.previewOnly) = false := by
    show (s.loop.running && s.previewOnly) = false
    rw [hp, Bool.and_false]
  show (if s.pulling.loop.running && s.pulling.previewOnly then _ else _) = _
  rw [hcond]
  rfl

theorem steady_pull (h : s.Steady) (hsync : s.control.Synced) :
    s.pull.Steady ∧
      ∀ n, s.control.activeMode ≠ some n → (s.pull.mode n).settings = (s.mode n).settings := by
  cases hp : s.previewOnly with
  | false =>
    rw [pull_of_not_previewOnly hp]
    exact ⟨h.pulling, fun n _ => settings_pulling s n⟩
  | true =>
    obtain ⟨f, -, hpull⟩ := h.pull_of_previewOnly hp
    obtain ⟨hread, -, hothers⟩ := steady_readActive h.pulling hsync
    rw [hpull]
    exact ⟨hread.note rfl trivial, fun n hn => (hothers n hn).trans (settings_pulling s n)⟩

/-! ## Every step -/

/-- A step changes no more of what is recorded than it must: that of the consumer that decides
afterwards. -/
theorem steady_step (h : s.Steady) (hsync : s.control.Synced) (e : Step β) :
    (s.step e).Steady ∧
      ∀ n, (s.step e).control.activeMode ≠ some n →
        ((s.step e).mode n).settings = (s.mode n).settings := by
  cases e with
  | operation op =>
    cases hop : op.readsFrame with
    | false =>
      have ht := turned_operate h hop
      exact ⟨⟨settled_operate h.settled op, ht.logged, ht.fits, ht.told⟩, ht.others⟩
    | true =>
      cases op with
      | frame =>
        obtain ⟨hread, -, hothers⟩ := steady_readActive h hsync
        exact ⟨hread, fun n hn => hothers n fun hs => hn (by simpa [step, operate] using hs)⟩
      | pull =>
        obtain ⟨hpull, hothers⟩ := steady_pull h hsync
        exact ⟨hpull, fun n hn => hothers n fun hs => hn (by simpa [step, operate] using hs)⟩
      | _ => simp [Operation.readsFrame] at hop
  | handOut =>
    exact ⟨⟨h.settled, h.logged.of_silent rfl rfl, h.fits, h.told⟩, fun n _ => by cases n <;> rfl⟩
  | stir i change =>
    refine ⟨⟨settled_alter h.settled i change, h.logged.of_silent rfl rfl, h.fits, ?_⟩,
      fun n _ => by cases n <;> rfl⟩
    exact fun m hm => h.told m hm

/-- Before the first operation nothing has been written down and nobody is active. -/
theorem steady_initial (preview stream : Geometry) (backends : List β) :
    (initial preview stream backends).Steady := by
  have hstart : (initial preview stream backends).log = [] ∧
      (initial preview stream backends).loop = .still :=
    List.foldlRecOn (motive := fun s : CaptureState β => s.log = [] ∧ s.loop = .still)
      _ _ ⟨rfl, rfl⟩ fun _ hs _ _ => hs
  obtain ⟨hlog, hloop⟩ := hstart
  have hcontrol : (initial preview stream backends).control = Control.initial preview stream :=
    control_initial preview stream backends
  refine ⟨settled_initial preview stream backends, ?_, ?_, ?_⟩
  · refine ⟨?_, ?_⟩ <;> rw [hlog, hloop] <;> rfl
  · rw [LoopFits, hloop, previewOnly_eq, hcontrol]
    rfl
  · intro m hm
    rw [hcontrol] at hm
    simp [Control.initial, Control.activeMode] at hm

/-- What holds between operations survives any number of steps. -/
theorem steady_run (h : s.Steady) (hsync : s.control.Synced) (steps : List (Step β)) :
    (s.run steps).Steady ∧ (s.run steps).control.Synced := by
  induction steps using List.reverseRecOn with
  | nil => exact ⟨h, hsync⟩
  | append_singleton steps e ih =>
    rw [run_concat, control_step]
    exact ⟨(steady_step ih.1 ih.2 e).1, ih.2.step e⟩

end Calls

end CaptureState

namespace ControllerBuilder

variable {β : Type} [Backend β]

/-- What holds between operations holds in every reachable state. -/
theorem steady_run (builder : ControllerBuilder β) (steps : List (Step β)) :
    (builder.start.run steps).Steady ∧ (builder.start.run steps).control.Synced := by
  refine CaptureState.steady_run (CaptureState.steady_initial _ _ _) ?_ steps
  rw [CaptureState.control_initial]
  exact Control.synced_initial _ _

end ControllerBuilder

end VideoCapture
