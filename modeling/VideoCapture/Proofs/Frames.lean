import VideoCapture.Proofs.Adjusting
import VideoCapture.Proofs.Evolution
import VideoCapture.Scripted.Camera

/-!
# A frame for every active consumer

While a consumer is active, whoever asks for a frame gets one. If the open backend delivers, its frame
is the answer. If it does not, the synthetic device takes over at the same geometry and delivers; it
never refuses to be chosen, to open or to deliver. The one thing that it cannot do without is room for
its picture: at a geometry whose frames are longer than any buffer there is no answer at all.

## Main definitions

* `Trace.AdjustsOnly` — calls that only send adjustments to one backend.
* `CaptureState.Delivered` — the open backend delivered the answer.
* `CaptureState.Rescued` — the open backend failed, and the synthetic device delivered the answer.
* `CaptureState.SyntheticOnce` — no backend but the first is the synthetic device.

The main statement is `ControllerBuilder.frame_answered`.
-/

namespace VideoCapture

/-- Nothing but adjustments is sent, all to the backend at position `i`. -/
def Trace.AdjustsOnly (i : Nat) (t : Trace) : Prop :=
  ∀ e ∈ t, ∃ kind value, e = (i, Call.adjust kind value)

@[simp] theorem Logo.size_data_picture (g : Geometry) (l : Logo) :
    (l.picture g).data.size = g.frameSize.byteLength := by
  simp [picture, draw, FrameSize.byteLength, Geometry.frameSize]

namespace CaptureState

variable {β : Type} {s : CaptureState β} {i : Nat} {r : Registered β}

/-! ## The synthetic device is registered once -/

/-- All backends behind the first are of the callers' type. -/
def SyntheticOnce (s : CaptureState β) : Prop :=
  ∀ i r, i ≠ 0 → s.backends[i]? = some r → ∃ b, r.backend = .device b

namespace SyntheticOnce

variable {t : CaptureState β}

theorem of_backends (h : s.SyntheticOnce) (hbackends : t.backends = s.backends) :
    t.SyntheticOnce := by
  rw [SyntheticOnce, hbackends]
  exact h

/-- A backend of the callers' type is one after any call to it. -/
theorem call (h : s.SyntheticOnce) {α : Type} {act : Source β → Reply (Source β) α}
    (hact : ∀ b : β, ∃ b', (act (.device b)).backend = .device b') (describe : α → Call) (i : Nat) :
    (s.call i act describe).2.SyntheticOnce := by
  cases hr : s.backends[i]? with
  | none => rwa [call_of_missing hr]
  | some r =>
    have hbackends := congrArg Custody.backends (custody_call hr act describe)
    simp only [custody, Custody.reply] at hbackends
    intro j q hj hq
    rw [hbackends, List.getElem?_set] at hq
    split at hq
    · rename_i hij
      subst hij
      obtain ⟨b, hb⟩ := h i r hj hr
      obtain ⟨b', hb'⟩ := hact b
      rw [if_pos (List.getElem?_eq_some_iff.mp hr).1] at hq
      obtain rfl := Option.some.inj hq
      exact ⟨b', by rw [hb, hb']⟩
    · exact h j q hj hq

theorem register (h : s.SyntheticOnce) (b : β) (framework : String) :
    (s.register (.device b) framework).SyntheticOnce := by
  intro i r hi hr
  rw [CaptureState.register, List.getElem?_append] at hr
  split at hr
  · exact h i r hi hr
  · obtain rfl := List.mem_singleton.mp (List.mem_of_getElem? hr)
    exact ⟨b, rfl⟩

theorem alter (h : s.SyntheticOnce) (i : Nat) (change : β → β) :
    (s.alter i change).SyntheticOnce := by
  intro j r hj hr
  rw [CaptureState.alter, List.getElem?_modify] at hr
  obtain ⟨q, hq, rfl⟩ := Option.map_eq_some_iff.mp hr
  obtain ⟨b, hb⟩ := h j q hj hq
  split
  · exact ⟨change b, by simp [hb]⟩
  · exact ⟨b, hb⟩

end SyntheticOnce

/-- Only the synthetic device needs room: for a picture at the geometry that it is open at. -/
theorem readHasRoom_of_serving {k : Control} {g : Geometry} (h : s.custody.Serving k i g)
    (honce : s.SyntheticOnce) :
    s.readHasRoom = true ↔ i ≠ 0 ∨ g.frameSize.fits = true := by
  obtain ⟨r, hr⟩ := h.exists_backend h.manager
  have hr : s.backends[i]? = some r := hr
  have hm : s.manager = some i := h.manager
  have ho : s.opened = some g := h.opened
  rw [readHasRoom, hm, ho]
  dsimp only
  rw [hr, Option.all_some]
  by_cases hi : i = 0
  · subst hi
    obtain ⟨l, rfl, hl⟩ := h.first hr
    rw [if_pos h.manager, h.opened] at hl
    simp [Source.hasRoom, Logo.hasRoom_of_opened hl]
  · obtain ⟨b, hb⟩ := honce i r hi hr
    simp [Source.hasRoom, hb, hi]

/-- The backend that is open for the active consumer. -/
theorem Settled.exists_serving_backend {m : Mode} (h : s.Settled) (hm : s.activeMode = some m) :
    ∃ i r, s.custody.Serving s.control i (s.openGeometry m) ∧ s.manager = some i ∧
      s.backends[i]? = some r := by
  obtain ⟨i, hi⟩ := h.serving hm
  rw [← openGeometry_eq] at hi
  obtain ⟨r, hr⟩ := hi.exists_backend hi.manager
  exact ⟨i, r, hi, hi.manager, hr⟩

variable [Backend β]

/-- No move of the controller turns a backend of the callers' type into the synthetic device. -/
theorem Evolves.syntheticOnce {t : CaptureState β} (h : Evolves s t) (hs : s.SyntheticOnce) :
    t.SyntheticOnce := by
  induction h with
  | silent hbackends => exact hs.of_backends hbackends
  | note | report | release | choose | shut => exact hs.of_backends rfl
  | ask s h i =>
    cases h with
    | _ => exact hs.call (fun b => ⟨_, rfl⟩) _ i
  | offer s _ i device => exact hs.call (fun b => ⟨_, rfl⟩) _ i
  | tryOpen s m =>
    cases hm : s.manager with
    | none =>
      simp only [CaptureState.tryOpen, hm]
      exact hs
    | some i =>
      have hasked : (s.call i (Backend.openAt (s.openGeometry m))
          (fun r => Call.openAt (s.openGeometry m) r.toOption)).2.SyntheticOnce :=
        hs.call (fun b => ⟨_, rfl⟩) _ i
      exact hasked.of_backends (backends_tryOpen hm m)
  | trans _ _ ih ih' => exact ih' (ih hs)

theorem syntheticOnce_step (h : s.SyntheticOnce) (e : Step β) : (s.step e).SyntheticOnce := by
  cases e with
  | operation op =>
    by_cases hop : ∀ b, op ≠ .addBackend b
    · exact (evolves_operate hop s).syntheticOnce h
    · obtain ⟨b, rfl⟩ : ∃ b, op = .addBackend b := by simpa using hop
      exact h.register b _
  | handOut => exact h.of_backends rfl
  | stir i change => exact h.alter i change

theorem syntheticOnce_initial (preview stream : Geometry) (backends : List β) :
    (initial preview stream backends).SyntheticOnce := by
  have hstart : ((blank (β := β) preview stream).register (.logo Logo.initial)
      Descriptor.fallbackName).SyntheticOnce := by
    intro i r hi hr
    cases i with
    | zero => exact absurd rfl hi
    | succ i => cases hr
  exact List.foldlRecOn (motive := SyntheticOnce) _ _ hstart fun _ hs b _ => hs.register b _

/-! ## The two ways to an answer -/

/-- As an operation, asking for a frame is asking for it in a buffer of one's own. -/
theorem operate_frame (buffer : Array UInt8) (s : CaptureState β) :
    s.operate .frame =
      (.frame ((s.frameInto buffer).1.1.map fun size => ⟨size, (s.frameInto buffer).1.2⟩),
        (s.frameInto buffer).2) := by
  simp only [operate, frameInto]
  split <;> simp_all

/-- The open backend delivered the answer, and only adjustments were sent to it besides. -/
def Delivered (s t : CaptureState β) (i : Nat) (f : Frame)
    (answer : Option FrameSize × Array UInt8) : Prop :=
  answer = (some f.size, f.data) ∧
    ∃ sent, Trace.AdjustsOnly i sent ∧ t.trace = s.trace ++ (i, .read (some f)) :: sent

/-- The open backend at position `i` failed, and the synthetic device delivered the answer at the
geometry of `m`. -/
structure Rescued (s t : CaptureState β) (i : Nat) (m : Mode)
    (answer : Option FrameSize × Array UInt8) : Prop where
  size : answer.1 = some ⟨(s.openGeometry m).width, (s.openGeometry m).height⟩
  length : answer.2.size = (s.openGeometry m).frameSize.byteLength
  /-- The picture is the first one after the synthetic device has opened. -/
  picture : ∃ l : Logo, s.backends[0]? = some ⟨Descriptor.fallbackName, .logo l⟩ ∧
    answer.2 = (((l.openAt (s.openGeometry m)).advance (s.openGeometry m).width.toNat
      (s.openGeometry m).height.toNat).picture (s.openGeometry m)).data
  calls : ∃ sent, Trace.AdjustsOnly 0 sent ∧
    t.trace = s.trace ++
      [(i, .read none), (i, .close), (0, .setDevice Descriptor.fallback s.channel s.format true),
        (0, .openAt (s.openGeometry m) (some AdjustmentSet.neutral)),
        (0, .read (some ⟨(s.openGeometry m).frameSize, answer.2⟩))] ++ sent
  current : t.current = Descriptor.fallback
  control : t.control = s.control
  opened : t.opened = s.opened
  /-- The synthetic device did not refuse. -/
  chosen : (s.read.2.close.trySelect Descriptor.fallback).1 = true
  /-- It opened at once. -/
  reopened : (s.read.2.close.selectFallback.tryOpen m).1 = true
  /-- No black frame was needed. -/
  delivered : (s.read.2.close.selectFallback.openFor m).read.1.isSome = true

/-! ## Reading and what follows it -/

theorem read_backend (hr : s.backends[i]? = some r) {k : Control} {g : Geometry}
    (h : s.custody.Serving k i g) :
    s.read.1 = (Backend.read r.backend).value.toOption ∧
      s.read.2.custody =
        s.custody.reply i { r with backend := (Backend.read r.backend).backend }
          (.read (Backend.read r.backend).value.toOption) := by
  rw [read_of_opened h.manager h.opened]
  dsimp only
  rw [call_value hr]
  exact ⟨rfl, custody_call hr _ _⟩

/-- After a frame only adjustments are sent, to the backend that delivered it. -/
theorem adjusts_flushAdjustments (hi : i < s.backends.length) (hm : s.manager = some i) :
    s.custody.Talked s.flushAdjustments.custody ∧
      ∃ sent, Trace.AdjustsOnly i sent ∧ s.flushAdjustments.trace = s.trace ++ sent := by
  cases hx : s.requests.exclusiveMode with
  | none =>
    rw [flushAdjustments_of_not_exclusive hx]
    exact ⟨.refl _, [], by simp [Trace.AdjustsOnly], by simp⟩
  | some m =>
    obtain ⟨htalked, htrace, -⟩ := flushAdjustments_of_exclusive hm hi hx
    refine ⟨htalked, _, ?_, htrace⟩
    intro e he
    obtain ⟨change, -, rfl⟩ := List.mem_map.mp he
    exact ⟨change.1, change.2, rfl⟩

/-! ## The synthetic device takes over -/

/-- What the synthetic device does in place of a backend that is closed now. -/
theorem rescue_synthetic {k : Control} {l : Logo} (h : s.custody.Ready k i)
    (hl : s.backends[0]? = some ⟨Descriptor.fallbackName, .logo l⟩) (m : Mode) :
    let g := s.openGeometry m
    let f := ((l.openAt g).advance g.width.toNat g.height.toNat).picture g
    let t := s.selectFallback.openFor m
    (s.trySelect Descriptor.fallback).1 = true ∧ (s.selectFallback.tryOpen m).1 = true ∧
      t.read.1 = some f ∧ t.read.2.current = Descriptor.fallback ∧
      t.read.2.trace = s.trace ++
        [(0, .setDevice Descriptor.fallback s.channel s.format true),
          (0, .openAt g (some AdjustmentSet.neutral)), (0, .read (some f))] ∧
      t.custody.Serving s.control 0 g := by
  intro g f t
  let u := s.selectFallback
  obtain ⟨hchosen, hu⟩ := trySelect_fallback hl
  have hready : u.custody.Ready s.control 0 := ready_selectFallback h.toSound h.closed
  have hgeometry : u.openGeometry m = g := by simp [u, g, openGeometry_eq]
  have hul := first_selectFallback hl
  obtain ⟨hreopened, ht⟩ := tryOpen_synthetic hul hready.manager m
  have hserving := tryOpen_spec hready m
  have hopen : t = (u.tryOpen m).2 := (openFor_eq m u).trans (if_pos hreopened)
  rw [if_pos hreopened, hgeometry, ← hopen] at hserving
  rw [hgeometry, ← hopen] at ht
  have htl : t.custody.backends[0]? =
      some ⟨Descriptor.fallbackName, .logo (Logo.openAt g { l with selected := true })⟩ := by
    rw [ht]
    exact List.getElem?_set_self (List.getElem?_eq_some_iff.mp hul).1
  obtain ⟨hf, hread⟩ := read_synthetic htl hserving.manager hserving.opened rfl
  refine ⟨hchosen, hreopened, hf, ?_, ?_, hserving⟩
  · have hcurrent := congrArg Custody.current hread
    rw [ht, show u.custody = _ from hu] at hcurrent
    exact hcurrent
  · have htrace := congrArg Custody.trace hread
    rw [ht, show u.custody = _ from hu] at htrace
    simp only [custody, Custody.reply, List.append_assoc] at htrace
    exact htrace

section Serving

variable {m : Mode} {k : Control} {g : Geometry}

/-- The synthetic device never fails while it is open. -/
theorem ne_zero_of_failed (h : s.custody.Serving k i g) (hr : s.backends[i]? = some r)
    (hfailed : s.read.1 = none) : i ≠ 0 := by
  rintro rfl
  obtain ⟨l, rfl, hl⟩ := h.first hr
  rw [if_pos h.manager] at hl
  have hdelivered := (read_synthetic hr h.manager h.opened (hl.trans h.opened)).1
  simp [hfailed] at hdelivered

/-- The open backend delivers. -/
theorem delivered (h : s.custody.Serving k i g) (hm : s.activeMode = some m)
    (hr : s.backends[i]? = some r) {f : Frame} (hf : (Backend.read r.backend).value = .ok f)
    (buffer : Array UInt8) :
    Delivered s (s.frameInto buffer).2 i f (s.frameInto buffer).1 := by
  obtain ⟨hvalue, hcustody⟩ := read_backend hr h
  rw [hf] at hvalue hcustody
  have hserving := serving_read h
  obtain ⟨-, sent, honly, hsent⟩ :=
    adjusts_flushAdjustments (hserving.registered i hserving.manager) hserving.manager
  have hactive : s.readActive = (some f, s.read.2.flushAdjustments) := by
    rw [readActive_of_activeMode hm, hvalue]
    rfl
  have htrace : s.read.2.trace = s.trace ++ [(i, .read (some f))] :=
    congrArg Custody.trace hcustody
  rw [frameInto, hactive]
  refine ⟨rfl, sent, honly, ?_⟩
  show s.read.2.flushAdjustments.trace = _
  rw [hsent, htrace, List.append_assoc]
  rfl

/-- A backend that failed is closed, and the synthetic device has not been spoken to. -/
theorem close_of_failed (h : s.custody.Serving k i g) (hr : s.backends[i]? = some r)
    {e : CaptureError} (he : (Backend.read r.backend).value = .error e) :
    s.read.1 = none ∧ s.read.2.close.custody.Ready k i ∧
      s.read.2.close.trace = s.trace ++ [(i, .read none), (i, .close)] ∧
      s.read.2.close.custody.backends[0]? = s.custody.backends[0]? := by
  obtain ⟨hvalue, hread⟩ := read_backend hr h
  rw [he] at hvalue hread
  have hi : i ≠ 0 := ne_zero_of_failed h hr hvalue
  have hopen := serving_read h
  obtain ⟨r', hr'⟩ := hopen.exists_backend hopen.manager
  have hclose := close_of_opened hr' hopen.manager hopen.opened
  rw [hread] at hclose
  refine ⟨hvalue, ready_close hopen, ?_, ?_⟩
  · have htrace := congrArg Custody.trace hclose
    simp only [Custody.reply, List.append_assoc] at htrace
    exact htrace
  · rw [hclose]
    simp [Custody.reply, hi]

/-- The open backend fails, and the synthetic device delivers. -/
theorem rescued (h : s.custody.Serving s.control i (s.openGeometry m)) (hm : s.activeMode = some m)
    (hr : s.backends[i]? = some r) {e : CaptureError}
    (he : (Backend.read r.backend).value = .error e) (buffer : Array UInt8) :
    Rescued s (s.frameInto buffer).2 i m (s.frameInto buffer).1 := by
  let u := s.read.2.close
  obtain ⟨hfailed, hready, htrace, hfirst⟩ := close_of_failed h hr he
  have hcontrol : u.control = s.control := by simp [u]
  have hgeometry : u.openGeometry m = s.openGeometry m := by
    rw [openGeometry_eq, openGeometry_eq, hcontrol]
  have hchannel : u.channel = s.channel := congrArg Control.channel hcontrol
  have hformat : u.format = s.format := congrArg Control.format hcontrol
  obtain ⟨l, hl, -⟩ := h.synthetic
  have hrescue := rescue_synthetic (s := u) hready (hfirst.trans hl) m
  rw [hgeometry, hcontrol] at hrescue
  obtain ⟨hchosen, hreopened, hf, hcurrent, hlater, hopened⟩ := hrescue
  have hserving := serving_read hopened
  obtain ⟨htalked, sent, honly, hsent⟩ :=
    adjusts_flushAdjustments (hserving.registered 0 hserving.manager) hserving.manager
  let g := s.openGeometry m
  let f := ((l.openAt g).advance g.width.toNat g.height.toNat).picture g
  have hactive :
      s.readActive = (some f, (u.selectFallback.openFor m).read.2.flushAdjustments) := by
    rw [readActive_of_activeMode hm, hfailed, readFallback_eq]
    dsimp only
    rw [hf]
    rfl
  rw [frameInto, hactive]
  exact {
    size := rfl
    length := Logo.size_data_picture g _
    picture := ⟨l, hl, rfl⟩
    calls := by
      refine ⟨sent, honly, ?_⟩
      show (u.selectFallback.openFor m).read.2.flushAdjustments.trace = _
      rw [hsent, hlater, htrace, hchannel, hformat, List.append_assoc s.trace]
      rfl
    current := htalked.current.trans hcurrent
    control := by simp [hcontrol]
    opened := (htalked.opened.trans hserving.opened).trans h.opened.symm
    chosen := hchosen
    reopened := hreopened
    delivered := by rw [hf]; rfl }

end Serving

/-! ## Room for a frame -/

/-- There is room for all that is painted until there is a frame, if there is room at the geometry of
the active consumer or if another device than the synthetic one delivers. -/
theorem frameHasRoom_of_serving {m : Mode} (h : s.custody.Serving s.control i (s.openGeometry m))
    (honce : s.SyntheticOnce) (hm : s.activeMode = some m) (hr : s.backends[i]? = some r) :
    s.frameHasRoom = true ↔
      (s.openGeometry m).frameSize.fits = true ∨
        i ≠ 0 ∧ ∃ f, (Backend.read r.backend).value = .ok f := by
  rw [frameHasRoom, hm]
  dsimp only
  rw [Bool.and_eq_true, readHasRoom_of_serving h honce, Bool.or_eq_true]
  cases hv : (Backend.read r.backend).value with
  | ok f =>
    have hdelivered : s.read.1.isSome = true := by
      rw [(read_backend hr h).1, hv]
      rfl
    simp [hdelivered, or_comm]
  | error e =>
    obtain ⟨hfailed, hready, -, hfirst⟩ := close_of_failed h hr hv
    obtain ⟨l, hl, -⟩ := h.synthetic
    obtain ⟨-, -, hf, -, -, hopened⟩ := rescue_synthetic hready (hfirst.trans hl) m
    have hgeometry : s.read.2.close.openGeometry m = s.openGeometry m := by
      simp [openGeometry_eq]
    have hevolves := (((evolves_read s).trans (evolves_close _)).trans
      (evolves_selectFallback _)).trans (evolves_openFor m _)
    have hroom := readHasRoom_of_serving hopened (hevolves.syntheticOnce honce)
    rw [hgeometry] at hroom
    have hi : i ≠ 0 := ne_zero_of_failed h hr hfailed
    simp [hfailed, hi, hroom, hf]

/-! ## The answer -/

section Answer

variable {m : Mode}

/-- There is no answer where the synthetic device has to paint a picture that no buffer has room for. -/
theorem frameInto?_eq_none_iff (h : s.Settled) (honce : s.SyntheticOnce) (buffer : Array UInt8) :
    s.frameInto? buffer = none ↔
      ∃ m i r, s.activeMode = some m ∧ s.manager = some i ∧ s.backends[i]? = some r ∧
        roomLimit ≤ (s.openGeometry m).frameSize.byteLength ∧
        (i = 0 ∨ ∃ e, (Backend.read r.backend).value = .error e) := by
  rw [frameInto?, ite_eq_right_iff]
  cases hm : s.activeMode with
  | none => simp [frameHasRoom, hm]
  | some m =>
    obtain ⟨i, r, hi, hmanager, hr⟩ := h.exists_serving_backend hm
    have hroom := frameHasRoom_of_serving hi honce hm hr
    rw [FrameSize.fits_iff] at hroom
    cases hv : (Backend.read r.backend).value <;> simp [hroom, hmanager, hr, hv]

theorem frameInto_of_frameInto? {buffer : Array UInt8} {answer : Option FrameSize × Array UInt8}
    {t : CaptureState β} (h : s.frameInto? buffer = some (answer, t)) :
    s.frameInto buffer = (answer, t) := by
  rw [frameInto?] at h
  split at h
  · exact Option.some.inj h
  · cases h

theorem frameInto_of_idle (hm : s.activeMode = none) (buffer : Array UInt8) :
    s.frameInto buffer = ((none, buffer), s) := by
  rw [frameInto, readActive_of_idle hm]

/-- While a consumer is active, the open backend or the synthetic device delivers. -/
theorem frameInto_of_active (h : s.Settled) (hm : s.activeMode = some m) (buffer : Array UInt8) :
    ∃ i r, s.manager = some i ∧ s.backends[i]? = some r ∧
      match (Backend.read r.backend).value with
      | .ok f => s.Delivered (s.frameInto buffer).2 i f (s.frameInto buffer).1
      | .error _ => s.Rescued (s.frameInto buffer).2 i m (s.frameInto buffer).1 := by
  obtain ⟨i, r, hi, hmanager, hr⟩ := h.exists_serving_backend hm
  refine ⟨i, r, hmanager, hr, ?_⟩
  cases hv : (Backend.read r.backend).value with
  | ok f => exact delivered hi hm hr hv buffer
  | error e => exact rescued hi hm hr hv buffer

/-- The answer is none exactly while nobody is active. -/
theorem frameInto_eq_none_iff (h : s.Settled) (buffer : Array UInt8) :
    (s.frameInto buffer).1.1 = none ↔ s.activeMode = none := by
  refine ⟨fun hnone => ?_, fun hm => by rw [frameInto_of_idle hm]⟩
  by_contra hne
  obtain ⟨m, hm⟩ := Option.ne_none_iff_exists'.mp hne
  obtain ⟨i, r, -, -, hresult⟩ := frameInto_of_active h hm buffer
  split at hresult
  · simp [hresult.1] at hnone
  · simp [hresult.size] at hnone

end Answer

end CaptureState

namespace ControllerBuilder

variable {β : Type} [Backend β]

theorem syntheticOnce_run (builder : ControllerBuilder β) (steps : List (Step β)) :
    (builder.start.run steps).SyntheticOnce := by
  induction steps using List.reverseRecOn with
  | nil => exact CaptureState.syntheticOnce_initial _ _ _
  | append_singleton steps e ih =>
    rw [CaptureState.run_concat]
    exact CaptureState.syntheticOnce_step ih e

/-- Asking for a frame always comes to an answer, unless the synthetic device has to paint a picture
that no buffer has room for: because it is the open one, or because the open one fails. The answer is
none exactly while nobody is active; then no backend is called and the buffer stays as it is. Otherwise
the open backend delivers it or, should that fail, the synthetic device. -/
theorem frame_answered (builder : ControllerBuilder β) (steps : List (Step β))
    (buffer : Array UInt8) :
    let s := builder.start.run steps
    (s.frameInto? buffer = none ↔
      ∃ m i r, s.activeMode = some m ∧ s.manager = some i ∧ s.backends[i]? = some r ∧
        roomLimit ≤ (s.openGeometry m).frameSize.byteLength ∧
        (i = 0 ∨ ∃ e, (Backend.read r.backend).value = .error e)) ∧
      (∀ answer t, s.frameInto? buffer = some (answer, t) →
        (answer.1 = none ↔ s.activeMode = none) ∧
        (s.activeMode = none → answer.2 = buffer ∧ t = s) ∧
        (∀ m, s.activeMode = some m →
          ∃ i r, s.manager = some i ∧ s.backends[i]? = some r ∧
            match (Backend.read r.backend).value with
            | .ok f => s.Delivered t i f answer
            | .error _ => s.Rescued t i m answer)) ∧
      s.trace.Reliable := by
  intro s
  have hs : s.Settled := builder.settled_run steps
  refine ⟨CaptureState.frameInto?_eq_none_iff hs (builder.syntheticOnce_run steps) buffer, ?_,
    hs.sound.reliable⟩
  intro answer t hanswer
  have hframe : s.frameInto buffer = (answer, t) := CaptureState.frameInto_of_frameInto? hanswer
  refine ⟨?_, fun hm => ?_, fun m hm => ?_⟩
  · have hnone := CaptureState.frameInto_eq_none_iff hs buffer
    rwa [hframe] at hnone
  · rw [CaptureState.frameInto_of_idle hm] at hframe
    obtain ⟨rfl, rfl⟩ := Prod.mk.inj hframe
    exact ⟨rfl, rfl⟩
  · have hactive := CaptureState.frameInto_of_active hs hm buffer
    rwa [hframe] at hactive

/-- A stream of pictures that no buffer has room for, on the synthetic device alone. -/
theorem no_frame_at_long_side :
    let builder : ControllerBuilder Scripted.Camera := ControllerBuilder.default
    let s := builder.start.run
      [.operation (.setStream ⟨3037000500, 3037000500, 30⟩), .operation .startStream]
    s.activeMode = some .stream ∧ s.frameInto? #[] = none := by
  intro builder s
  have hroom : s.frameHasRoom = false := by decide +kernel
  exact ⟨by decide +kernel, by simp [CaptureState.frameInto?, hroom]⟩

end ControllerBuilder

end VideoCapture
