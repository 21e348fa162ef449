import VideoCapture.Proofs.Custody

/-!
# Choosing, opening, reading and closing

What each conversation of the controller with its backends does to the device side. Whatever the
backends answer, the device side stays sound, a chosen device can always be opened, and an active
consumer ends up with an open device.

## Main definitions

* `Trace.refusals` — backends that refuse a device, one after the other.
-/

namespace VideoCapture

/-- `count` backends from position `i` on refuse a device. -/
def Trace.refusals (device : Descriptor) (channel : UInt32) (format : VideoFormat) (i count : Nat) :
    Trace :=
  (List.range' i count).map fun j => (j, Call.setDevice device channel format false)

theorem Trace.refusals_succ (device : Descriptor) (channel : UInt32) (format : VideoFormat)
    (i count : Nat) :
    refusals device channel format i (count + 1) =
      (i, Call.setDevice device channel format false) ::
        refusals device channel format (i + 1) count := by
  simp [refusals, List.range'_succ]

namespace CaptureState

variable {β : Type}

/-! ## Choosing a device -/

theorem channel_call {α : Type} (i : Nat) (act : Source β → Reply (Source β) α)
    (describe : α → Call) (s : CaptureState β) : (s.call i act describe).2.channel = s.channel :=
  congrArg Control.channel (control_call i act describe s)

theorem format_call {α : Type} (i : Nat) (act : Source β → Reply (Source β) α)
    (describe : α → Call) (s : CaptureState β) : (s.call i act describe).2.format = s.format :=
  congrArg Control.format (control_call i act describe s)

variable [Backend β]

theorem talked_offer (device : Descriptor) (count i : Nat) (s : CaptureState β) :
    s.custody.Talked (s.offer device count i).2.custody := by
  induction count generalizing i s with
  | zero => exact .refl _
  | succ count ih =>
    rw [offer_succ]
    dsimp only
    split
    · exact talked_call _ _
    · exact (talked_call _ _).trans (ih _ _)

/-- Asking a backend for a device while none is open keeps the device side sound. -/
theorem sound_ask {s : CaptureState β} (hs : s.custody.Sound) (ho : s.opened = none) (i : Nat)
    (device : Descriptor) :
    (s.call i (Backend.select device s.channel s.format)
      (Call.setDevice device s.channel s.format)).2.custody.Sound := by
  refine sound_call hs (fun l => ⟨_, rfl, rfl⟩) (fun _ _ => rfl)
    (fun _ => hs.isOpen_of_closed ho) ?_
  intro l _ _ hfails
  obtain ⟨hdevice, hrefused⟩ := hfails
  have haccepts : device.isFallback = true := (Descriptor.isFallback_iff device).mpr hdevice
  exact absurd (haccepts.symm.trans hrefused) (by decide)

theorem sound_offer (device : Descriptor) (count i : Nat) {s : CaptureState β}
    (hs : s.custody.Sound) (ho : s.opened = none) :
    (s.offer device count i).2.custody.Sound := by
  induction count generalizing i s with
  | zero => exact hs
  | succ count ih =>
    have hasked := sound_ask hs ho i device
    rw [offer_succ]
    dsimp only
    split
    · exact hasked
    · exact ih (i + 1) hasked ((talked_call _ _).opened.trans ho)

/-- The backends are asked in order, up to the first that accepts. -/
theorem trace_offer (device : Descriptor) (count i : Nat) (s : CaptureState β)
    (hi : i + count ≤ s.backends.length) :
    match (s.offer device count i).1 with
    | none =>
      (s.offer device count i).2.trace =
        s.trace ++ Trace.refusals device s.channel s.format i count
    | some k =>
      i ≤ k ∧ k < i + count ∧
        (s.offer device count i).2.trace =
          s.trace ++ Trace.refusals device s.channel s.format i (k - i) ++
            [(k, .setDevice device s.channel s.format true)] := by
  induction count generalizing i s with
  | zero => simp [offer, Trace.refusals]
  | succ count ih =>
    have hr : s.backends[i]? = some s.backends[i] := List.getElem?_eq_getElem (by omega)
    let act : Source β → Reply (Source β) Bool := Backend.select device s.channel s.format
    let t := (s.call i act (Call.setDevice device s.channel s.format)).2
    have htrace : t.trace = s.trace ++
        [(i, Call.setDevice device s.channel s.format (act s.backends[i].backend).value)] :=
      congrArg Custody.trace (custody_call hr _ _)
    have hlength : t.backends.length = s.backends.length := (talked_call _ _).length
    rw [offer_succ]
    dsimp only
    rw [call_value hr]
    cases haccepted : (act s.backends[i].backend).value with
    | true =>
      rw [haccepted] at htrace
      simpa [act, haccepted, Trace.refusals] using htrace
    | false =>
      rw [haccepted] at htrace
      have hrest := ih (i + 1) t (by omega)
      rw [if_neg (by simp)]
      rw [channel_call, format_call, htrace] at hrest
      cases hk : (t.offer device count (i + 1)).1 with
      | none =>
        rw [hk] at hrest
        simpa [Trace.refusals_succ, t, act] using hrest
      | some k =>
        rw [hk] at hrest
        obtain ⟨hlow, hhigh, hrest⟩ := hrest
        have hsplit : k - i = k - (i + 1) + 1 := by omega
        refine ⟨by omega, by omega, ?_⟩
        rw [hsplit, Trace.refusals_succ]
        simpa [t, act] using hrest

/-- An accepted device is served by the first backend that accepts it. -/
theorem trySelect_of_accepted {device : Descriptor} {s : CaptureState β}
    (h : (s.trySelect device).1 = true) :
    ∃ k, k < s.backends.length ∧ (s.trySelect device).2.manager = some k ∧
      (s.trySelect device).2.current = device ∧
      (s.trySelect device).2.trace =
        s.trace ++ Trace.refusals device s.channel s.format 0 k ++
          [(k, .setDevice device s.channel s.format true)] := by
  have htrace := trace_offer device s.backends.length 0 { s with manager := none } (by simp)
  rw [trySelect_eq] at h ⊢
  dsimp only at h ⊢
  cases hk : ({ s with manager := none }.offer device s.backends.length 0).1 with
  | none => simp [hk] at h
  | some k =>
    rw [hk] at htrace
    obtain ⟨-, hlt, htrace⟩ := htrace
    exact ⟨k, by simpa using hlt, rfl, rfl, htrace⟩

/-- A device that nobody accepts leaves the controller without a chosen backend. -/
theorem trySelect_of_refused {device : Descriptor} {s : CaptureState β}
    (h : (s.trySelect device).1 = false) :
    (s.trySelect device).2.manager = none ∧ (s.trySelect device).2.current = s.current ∧
      (s.trySelect device).2.trace =
        s.trace ++ Trace.refusals device s.channel s.format 0 s.backends.length := by
  have htrace := trace_offer device s.backends.length 0 { s with manager := none } (by simp)
  have htalked := talked_offer device s.backends.length 0 { s with manager := none }
  rw [trySelect_eq] at h ⊢
  dsimp only at h ⊢
  cases hk : ({ s with manager := none }.offer device s.backends.length 0).1 with
  | none =>
    rw [hk] at htrace
    exact ⟨htalked.manager, htalked.current, htrace⟩
  | some k => simp [hk] at h

theorem opened_trySelect (device : Descriptor) (s : CaptureState β) :
    (s.trySelect device).2.opened = s.opened := by
  have htalked := talked_offer device s.backends.length 0 { s with manager := none }
  rw [trySelect_eq]
  dsimp only
  split <;> exact htalked.opened

theorem sound_trySelect (device : Descriptor) {s : CaptureState β} (hs : s.custody.Sound)
    (ho : s.opened = none) : (s.trySelect device).2.custody.Sound := by
  have hfree : { s with manager := none }.custody.Sound := hs.choose ho none s.current (by simp)
  have hoffer := sound_offer device s.backends.length 0 hfree ho
  have htalked := talked_offer device s.backends.length 0 { s with manager := none }
  have htrace := trace_offer device s.backends.length 0 { s with manager := none } (by simp)
  rw [trySelect_eq]
  dsimp only
  split
  · rename_i k hk
    rw [hk] at htrace
    refine hoffer.choose (htalked.opened.trans ho) (some k) device ?_
    rintro i ⟨⟩
    rw [htalked.length]
    exact by simpa [custody] using htrace.2.1
  · exact hoffer

/-! ## Opening the chosen backend -/

section Opening

variable {s : CaptureState β} {i : Nat} {r : Registered β} {m : Mode}

theorem tryOpen_of_opened (hr : s.backends[i]? = some r) (hm : s.manager = some i)
    {settings : AdjustmentSet}
    (hv : (Backend.openAt (s.openGeometry m) r.backend).value = .ok settings) :
    (s.tryOpen m).1 = true ∧
      (s.tryOpen m).2.custody =
        { s.custody.reply i
            { r with backend := (Backend.openAt (s.openGeometry m) r.backend).backend }
            (.openAt (s.openGeometry m) (some settings)) with
          opened := some (s.openGeometry m) } := by
  have hvalue := call_value hr (Backend.openAt (s.openGeometry m))
    (fun r => Call.openAt (s.openGeometry m) r.toOption)
  have hcustody := custody_call hr (Backend.openAt (s.openGeometry m))
    (fun r => Call.openAt (s.openGeometry m) r.toOption)
  rw [hv] at hvalue hcustody
  rw [tryOpen_of_manager hm]
  generalize s.call i (Backend.openAt (s.openGeometry m))
    (fun r => Call.openAt (s.openGeometry m) r.toOption) = reply at hvalue hcustody ⊢
  obtain ⟨v, t⟩ := reply
  subst hvalue
  refine ⟨rfl, ?_⟩
  dsimp only at hcustody ⊢
  rw [custody_setSettings]
  injection hcustody with hbackends hmanager _ hcurrent htrace
  simp only [custody, Custody.reply]
  congr 1

theorem tryOpen_of_failed (hr : s.backends[i]? = some r) (hm : s.manager = some i)
    {e : CaptureError} (hv : (Backend.openAt (s.openGeometry m) r.backend).value = .error e) :
    (s.tryOpen m).1 = false ∧
      (s.tryOpen m).2.custody =
        s.custody.reply i
          { r with backend := (Backend.openAt (s.openGeometry m) r.backend).backend }
          (.openAt (s.openGeometry m) none) := by
  have hvalue := call_value hr (Backend.openAt (s.openGeometry m))
    (fun r => Call.openAt (s.openGeometry m) r.toOption)
  have hcustody := custody_call hr (Backend.openAt (s.openGeometry m))
    (fun r => Call.openAt (s.openGeometry m) r.toOption)
  rw [hv] at hvalue hcustody
  rw [tryOpen_of_manager hm]
  generalize s.call i (Backend.openAt (s.openGeometry m))
    (fun r => Call.openAt (s.openGeometry m) r.toOption) = reply at hvalue hcustody ⊢
  obtain ⟨v, t⟩ := reply
  subst hvalue
  exact ⟨rfl, hcustody⟩

end Opening

/-! ## The synthetic device always serves -/

section Synthetic

variable {s : CaptureState β} {l : Logo}

/-- Asked first, the synthetic device accepts itself. -/
theorem offer_fallback (hl : s.backends[0]? = some ⟨Descriptor.fallbackName, .logo l⟩) (count : Nat) :
    s.offer Descriptor.fallback (count + 1) 0 =
      (some 0, (s.call 0 (Backend.select Descriptor.fallback s.channel s.format)
        (Call.setDevice Descriptor.fallback s.channel s.format)).2) := by
  rw [offer_succ]
  dsimp only
  rw [call_value hl]
  exact if_pos rfl

theorem trySelect_fallback (hl : s.backends[0]? = some ⟨Descriptor.fallbackName, .logo l⟩) :
    (s.trySelect Descriptor.fallback).1 = true ∧
      (s.trySelect Descriptor.fallback).2.custody =
        { s.custody.reply 0 ⟨Descriptor.fallbackName, .logo { l with selected := true }⟩
            (.setDevice Descriptor.fallback s.channel s.format true) with
          manager := some 0, current := Descriptor.fallback } := by
  obtain ⟨count, hcount⟩ : ∃ count, s.backends.length = count + 1 :=
    Nat.exists_eq_add_one.mpr (List.getElem?_eq_some_iff.mp hl).1
  have hoffer := offer_fallback (s := { s with manager := none }) hl count
  have hcustody := custody_call (s := { s with manager := none }) hl
    (Backend.select Descriptor.fallback s.channel s.format)
    (Call.setDevice Descriptor.fallback s.channel s.format)
  rw [← hcount] at hoffer
  rw [trySelect_eq, hoffer]
  refine ⟨rfl, ?_⟩
  injection hcustody with hbackends _ hopened _ htrace
  simp only [custody, Custody.reply]
  congr 1

/-- Once chosen, the synthetic device is still the first backend. -/
theorem first_selectFallback (hl : s.backends[0]? = some ⟨Descriptor.fallbackName, .logo l⟩) :
    s.selectFallback.backends[0]? =
      some ⟨Descriptor.fallbackName, .logo { l with selected := true }⟩ := by
  have hbackends : s.selectFallback.backends = _ :=
    congrArg Custody.backends (trySelect_fallback hl).2
  rw [hbackends]
  exact List.getElem?_set_self (List.getElem?_eq_some_iff.mp hl).1

/-- Once chosen, the synthetic device opens. -/
theorem tryOpen_synthetic (hl : s.backends[0]? = some ⟨Descriptor.fallbackName, .logo l⟩)
    (hm : s.manager = some 0) (m : Mode) :
    (s.tryOpen m).1 = true ∧
      (s.tryOpen m).2.custody =
        { s.custody.reply 0 ⟨Descriptor.fallbackName, .logo (l.openAt (s.openGeometry m))⟩
            (.openAt (s.openGeometry m) (some AdjustmentSet.neutral)) with
          opened := some (s.openGeometry m) } :=
  tryOpen_of_opened hl hm (show _ = Except.ok AdjustmentSet.neutral from rfl)

/-- While it is open, the synthetic device delivers its picture. -/
theorem read_synthetic (hl : s.backends[0]? = some ⟨Descriptor.fallbackName, .logo l⟩)
    (hm : s.manager = some 0) {g : Geometry} (ho : s.opened = some g) (hlo : l.opened = some g) :
    let next := l.advance g.width.toNat g.height.toNat
    s.read.1 = some (next.picture g) ∧
      s.read.2.custody =
        s.custody.reply 0 ⟨Descriptor.fallbackName, .logo next⟩ (.read (some (next.picture g))) := by
  have hreply : (Backend.read (Source.logo (β := β) l)) =
      ⟨.ok ((l.advance g.width.toNat g.height.toNat).picture g), [],
        .logo (l.advance g.width.toNat g.height.toNat)⟩ := by
    show (Logo.read l).mapBackend Source.logo = _
    rw [Logo.read, hlo]
    rfl
  have hcustody := custody_call hl Backend.read (fun r => Call.read r.toOption)
  rw [read_of_opened hm ho]
  dsimp only
  rw [call_value hl, hcustody, hreply]
  exact ⟨rfl, rfl⟩

end Synthetic

/-! ## Choosing never fails -/

section Choosing

variable {s : CaptureState β}

/-- Without an accepting backend the synthetic device is chosen. -/
theorem ready_selectFallback (hs : s.custody.Sound) (ho : s.opened = none) :
    s.selectFallback.custody.Ready s.control 0 := by
  obtain ⟨l, hl, -⟩ := hs.synthetic
  have hcustody : s.selectFallback.custody = _ := (trySelect_fallback hl).2
  have hsound : s.selectFallback.custody.Sound := sound_trySelect Descriptor.fallback hs ho
  rw [hcustody] at hsound ⊢
  refine ⟨hsound, ⟨rfl, ?_, .inr rfl, fun _ => rfl⟩, ho⟩
  simp [Custody.reply, Call.accepted?, control]

theorem ready_trySelect (hs : s.custody.Sound) (ho : s.opened = none) {device : Descriptor}
    (hd : device = s.desired ∨ device = Descriptor.fallback)
    (h : (s.trySelect device).1 = true) :
    ∃ i, (s.trySelect device).2.custody.Ready s.control i := by
  obtain ⟨i, -, hmanager, hcurrent, htrace⟩ := trySelect_of_accepted h
  refine ⟨i, sound_trySelect device hs ho, ⟨hmanager, ?_, ?_, ?_⟩,
    (opened_trySelect device s).trans ho⟩
  · simp only [custody]
    rw [htrace, hcurrent, Trace.selection?_concat]
    rfl
  · simpa [custody, hcurrent, control] using hd
  · intro hfallback
    have hdevice : device = Descriptor.fallback := hcurrent.symm.trans hfallback
    subst hdevice
    obtain ⟨l, hl, -⟩ := hs.synthetic
    have hzero := congrArg Custody.manager (trySelect_fallback hl).2
    exact Option.some.inj (hmanager.symm.trans hzero)

/-- Some backend always ends up chosen. -/
theorem ready_select (hs : s.custody.Sound) (ho : s.opened = none) (device : Descriptor)
    (hd : device = s.desired ∨ device = Descriptor.fallback) :
    ∃ i, (s.select device).custody.Ready s.control i := by
  rw [select_eq]
  split
  · rename_i h
    exact ready_trySelect hs ho hd h
  · have hlast := ready_selectFallback (sound_trySelect device hs ho)
      ((opened_trySelect device s).trans ho)
    rw [control_trySelect] at hlast
    exact ⟨0, hlast⟩

end Choosing

/-! ## Opening never fails -/

section Opening

variable {s : CaptureState β} {k : Control} {i : Nat}

/-- The chosen backend opens at the consumer's geometry, or it stays closed and the choice stands. -/
theorem tryOpen_spec (h : s.custody.Ready k i) (m : Mode) :
    if (s.tryOpen m).1 then (s.tryOpen m).2.custody.Serving k i (s.openGeometry m)
    else (s.tryOpen m).2.custody.Ready k i := by
  obtain ⟨r, hr⟩ := h.exists_backend h.manager
  have hsyn : s.custody.SyntheticAt none := h.syntheticAt_none h.closed
  by_cases hzero : i = 0
  · subst hzero
    obtain ⟨l, hl, -⟩ := hsyn
    obtain ⟨hopened, hcustody⟩ := tryOpen_synthetic hl h.manager m
    rw [if_pos hopened, hcustody]
    exact ⟨h.toSound.reply_opened h.manager h.closed (h.synthetic.reply_zero _ _),
      (h.toSelected.reply rfl).withOpened _, rfl⟩
  cases hv : (Backend.openAt (s.openGeometry m) r.backend).value with
  | ok settings =>
    obtain ⟨hopened, hcustody⟩ := tryOpen_of_opened hr h.manager hv
    rw [if_pos hopened, hcustody]
    refine ⟨h.toSound.reply_opened h.manager h.closed ?_, (h.toSelected.reply rfl).withOpened _, rfl⟩
    rw [if_neg hzero]
    exact hsyn.reply_of_ne hzero _ _
  | error e =>
    obtain ⟨hfailed, hcustody⟩ := tryOpen_of_failed hr h.manager hv
    rw [hfailed, hcustody]
    refine ⟨h.toSound.reply (h.synthetic.reply_of_ne hzero _ _) ?_ (h.isOpen_of_closed h.closed)
      fun hz => absurd hz hzero, h.toSelected.reply rfl, h.closed⟩
    exact (h.isOpen_of_closed h.closed i).symm

/-- A consumer always gets an open device: its chosen one, or the synthetic one in its place. -/
theorem openFor_spec (h : s.custody.Ready s.control i) (m : Mode) :
    ∃ j, (s.openFor m).custody.Serving s.control j (s.openGeometry m) := by
  have hfirst := tryOpen_spec h m
  rw [openFor_eq]
  split
  · rename_i hopened
    rw [if_pos hopened] at hfirst
    exact ⟨i, hfirst⟩
  · rename_i hfailed
    rw [if_neg hfailed] at hfirst
    have hready := ready_selectFallback hfirst.toSound hfirst.closed
    obtain ⟨l, hl, -⟩ := hready.synthetic
    have hsecond := tryOpen_spec hready m
    rw [if_pos (tryOpen_synthetic hl hready.manager m).1] at hsecond
    refine ⟨0, ?_⟩
    simpa [openGeometry_eq] using hsecond

end Opening

/-! ## Closing -/

section Closing

variable {s : CaptureState β} {k : Control} {i : Nat} {g : Geometry}

theorem close_of_opened {r : Registered β} (hr : s.backends[i]? = some r) (hm : s.manager = some i)
    (ho : s.opened = some g) :
    s.close.custody =
      { s.custody.reply i { r with backend := (Backend.close r.backend).backend } .close with
        opened := none } := by
  have hcustody := custody_call (s := { s with opened := none }) hr Backend.close fun _ => Call.close
  unfold close
  split
  · rename_i j _ hj _
    obtain rfl : i = j := Option.some.inj (hm.symm.trans hj)
    exact hcustody
  · rename_i hnone
    exact absurd ho (hnone i g hm)

theorem close_of_closed (ho : s.opened = none) : s.close.custody = s.custody := by
  simp [close, ho, custody, trace]

/-- Closing keeps the choice. -/
theorem ready_close (h : s.custody.Serving k i g) : s.close.custody.Ready k i := by
  obtain ⟨r, hr⟩ := h.exists_backend h.manager
  rw [close_of_opened hr h.manager h.opened]
  refine ⟨h.toSound.reply_closed h.manager h.opened ?_, (h.toSelected.reply rfl).withOpened _, rfl⟩
  by_cases hzero : i = 0
  · subst hzero
    obtain ⟨l, rfl, -⟩ := h.first hr
    exact h.synthetic.reply_zero { l with opened := none } _
  · have hsyn := h.synthetic
    rw [if_neg (by simp [h.manager, hzero])] at hsyn
    exact hsyn.reply_of_ne hzero _ _

/-- Releasing forgets the choice. -/
theorem resting_release (h : s.custody.Serving k i g) : s.release.custody.Resting := by
  have hready := ready_close h
  exact ⟨hready.toSound.choose hready.closed none _ (by simp), rfl, hready.closed⟩

theorem resting_release_of_resting (h : s.custody.Resting) : s.release.custody.Resting := by
  have hclosed := close_of_closed h.closed
  have hsound : s.close.custody.Sound := by rw [hclosed]; exact h.toSound
  have ho : s.close.opened = none := (congrArg Custody.opened hclosed).trans h.closed
  exact ⟨hsound.choose ho none _ (by simp), rfl, ho⟩

end Closing

/-! ## While a device is open -/

section Serving

variable {s : CaptureState β} {k : Control} {i : Nat} {g : Geometry}

theorem serving_read (h : s.custody.Serving k i g) : s.read.2.custody.Serving k i g := by
  rw [read_of_opened h.manager h.opened]
  refine h.of_talked ?_ (talked_call _ _) (selection?_call fun _ => rfl)
  refine sound_call h.toSound ?_ (fun _ _ => rfl)
    (fun _ => h.isOpen_iff_of_opened h.manager h.opened) ?_
  · intro l
    cases hl : l.opened with
    | none => exact ⟨l, by simp [Backend.read, Source.run, Logo.read, Reply.mapBackend, hl], hl⟩
    | some g' =>
      exact ⟨l.advance g'.width.toNat g'.height.toNat,
        by simp [Backend.read, Source.run, Logo.read, Reply.mapBackend, hl], hl⟩
  · intro l hzero hl
    have hopen : l.opened = some g := by
      rw [hl, if_pos (hzero ▸ h.manager)]
      exact h.opened
    simp [Backend.read, Source.run, Logo.read, Reply.mapBackend, hopen, Call.Fails, Except.toOption]

theorem talked_applyAdjustment (m : Mode) (kind : Adjustment) (value : UInt32) :
    s.custody.Talked (s.applyAdjustment i m kind value).custody := by
  simp only [applyAdjustment, custody_setSettings]
  exact talked_call _ _

theorem trace_applyAdjustment (hi : i < s.backends.length) (m : Mode) (kind : Adjustment)
    (value : UInt32) :
    (s.applyAdjustment i m kind value).trace = s.trace ++ [(i, .adjust kind value)] := by
  have hr : s.backends[i]? = some s.backends[i] := List.getElem?_eq_getElem hi
  have hcustody : (s.applyAdjustment i m kind value).custody =
      s.custody.reply i { s.backends[i] with
        backend := (Backend.adjust kind value s.backends[i].backend).backend }
        (.adjust kind value) := by
    simp only [applyAdjustment, custody_setSettings]
    exact custody_call hr _ _
  exact congrArg Custody.trace hcustody

theorem serving_applyAdjustment (h : s.custody.Serving k i g) (m : Mode) (kind : Adjustment)
    (value : UInt32) : (s.applyAdjustment i m kind value).custody.Serving k i g := by
  refine h.of_talked ?_ (talked_applyAdjustment m kind value) ?_
  · simp only [applyAdjustment, custody_setSettings]
    exact sound_call h.toSound (fun l => ⟨l, rfl, rfl⟩) (fun _ _ => rfl)
      (fun _ => h.isOpen_iff_of_opened h.manager h.opened) (fun _ _ _ => id)
  · show (s.applyAdjustment i m kind value).trace.selection? = _
    rw [trace_applyAdjustment (h.registered i h.manager), Trace.selection?_concat]
    rfl

theorem serving_flushAdjustments (h : s.custody.Serving k i g) :
    s.flushAdjustments.custody.Serving k i g := by
  unfold flushAdjustments
  split
  · rename_i j m hj _
    obtain rfl : i = j := Option.some.inj (h.manager.symm.trans hj)
    exact List.foldlRecOn (motive := fun t : CaptureState β => t.custody.Serving k i g) _ _ h
      fun t ht change _ => serving_applyAdjustment ht m change.1 change.2
  · exact h

end Serving

theorem sound_enumerate (count i : Nat) {s : CaptureState β} (hs : s.custody.Sound) :
    (s.enumerate count i).2.custody.Sound ∧ s.custody.Talked (s.enumerate count i).2.custody ∧
      (s.enumerate count i).2.trace.selection? = s.trace.selection? := by
  induction count generalizing i s with
  | zero => exact ⟨hs, .refl _, rfl⟩
  | succ count ih =>
    have hasked : (s.call i Backend.devices fun _ => Call.devices).2.custody.Sound :=
      sound_call hs (fun l => ⟨l, rfl, rfl⟩) (fun _ _ => rfl) (fun _ => trivial) (fun _ _ _ => id)
    obtain ⟨hsound, htalked, hselection⟩ := ih (i + 1) hasked
    exact ⟨hsound, (talked_call _ _).trans htalked,
      hselection.trans (selection?_call fun _ => rfl)⟩

end CaptureState

end VideoCapture
