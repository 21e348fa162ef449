import VideoCapture.Proofs.Custody

/-!
# Conversations with backends

Between taking its lock and releasing it, the controller mostly talks to backends. What such a
conversation may say is fixed for each part of it, and besides what is said it touches neither the
preview loop nor the recorded settings, but for those of the consumer that a device is opened for.

## Main definitions

* `Call.IsPlain`, `Call.Opens`, `Call.Lists`, `Call.Adjusts`, `Call.HasOpened` — the kinds of calls.
* `CaptureState.Adds` — what has been written down between two states.
* `CaptureState.Converses` — between two states there was nothing but a conversation.
-/

namespace VideoCapture

/-- An element of two lists in a row belongs to the second or to the first. -/
theorem append_eq_append_cons {α : Type} {l r before after : List α} {e : α}
    (h : l ++ r = before ++ e :: after) :
    (∃ between, before = l ++ between ∧ r = between ++ e :: after) ∨
      ∃ late, l = before ++ e :: late ∧ after = late ++ r := by
  rcases List.append_eq_append_iff.mp h with ⟨between, hbefore, hr⟩ | ⟨late, hl, htail⟩
  · exact .inl ⟨between, hbefore, hr⟩
  · rcases late with _ | ⟨f, late⟩
    · exact .inl ⟨[], by simpa using hl.symm, by simpa using htail.symm⟩
    · obtain ⟨rfl, rfl⟩ := List.cons.inj htail
      exact .inr ⟨late, hl, rfl⟩

theorem concat_eq_append_cons {α : Type} {l before after : List α} {d e : α}
    (h : l ++ [d] = before ++ e :: after) :
    (∃ late, l = before ++ e :: late ∧ after = late ++ [d]) ∨ l = before ∧ d = e ∧ after = [] := by
  rcases append_eq_append_cons h with ⟨between, rfl, hd⟩ | hlate
  · obtain ⟨rfl, hd⟩ | ⟨late, -, hlate⟩ := List.cons_eq_append_iff.mp hd
    · obtain ⟨rfl, rfl⟩ := List.cons.inj hd
      exact .inr ⟨by simp, rfl, rfl⟩
    · simp at hlate
  · exact .inl hlate

namespace Call

/-- The call neither opens a device nor adjusts it. -/
def IsPlain : Call → Prop
  | openAt .. | adjust .. => False
  | _ => True

/-- The call adjusts nothing, and it opens nothing but at `g`. -/
def Opens (g : Geometry) : Call → Prop
  | openAt h _ => h = g
  | adjust .. => False
  | _ => True

/-- The call asks which devices there are. -/
def Lists : Call → Prop
  | devices => True
  | _ => False

/-- The call sends an adjustment. -/
def Adjusts : Call → Prop
  | adjust .. => True
  | _ => False

/-- The call was an opening, and it succeeded. -/
def HasOpened : Call → Prop
  | openAt _ (some _) => True
  | _ => False

theorem IsPlain.opens {g : Geometry} {c : Call} (h : c.IsPlain) : c.Opens g := by
  cases c with
  | openAt => exact h.elim
  | _ => exact h

theorem Lists.isPlain {c : Call} (h : c.Lists) : c.IsPlain := by
  cases c with
  | devices => trivial
  | _ => exact h.elim

theorem IsPlain.not_adjusts {c : Call} (h : c.IsPlain) : ¬ c.Adjusts := by
  cases c with
  | adjust => exact h.elim
  | _ => exact id

theorem IsPlain.not_hasOpened {c : Call} (h : c.IsPlain) : ¬ c.HasOpened := by
  cases c with
  | openAt => exact h.elim
  | _ => exact id

theorem Opens.not_adjusts {g : Geometry} {c : Call} (h : c.Opens g) : ¬ c.Adjusts := by
  cases c with
  | adjust => exact h.elim
  | _ => exact id

end Call

/-- Calls that neither open a device nor adjust it tell of no other adjustments. -/
theorem Trace.settings?_append {t calls : Trace}
    (h : ∀ e ∈ calls, ¬ e.2.HasOpened ∧ ¬ e.2.Adjusts) :
    (t ++ calls).settings? = t.settings? := by
  induction calls generalizing t with
  | nil => simp
  | cons e rest ih =>
    rw [List.append_cons, ih fun f hf => h f (List.mem_cons_of_mem e hf)]
    obtain ⟨hopen, hadjust⟩ := h e List.mem_cons_self
    obtain ⟨i, c⟩ := e
    cases c with
    | openAt g settings =>
      cases settings with
      | none => simp [Call.settle]
      | some => exact absurd trivial hopen
    | adjust => exact absurd trivial hadjust
    | _ => simp [Call.settle]

theorem Trace.settings?_append_of_isPlain {t calls : Trace} (h : ∀ e ∈ calls, e.2.IsPlain) :
    (t ++ calls).settings? = t.settings? :=
  settings?_append fun e he => ⟨(h e he).not_hasOpened, (h e he).not_adjusts⟩

namespace Effect

/-- The effect is a call of some kind or a notification. -/
def Says (P : Call → Prop) : Effect → Prop
  | called _ c => P c
  | raised _ => True
  | _ => False

theorem Says.mono {P Q : Call → Prop} (h : ∀ c, P c → Q c) {e : Effect} (he : e.Says P) :
    e.Says Q := by
  cases e with
  | called _ c => exact h c he
  | raised => trivial
  | _ => exact he.elim

end Effect

namespace CaptureState

variable {β : Type}

/-! ## What has been written down -/

/-- From one state to the other, all that was written down are effects of one kind. -/
def Adds (P : Effect → Prop) (s t : CaptureState β) : Prop :=
  ∃ more, t.log = s.log ++ more ∧ ∀ e ∈ more, P e

section Adds

variable {P Q : Effect → Prop} {s t u : CaptureState β}

theorem adds_of_log (h : t.log = s.log) : Adds P s t := ⟨[], by simp [h], by simp⟩

theorem Adds.refl (s : CaptureState β) : Adds P s s := adds_of_log rfl

theorem Adds.trans (h : Adds P s t) (h' : Adds P t u) : Adds P s u := by
  obtain ⟨more, hmore, heach⟩ := h
  obtain ⟨rest, hrest, heach'⟩ := h'
  refine ⟨more ++ rest, by rw [hrest, hmore, List.append_assoc], ?_⟩
  intro e he
  rcases List.mem_append.mp he with he | he
  · exact heach e he
  · exact heach' e he

theorem Adds.mono (h : Adds P s t) (hPQ : ∀ e, P e → Q e) : Adds Q s t := by
  obtain ⟨more, hmore, heach⟩ := h
  exact ⟨more, hmore, fun e he => hPQ e (heach e he)⟩

theorem adds_note {e : Effect} (h : P e) (s : CaptureState β) : Adds P s (s.note e) :=
  ⟨[e], rfl, by simpa using h⟩

/-- The calls among what was written down. -/
theorem Adds.exists_calls (h : Adds P s t) :
    ∃ calls : Trace, t.trace = s.trace ++ calls ∧ ∀ e ∈ calls, P (.called e.1 e.2) := by
  obtain ⟨more, hmore, heach⟩ := h
  refine ⟨more.filterMap Effect.call?, by simp [trace, hmore], ?_⟩
  rintro ⟨i, c⟩ he
  obtain ⟨e, hmem, hcall⟩ := List.mem_filterMap.mp he
  have hcalled : e = .called i c := by
    cases e with
    | called => simpa [Effect.call?] using hcall
    | _ => simp [Effect.call?] at hcall
  exact hcalled ▸ heach e hmem

theorem adds_stopLoop (h : P .loopStopped) (s : CaptureState β) : Adds P s s.stopLoop := by
  unfold stopLoop
  split
  · exact (adds_of_log rfl).trans (adds_note h _)
  · exact .refl s

theorem adds_setActive {m : Mode} {active : Bool} (h : P (.switched m active))
    (s : CaptureState β) : Adds P s (s.setActive m active) := by
  cases m <;> exact (adds_of_log rfl).trans (adds_note h _)

end Adds

/-! ## Conversations -/

/-- From one state to the other there was nothing but a conversation of calls of one kind. It left
the preview loop alone, and of the recorded settings it changed at most those of `who`. -/
structure Converses (P : Call → Prop) (who : Option Mode) (s t : CaptureState β) : Prop where
  adds : Adds (Effect.Says P) s t
  loop : t.loop = s.loop
  settings : ∀ m, who ≠ some m → (t.mode m).settings = (s.mode m).settings

namespace Converses

variable {P Q : Call → Prop} {who : Option Mode} {s t u : CaptureState β}

theorem refl (s : CaptureState β) : Converses P who s s := ⟨.refl s, rfl, fun _ _ => rfl⟩

theorem trans (h : Converses P who s t) (h' : Converses P who t u) : Converses P who s u where
  adds := h.adds.trans h'.adds
  loop := h'.loop.trans h.loop
  settings m hm := (h'.settings m hm).trans (h.settings m hm)

/-- A change of who is chosen and what is open is a conversation without words. -/
theorem of_silent (hlog : t.log = s.log) (hloop : t.loop = s.loop)
    (hpreview : t.preview = s.preview) (hstream : t.stream = s.stream) : Converses P who s t where
  adds := adds_of_log hlog
  loop := hloop
  settings m _ := by cases m <;> simp [mode, hpreview, hstream]

theorem mono (h : Converses P who s t) (hPQ : ∀ c, P c → Q c) : Converses Q who s t :=
  ⟨h.adds.mono fun _ => Effect.Says.mono hPQ, h.loop, h.settings⟩

/-- What leaves everybody's settings alone may take part in a conversation on anyone's behalf. -/
theorem onBehalf (h : Converses Call.IsPlain none s t) (g : Geometry) :
    Converses (Call.Opens g) who s t :=
  ⟨h.adds.mono fun _ => Effect.Says.mono fun _ => Call.IsPlain.opens, h.loop,
    fun m _ => h.settings m (by simp)⟩

/-- What plain calls say does not tell of other adjustments. -/
theorem settings?_trace (h : Converses Call.IsPlain who s t) :
    t.trace.settings? = s.trace.settings? := by
  obtain ⟨calls, hcalls, heach⟩ := h.adds.exists_calls
  rw [hcalls]
  exact Trace.settings?_append_of_isPlain heach

theorem foldl {α : Type} {f : CaptureState β → α → CaptureState β}
    (h : ∀ s a, Converses P who s (f s a)) (l : List α) (s : CaptureState β) :
    Converses P who s (l.foldl f s) :=
  List.foldlRecOn (motive := Converses P who s) l f (.refl s) fun t ht a _ => ht.trans (h t a)

end Converses

variable {P : Call → Prop} {who : Option Mode}

theorem settings_setSettings (m n : Mode) (settings : AdjustmentSet) (s : CaptureState β) :
    ((s.setSettings m settings).mode n).settings =
      if n = m then settings else (s.mode n).settings := by
  cases m <;> cases n <;> rfl

theorem converses_setSettings (m : Mode) (settings : AdjustmentSet) (s : CaptureState β) :
    Converses P (some m) s (s.setSettings m settings) where
  adds := adds_of_log (by cases m <;> rfl)
  loop := by cases m <;> rfl
  settings n hn := by
    rw [settings_setSettings, if_neg fun heq => hn (congrArg some heq.symm)]

theorem converses_call {α : Type} {describe : α → Call} (h : ∀ a, P (describe a)) (i : Nat)
    (act : Source β → Reply (Source β) α) (s : CaptureState β) :
    Converses P who s (s.call i act describe).2 := by
  unfold call
  split
  · exact .refl s
  · rename_i r _
    simp only [raiseAll_eq]
    refine ⟨⟨.called i (describe (act r.backend).value) ::
      ((act r.backend).signals.map (Notification.ofSignal r.framework)).map Effect.raised,
      by simp [note], ?_⟩, rfl, fun m _ => by cases m <;> rfl⟩
    intro e he
    rcases List.mem_cons.mp he with rfl | he
    · exact h _
    · obtain ⟨n, -, rfl⟩ := List.mem_map.mp he
      trivial

section Calls

variable [Backend β]

/-! ### Choosing, closing, reading and listing -/

theorem converses_offer (device : Descriptor) (count i : Nat) (s : CaptureState β) :
    Converses Call.IsPlain none s (s.offer device count i).2 := by
  induction count generalizing i s with
  | zero => exact .refl s
  | succ count ih =>
    have hasked : Converses Call.IsPlain none s (s.call i (Backend.select device s.channel s.format)
        (Call.setDevice device s.channel s.format)).2 :=
      converses_call (fun _ => trivial) _ _ s
    rw [offer_succ]
    dsimp only
    split
    · exact hasked
    · exact hasked.trans (ih _ _)

theorem converses_trySelect (device : Descriptor) (s : CaptureState β) :
    Converses Call.IsPlain none s (s.trySelect device).2 := by
  have hfree : Converses Call.IsPlain none s { s with manager := none } :=
    .of_silent rfl rfl rfl rfl
  have hoffer : Converses Call.IsPlain none s
      ({ s with manager := none }.offer device s.backends.length 0).2 :=
    hfree.trans (converses_offer device s.backends.length 0 _)
  rw [trySelect_eq]
  dsimp only
  split
  · exact hoffer.trans (.of_silent rfl rfl rfl rfl)
  · exact hoffer

theorem converses_selectFallback (s : CaptureState β) :
    Converses Call.IsPlain none s s.selectFallback :=
  converses_trySelect Descriptor.fallback s

theorem converses_select (device : Descriptor) (s : CaptureState β) :
    Converses Call.IsPlain none s (s.select device) := by
  rw [select_eq]
  split
  · exact converses_trySelect device s
  · exact (converses_trySelect device s).trans (converses_selectFallback _)

theorem converses_selectDesiredIfNeeded (s : CaptureState β) :
    Converses Call.IsPlain none s s.selectDesiredIfNeeded := by
  unfold selectDesiredIfNeeded
  split
  · exact converses_select s.desired s
  · exact .refl s

theorem converses_close (s : CaptureState β) : Converses Call.IsPlain none s s.close := by
  have hclosed : Converses Call.IsPlain none s { s with opened := none } :=
    .of_silent rfl rfl rfl rfl
  unfold close
  split
  · exact hclosed.trans (converses_call (fun _ => trivial) _ _ _)
  · exact hclosed

theorem converses_release (s : CaptureState β) : Converses Call.IsPlain none s s.release :=
  (converses_close s).trans (.of_silent rfl rfl rfl rfl)

theorem converses_read (s : CaptureState β) : Converses Call.IsPlain none s s.read.2 := by
  cases hm : s.manager with
  | none =>
    rw [read_of_closed (.inl hm)]
    exact .refl s
  | some i =>
    cases ho : s.opened with
    | none =>
      rw [read_of_closed (.inr ho)]
      exact .refl s
    | some g =>
      rw [read_of_opened hm ho]
      exact converses_call (fun _ => trivial) _ _ _

/-- Listing devices says nothing else, so it may go on beside a running loop. -/
theorem converses_enumerate (count i : Nat) (s : CaptureState β) :
    Converses Call.Lists none s (s.enumerate count i).2 := by
  induction count generalizing i s with
  | zero => exact .refl s
  | succ count ih =>
    have hasked : Converses Call.Lists none s
        (s.call i Backend.devices fun _ => Call.devices).2 :=
      converses_call (fun _ => trivial) _ _ s
    exact hasked.trans (ih _ _)

/-! ### Opening for a consumer -/

theorem converses_tryOpen {m : Mode} {g : Geometry} {s : CaptureState β}
    (h : s.control.openGeometry m = g) :
    Converses (Call.Opens g) (some m) s (s.tryOpen m).2 := by
  cases hm : s.manager with
  | none =>
    simp only [tryOpen, hm]
    exact .refl s
  | some i =>
    have hasked : Converses (Call.Opens g) (some m) s
        (s.call i (Backend.openAt (s.openGeometry m))
          (fun r => Call.openAt (s.openGeometry m) r.toOption)).2 :=
      converses_call (fun _ => (openGeometry_eq s m).trans h) _ _ s
    rw [tryOpen_of_manager hm]
    dsimp only
    split
    · refine Converses.trans ?_ (converses_setSettings _ _ _)
      exact hasked.trans (.of_silent rfl rfl rfl rfl)
    · exact hasked

theorem converses_openFor {m : Mode} {g : Geometry} {s : CaptureState β}
    (h : s.control.openGeometry m = g) : Converses (Call.Opens g) (some m) s (s.openFor m) := by
  have hfirst := converses_tryOpen h
  have hsecond : Converses (Call.Opens g) (some m) (s.tryOpen m).2.selectFallback
      ((s.tryOpen m).2.selectFallback.tryOpen m).2 :=
    converses_tryOpen (by simpa using h)
  rw [openFor_eq]
  split
  · exact hfirst
  · exact (hfirst.trans ((converses_selectFallback _).onBehalf g)).trans hsecond

theorem converses_readFallback {m : Mode} {g : Geometry} {s : CaptureState β}
    (h : s.control.openGeometry m = g) :
    Converses (Call.Opens g) (some m) s (s.readFallback m).2 := by
  have hclosed : Converses Call.IsPlain none s s.close.selectFallback :=
    (converses_close s).trans (converses_selectFallback _)
  have hopened : Converses (Call.Opens g) (some m) s.close.selectFallback
      (s.close.selectFallback.openFor m) :=
    converses_openFor (by simpa using h)
  rw [readFallback_eq]
  exact ((hclosed.onBehalf g).trans hopened).trans ((converses_read _).onBehalf g)

/-! ### Adjusting for a consumer -/

theorem converses_applyAdjustment (i : Nat) (m : Mode) (kind : Adjustment) (value : UInt32)
    (s : CaptureState β) :
    Converses Call.Adjusts (some m) s (s.applyAdjustment i m kind value) :=
  (converses_call (fun _ => trivial) _ _ s).trans (converses_setSettings _ _ _)

theorem converses_flushAdjustments (s : CaptureState β) :
    Converses Call.Adjusts s.requests.exclusiveMode s s.flushAdjustments := by
  unfold flushAdjustments
  split
  · rename_i i m _ hm
    rw [hm]
    exact .foldl (fun t (change : Adjustment × UInt32) =>
      converses_applyAdjustment i m change.1 change.2 t) _ _
  · exact .refl s

end Calls

end CaptureState

end VideoCapture
