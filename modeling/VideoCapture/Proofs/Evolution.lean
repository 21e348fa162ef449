import VideoCapture.Proofs.Conversation
import VideoCapture.Proofs.Run

/-!
# What may happen while the lock is held

While the controller holds its lock it only makes moves of a few kinds: it asks a backend, chooses
one, opens the chosen one, forgets what is chosen or open, writes something down, or changes what
callers asked for. Whatever survives each kind of move survives every operation.

## Main definitions

* `CaptureState.raised` — the notifications raised so far.
* `Trace.opening?` — the geometry of the last successful opening.
* `CaptureState.Evolves` — from one state to the other there were only such moves.
* `CaptureState.Posts` — what was raised between two states waits in the outbox.

The main statements are `CaptureState.evolves_operate` and, for what is raised,
`CaptureState.posts_perform`.
-/

namespace VideoCapture

/-- The notification, where that is what was written down. -/
def Effect.raised? : Effect → Option Notification
  | .raised n => some n
  | _ => none

/-- The effect is neither a call nor a notification. -/
def Effect.IsRemark : Effect → Prop
  | called .. | raised _ => False
  | _ => True

/-- Whether the notification tells that a device was opened or closed. -/
def Notification.isSession : Notification → Bool
  | opened .. | closed .. => true
  | _ => false

/-- The geometry of an opening, if the call was one and it succeeded. -/
def Call.opening? : Call → Option Geometry
  | openAt g (some _) => some g
  | _ => none

/-- The geometry of the last successful opening. -/
def Trace.opening? (t : Trace) : Option Geometry :=
  t.foldl (fun last e => e.2.opening?.or last) none

@[simp] theorem Trace.opening?_concat (t : Trace) (i : Nat) (c : Call) :
    opening? (t ++ [(i, c)]) = c.opening?.or t.opening? := by
  simp [opening?]

namespace CaptureState

variable {β : Type}

/-- The notifications raised so far, in order. -/
def raised (s : CaptureState β) : List Notification := s.log.filterMap Effect.raised?

/-- A question to a backend that neither selects nor opens a device, and how it is written down. -/
inductive Asks [Backend β] :
    {α : Type} → (Source β → Reply (Source β) α) → (α → Call) → Prop
  | devices : Asks Backend.devices fun _ => Call.devices
  | close : Asks Backend.close fun _ => Call.close
  | read : Asks Backend.read fun r => Call.read r.toOption
  | adjust (kind : Adjustment) (value : UInt32) :
    Asks (Backend.adjust kind value) fun _ => Call.adjust kind value

/-- From one state to the other the controller made moves of these kinds. -/
inductive Evolves [Backend β] : CaptureState β → CaptureState β → Prop
  /-- What callers asked for changes, or the preview loop. -/
  | silent {s t : CaptureState β} (hbackends : t.backends = s.backends)
    (hmanager : t.manager = s.manager) (hopened : t.opened = s.opened)
    (hcurrent : t.current = s.current) (houtbox : t.outbox = s.outbox) (hlog : t.log = s.log) :
    Evolves s t
  | note (s : CaptureState β) {e : Effect} (h : e.IsRemark) : Evolves s (s.note e)
  /-- The controller raises a notification of its own. -/
  | report (s : CaptureState β) {n : Notification} (h : n.isSession = false) :
    Evolves s (s.raise n)
  /-- Nothing is chosen any more. -/
  | release (s : CaptureState β) (current : Descriptor) :
    Evolves s { s with manager := none, current := current }
  /-- The backend that accepted a device last becomes the manager. -/
  | choose (s : CaptureState β) {i : Nat} {selection : Selection}
    (h : s.trace.selection? = some (i, selection)) :
    Evolves s { s with manager := some i, current := selection.1 }
  /-- Nothing counts as open any more. -/
  | shut (s : CaptureState β) : Evolves s { s with opened := none }
  | ask (s : CaptureState β) {α : Type} {act : Source β → Reply (Source β) α} {describe : α → Call}
    (h : Asks act describe) (i : Nat) : Evolves s (s.call i act describe).2
  /-- While nothing is chosen, a device is offered to a backend. -/
  | offer (s : CaptureState β) (h : s.manager = none) (i : Nat) (device : Descriptor) :
    Evolves s (s.call i (Backend.select device s.channel s.format)
      (Call.setDevice device s.channel s.format)).2
  | tryOpen (s : CaptureState β) (m : Mode) : Evolves s (s.tryOpen m).2
  | trans {s t u : CaptureState β} : Evolves s t → Evolves t u → Evolves s u

namespace Evolves

variable [Backend β] {s t : CaptureState β}

theorem refl (s : CaptureState β) : Evolves s s := .silent rfl rfl rfl rfl rfl rfl

theorem foldl {α : Type} {f : CaptureState β → α → CaptureState β}
    (h : ∀ s a, Evolves s (f s a)) (l : List α) (s : CaptureState β) : Evolves s (l.foldl f s) :=
  List.foldlRecOn (motive := Evolves s) l f (refl s) fun t ht a _ => ht.trans (h t a)

end Evolves

/-! ## The parts of operations -/

section Parts

variable [Backend β]

theorem evolves_setSettings (m : Mode) (settings : AdjustmentSet) (s : CaptureState β) :
    Evolves s (s.setSettings m settings) := by
  cases m <;> exact .silent rfl rfl rfl rfl rfl rfl

theorem evolves_setGeometry (m : Mode) (g : Geometry) (s : CaptureState β) :
    Evolves s (s.setGeometry m g) := by
  cases m <;> exact .silent rfl rfl rfl rfl rfl rfl

theorem evolves_setActive (m : Mode) (active : Bool) (s : CaptureState β) :
    Evolves s (s.setActive m active) := by
  have hupdated : Evolves s (s.updateMode m fun c => { c with active := active }) := by
    cases m <;> exact .silent rfl rfl rfl rfl rfl rfl
  exact hupdated.trans (.note _ trivial)

theorem evolves_syncModes (s : CaptureState β) : Evolves s s.syncModes :=
  .silent rfl rfl rfl rfl rfl rfl

theorem evolves_startLoop (s : CaptureState β) : Evolves s s.startLoop := by
  unfold startLoop
  split
  · exact .refl s
  · refine .trans (.silent ?_ ?_ ?_ ?_ ?_ ?_) (.note _ (e := .loopStarted _ _) trivial) <;> rfl

theorem evolves_stopLoop (s : CaptureState β) : Evolves s s.stopLoop := by
  unfold stopLoop
  split
  · refine .trans (.silent ?_ ?_ ?_ ?_ ?_ ?_) (.note _ (e := .loopStopped) trivial) <;> rfl
  · exact .refl s

theorem evolves_offer (device : Descriptor) (count i : Nat) {s : CaptureState β}
    (h : s.manager = none) : Evolves s (s.offer device count i).2 := by
  induction count generalizing i s with
  | zero => exact .refl s
  | succ count ih =>
    have hasked := Evolves.offer s h i device
    rw [offer_succ]
    dsimp only
    split
    · exact hasked
    · exact hasked.trans (ih (i + 1) ((talked_call _ _).manager.trans h))

theorem evolves_trySelect (device : Descriptor) (s : CaptureState β) :
    Evolves s (s.trySelect device).2 := by
  let free : CaptureState β := { s with manager := none }
  have hoffer : Evolves s (free.offer device s.backends.length 0).2 :=
    (Evolves.release s s.current).trans (evolves_offer device _ 0 rfl)
  have htrace := trace_offer device s.backends.length 0 free (by simp [free])
  rw [trySelect_eq]
  dsimp only
  split
  · rename_i i hi
    rw [hi] at htrace
    have haccepted : (free.offer device s.backends.length 0).2.trace.selection? =
        some (i, device, s.channel, s.format) := by
      rw [htrace.2.2, Trace.selection?_concat]
      rfl
    exact hoffer.trans (.choose _ haccepted)
  · exact hoffer

theorem evolves_selectFallback (s : CaptureState β) : Evolves s s.selectFallback :=
  evolves_trySelect Descriptor.fallback s

theorem evolves_select (device : Descriptor) (s : CaptureState β) :
    Evolves s (s.select device) := by
  rw [select_eq]
  split
  · exact evolves_trySelect device s
  · exact (evolves_trySelect device s).trans (evolves_selectFallback _)

theorem evolves_selectDesiredIfNeeded (s : CaptureState β) :
    Evolves s s.selectDesiredIfNeeded := by
  unfold selectDesiredIfNeeded
  split
  · exact evolves_select s.desired s
  · exact .refl s

theorem evolves_openFor (m : Mode) (s : CaptureState β) : Evolves s (s.openFor m) := by
  have hfirst := Evolves.tryOpen s m
  rw [openFor_eq]
  split
  · exact hfirst
  · exact (hfirst.trans (evolves_selectFallback _)).trans (.tryOpen _ m)

theorem evolves_close (s : CaptureState β) : Evolves s s.close := by
  unfold close
  split
  · exact (Evolves.shut s).trans (.ask _ .close _)
  · exact .shut s

theorem evolves_release (s : CaptureState β) : Evolves s s.release :=
  (evolves_close s).trans (.release _ _)

theorem evolves_read (s : CaptureState β) : Evolves s s.read.2 := by
  cases hm : s.manager with
  | none =>
    rw [read_of_closed (.inl hm)]
    exact .refl s
  | some i =>
    cases ho : s.opened with
    | none =>
      rw [read_of_closed (.inr ho)]
      exact .refl s
    | some g =>
      rw [read_of_opened hm ho]
      exact .ask s .read i

theorem evolves_flushAdjustments (s : CaptureState β) : Evolves s s.flushAdjustments := by
  unfold flushAdjustments
  split
  · refine .foldl (fun t change => ?_) _ _
    exact (Evolves.ask t (.adjust change.1 change.2) _).trans (evolves_setSettings _ _ _)
  · exact .refl s

theorem evolves_readFallback (m : Mode) (s : CaptureState β) : Evolves s (s.readFallback m).2 := by
  rw [readFallback_eq]
  exact (((evolves_close s).trans (evolves_selectFallback _)).trans (evolves_openFor m _)).trans
    (evolves_read _)

theorem evolves_readActive (s : CaptureState β) : Evolves s s.readActive.2 := by
  cases hm : s.activeMode with
  | none =>
    rw [readActive_of_idle hm]
    exact .refl s
  | some m =>
    rw [readActive_of_activeMode hm]
    split
    · exact (evolves_read s).trans (evolves_flushAdjustments _)
    · exact ((evolves_read s).trans (evolves_readFallback m _)).trans (evolves_flushAdjustments _)

theorem evolves_pull (s : CaptureState β) : Evolves s s.pull := by
  let t : CaptureState β := { s with loop := { s.loop with due := false } }
  have ht : Evolves s t := .silent rfl rfl rfl rfl rfl rfl
  have hread : Evolves s t.readActive.2 := ht.trans (evolves_readActive t)
  simp only [pull]
  split
  · split
    · rename_i frame u hu
      have hu' : t.readActive.2 = u := by rw [hu]
      exact (hu' ▸ hread).trans (.note u trivial)
    · rename_i u hu
      have hu' : t.readActive.2 = u := by rw [hu]
      exact hu' ▸ hread
  · exact ht

theorem evolves_swap (device : Descriptor) (s : CaptureState β) : Evolves s (s.swap device) := by
  have hstopped : Evolves s (if s.previewOnly then s.stopLoop else s) := by
    split
    · exact evolves_stopLoop s
    · exact .refl s
  have hclosed (t : CaptureState β) : Evolves t (if t.anyActive then t.close else t) := by
    split
    · exact evolves_close t
    · exact .refl t
  have hpreview (t : CaptureState β) :
      Evolves t (if s.previewOnly then (t.openFor .preview).startLoop else t) := by
    split
    · exact (evolves_openFor .preview t).trans (evolves_startLoop _)
    · exact .refl t
  have hstream (t : CaptureState β) :
      Evolves t (if t.stream.active then t.openFor .stream else t) := by
    split
    · exact evolves_openFor .stream t
    · exact .refl t
  exact (((hstopped.trans (hclosed _)).trans (evolves_select device _)).trans (hpreview _)).trans
    (hstream _)

theorem evolves_enumerate (count i : Nat) (s : CaptureState β) :
    Evolves s (s.enumerate count i).2 := by
  induction count generalizing i s with
  | zero => exact .refl s
  | succ count ih => exact (Evolves.ask s .devices i).trans (ih _ _)

end Parts

/-! ## Operations -/

section Operations

variable [Backend β]

theorem evolves_setDevice (device : Descriptor) (channel : UInt32) (format : VideoFormat)
    (s : CaptureState β) : Evolves s (s.setDevice device channel format) := by
  let t : CaptureState β := { s with desired := device, channel := channel, format := format }
  have ht : Evolves s t := .silent rfl rfl rfl rfl rfl rfl
  show Evolves s (if t.anyActive then t.swap device else t)
  split
  · exact ht.trans (evolves_swap device t)
  · exact ht

theorem evolves_setPreview (g : Geometry) (s : CaptureState β) : Evolves s (s.setPreview g) := by
  unfold setPreview
  split
  · exact ((((evolves_stopLoop s).trans (evolves_close _)).trans
      (evolves_setGeometry .preview g _)).trans (evolves_openFor .preview _)).trans
      (evolves_startLoop _)
  · exact evolves_setGeometry .preview g s

theorem evolves_startPreview (s : CaptureState β) : Evolves s s.startPreview := by
  simp only [startPreview]
  split
  · exact .refl s
  · refine .trans ?_ (evolves_syncModes _)
    have hswitched := evolves_setActive .preview true s
    split
    · exact hswitched
    · exact ((hswitched.trans (evolves_selectDesiredIfNeeded _)).trans
        (evolves_openFor .preview _)).trans (evolves_startLoop _)

theorem evolves_stopPreview (s : CaptureState β) : Evolves s s.stopPreview := by
  simp only [stopPreview]
  split
  · refine .trans ?_ (evolves_syncModes _)
    have hswitched := evolves_setActive .preview false s
    split
    · exact hswitched
    · exact (hswitched.trans (evolves_stopLoop _)).trans (evolves_release _)
  · exact .refl s

theorem evolves_startStream (s : CaptureState β) : Evolves s s.startStream := by
  simp only [startStream]
  split
  · exact .refl s
  · let t : CaptureState β := { s with liveStream := s.stream.geometry }
    have ht : Evolves s t := .silent rfl rfl rfl rfl rfl rfl
    refine .trans (ht.trans ?_) (evolves_syncModes _)
    split
    · have hswitched := (evolves_stopLoop t).trans (evolves_setActive .stream true _)
      split
      · exact hswitched.trans (evolves_setSettings _ _ _)
      · exact (hswitched.trans (evolves_close _)).trans (evolves_openFor .stream _)
    · exact ((evolves_setActive .stream true t).trans (evolves_selectDesiredIfNeeded _)).trans
        (evolves_openFor .stream _)

theorem evolves_stopStream (s : CaptureState β) : Evolves s s.stopStream := by
  simp only [stopStream]
  split
  · refine .trans ?_ (evolves_syncModes _)
    have hswitched := evolves_setActive .stream false s
    split
    · refine .trans ?_ (evolves_startLoop _)
      split
      · exact hswitched.trans (evolves_setSettings _ _ _)
      · exact (hswitched.trans (evolves_close _)).trans (evolves_openFor .preview _)
    · exact hswitched.trans (evolves_release _)
  · exact .refl s

theorem evolves_addDevice (s : CaptureState β) (device : Descriptor) :
    Evolves s (s.addDevice device) := by
  simp only [addDevice]
  refine .trans ?_ (.report _ rfl)
  split
  · exact evolves_swap device s
  · exact .refl s

theorem evolves_removeDevice (s : CaptureState β) (device : Descriptor) :
    Evolves s (s.removeDevice device) := by
  simp only [removeDevice]
  refine .trans ?_ (.report _ rfl)
  split
  · exact evolves_swap _ s
  · exact .refl s

theorem evolves_shutDown (s : CaptureState β) : Evolves s s.shutDown :=
  ((((evolves_stopLoop s).trans (evolves_setActive .preview false _)).trans
    (evolves_setActive .stream false _)).trans (evolves_release _)).trans (evolves_syncModes _)

/-- Every operation but the registration of a backend is made of such moves. -/
theorem evolves_operate {op : Operation β} (hop : ∀ b, op ≠ .addBackend b) (s : CaptureState β) :
    Evolves s (s.operate op).2 := by
  cases op with
  | setDevice device channel format => exact evolves_setDevice device channel format s
  | setPreview g => exact evolves_setPreview g s
  | setStream g => exact evolves_setGeometry .stream g s
  | startPreview => exact evolves_startPreview s
  | stopPreview => exact evolves_stopPreview s
  | startStream => exact evolves_startStream s
  | stopStream => exact evolves_stopStream s
  | frame => exact evolves_readActive s
  | pull => exact evolves_pull s
  | adjust kind value => exact .silent rfl rfl rfl rfl rfl rfl
  | addDevice => exact .foldl evolves_addDevice _ s
  | removeDevice => exact .foldl evolves_removeDevice _ s
  | addBackend b => exact absurd rfl (hop b)
  | enumerate => exact evolves_enumerate _ 0 s
  | mode => exact .refl s
  | shutDown => exact evolves_shutDown s

end Operations

/-! ## One call -/

section Call

variable {α : Type} {i : Nat} {s : CaptureState β} {r : Registered β}

/-- A call is written down before the signals raised during it. -/
theorem log_call (h : s.backends[i]? = some r) (act : Source β → Reply (Source β) α)
    (describe : α → Call) :
    (s.call i act describe).2.log =
      s.log ++ .called i (describe (act r.backend).value) ::
        ((act r.backend).signals.map (Notification.ofSignal r.framework)).map Effect.raised := by
  simp [call, h, raiseAll_eq, note]

theorem call_of_missing (h : s.backends[i]? = none) (act : Source β → Reply (Source β) α)
    (describe : α → Call) : s.call i act describe = (none, s) := by
  simp [call, h]

end Call

/-! ## What is raised waits in the outbox -/

/-- From one state to the other notifications may have been raised, and those wait in the outbox
behind the others. -/
def Posts (s t : CaptureState β) : Prop :=
  ∃ news, t.raised = s.raised ++ news ∧ t.outbox = s.outbox ++ news

section Posts

variable {s t u : CaptureState β}

theorem posts_of_silent (hlog : t.log = s.log) (houtbox : t.outbox = s.outbox) : Posts s t :=
  ⟨[], by simp [raised, hlog], by simp [houtbox]⟩

theorem Posts.trans (h : Posts s t) (h' : Posts t u) : Posts s u := by
  obtain ⟨news, hraised, houtbox⟩ := h
  obtain ⟨more, hraised', houtbox'⟩ := h'
  exact ⟨news ++ more, by rw [hraised', hraised, List.append_assoc],
    by rw [houtbox', houtbox, List.append_assoc]⟩

theorem posts_note {e : Effect} (h : e.IsRemark) (s : CaptureState β) : Posts s (s.note e) := by
  refine ⟨[], ?_, by simp [note]⟩
  cases e with
  | called | raised => exact h.elim
  | _ => simp [raised, note, Effect.raised?]

theorem posts_raise (n : Notification) (s : CaptureState β) : Posts s (s.raise n) :=
  ⟨[n], by simp [raised, raise, note, Effect.raised?], rfl⟩

theorem posts_call {α : Type} (i : Nat) (act : Source β → Reply (Source β) α)
    (describe : α → Call) (s : CaptureState β) : Posts s (s.call i act describe).2 := by
  cases h : s.backends[i]? with
  | none =>
    rw [call_of_missing h]
    exact posts_of_silent rfl rfl
  | some r =>
    refine ⟨(act r.backend).signals.map (Notification.ofSignal r.framework), ?_, ?_⟩
    · rw [raised, log_call h, List.filterMap_append, List.filterMap_cons_none rfl]
      simp [raised, List.filterMap_map, Function.comp_def, Effect.raised?]
    · simp [call, h, raiseAll_eq, note]

variable [Backend β]

theorem posts_tryOpen (m : Mode) (s : CaptureState β) : Posts s (s.tryOpen m).2 := by
  cases hm : s.manager with
  | none =>
    simp only [tryOpen, hm]
    exact posts_of_silent rfl rfl
  | some i =>
    have hasked : Posts s (s.call i (Backend.openAt (s.openGeometry m))
        (fun r => Call.openAt (s.openGeometry m) r.toOption)).2 := posts_call _ _ _ s
    rw [tryOpen_of_manager hm]
    dsimp only
    split
    · exact hasked.trans (posts_of_silent (by cases m <;> rfl) (by cases m <;> rfl))
    · exact hasked

theorem Evolves.posts (h : Evolves s t) : Posts s t := by
  induction h with
  | silent _ _ _ _ houtbox hlog => exact posts_of_silent hlog houtbox
  | note s h => exact posts_note h s
  | report s h => exact posts_raise _ s
  | release | choose | shut => exact posts_of_silent rfl rfl
  | ask s _ i => exact posts_call i _ _ s
  | offer s _ i => exact posts_call i _ _ s
  | tryOpen s m => exact posts_tryOpen m s
  | trans _ _ ih ih' => exact ih.trans ih'

theorem posts_operate (op : Operation β) (s : CaptureState β) : Posts s (s.operate op).2 := by
  by_cases hop : ∀ b, op ≠ .addBackend b
  · exact (evolves_operate hop s).posts
  · obtain ⟨b, rfl⟩ : ∃ b, op = .addBackend b := by simpa using hop
    exact posts_of_silent rfl rfl

/-- What an operation raises waits in the outbox, and so does what the pull raises that follows it. -/
theorem posts_perform (eager : Bool) (op : Operation β) (s : CaptureState β) :
    Posts s (s.perform eager op).2 := by
  have hoperated := posts_operate op s
  rcases perform_cases eager op s with hsame | hpulled
  · rw [hsame]
    exact hoperated
  · rw [hpulled]
    exact hoperated.trans (evolves_pull _).posts

end Posts

/-! ## No pull is left over -/

section Pulls

variable [Backend β]

theorem loop_readActive (s : CaptureState β) : s.readActive.2.loop = s.loop := by
  cases hm : s.activeMode with
  | none => rw [readActive_of_idle hm]
  | some m =>
    have hread : s.read.2.loop = s.loop := (converses_read s).loop
    rw [readActive_of_activeMode hm]
    split
    · exact (converses_flushAdjustments _).loop.trans hread
    · have hrescued : (s.read.2.readFallback m).2.loop = s.read.2.loop :=
        (converses_readFallback rfl).loop
      exact ((converses_flushAdjustments _).loop.trans hrescued).trans hread

theorem due_pull (s : CaptureState β) : s.pull.loop.due = false := by
  let t : CaptureState β := { s with loop := { s.loop with due := false } }
  have hread : t.readActive.2.loop.due = false := congrArg LoopStatus.due (loop_readActive t)
  simp only [pull]
  split
  · split
    · rename_i frame u hu
      have hu' : t.readActive.2 = u := by rw [hu]
      exact hu' ▸ hread
    · rename_i u hu
      have hu' : t.readActive.2 = u := by rw [hu]
      exact hu' ▸ hread
  · rfl

/-- The pull of an eager loop that an operation started belongs to the operation. -/
theorem due_perform {eager : Bool} (heager : eager = true) (op : Operation β) (s : CaptureState β) :
    (s.perform eager op).2.loop.due = false := by
  subst heager
  show (if (s.operate op).2.loop.due then (s.operate op).2.pull else (s.operate op).2).loop.due =
    false
  split
  · exact due_pull _
  · rename_i hdue
    exact Bool.eq_false_iff.mpr hdue

/-- The operations after which nothing is handed out raise nothing, unless a pull is left over. -/
theorem outbox_perform {op : Operation β} (hop : op.dispatches = false) {s : CaptureState β}
    {eager : Bool} (hdue : eager = true → s.loop.due = false) :
    (s.perform eager op).2.outbox = s.outbox ∧ (s.perform eager op).2.log = s.log := by
  have hnever : (eager && s.loop.due) = false := by
    cases eager with
    | false => rfl
    | true => exact hdue rfl
  cases op with
  | adjust kind value =>
    show (if eager && s.loop.due then _ else _ : CaptureState β).outbox = _ ∧
      (if eager && s.loop.due then _ else _ : CaptureState β).log = _
    rw [hnever]
    exact ⟨rfl, rfl⟩
  | mode =>
    show (if eager && s.loop.due then _ else _ : CaptureState β).outbox = _ ∧
      (if eager && s.loop.due then _ else _ : CaptureState β).log = _
    rw [hnever]
    exact ⟨rfl, rfl⟩
  | _ => simp [Operation.dispatches] at hop

end Pulls

end CaptureState

/-- At its beginning a controller has raised nothing, and nothing is due. -/
theorem ControllerBuilder.quiet_start {β : Type} [Backend β] (builder : ControllerBuilder β) :
    builder.start.raised = [] ∧ builder.start.outbox = [] ∧ builder.start.loop.due = false :=
  List.foldlRecOn
    (motive := fun s : CaptureState β => s.raised = [] ∧ s.outbox = [] ∧ s.loop.due = false)
    _ _ ⟨rfl, rfl, rfl⟩ fun _ hs _ _ => hs

end VideoCapture
