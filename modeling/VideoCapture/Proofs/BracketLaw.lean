import VideoCapture.Proofs.Brackets

/-!
# The law of the brackets

In every reachable state of a controller whose backends announce their devices, the openings and
closings raised so far come in pairs, but for a last opening while a consumer is active. That opening
is for the current device at the geometry at which it is open.

## Main statements

* `CaptureState.Evolves.announced` — no move of the controller that keeps the rules breaks a bracket.
* `ControllerBuilder.sessions_bracketed` — the law.
-/

namespace VideoCapture

theorem Trace.Disciplined.of_append {t more : Trace} (h : Disciplined (t ++ more)) :
    t.Disciplined := by
  intro before i c after heq
  exact h before i c (after ++ more) (by rw [heq, List.append_assoc, List.cons_append])

/-- The last call was allowed. -/
theorem Trace.Disciplined.permits {t : Trace} {i : Nat} {c : Call}
    (h : Disciplined (t ++ [(i, c)])) : t.Permits i c := h t i c [] rfl

namespace CaptureState

variable {β : Type} {chosen held : Source β → Option Descriptor} {s t : CaptureState β}

theorem exists_log_call {α : Type} (i : Nat) (act : Source β → Reply (Source β) α)
    (describe : α → Call) (s : CaptureState β) :
    ∃ more, (s.call i act describe).2.log = s.log ++ more := by
  cases h : s.backends[i]? with
  | none =>
    rw [call_of_missing h]
    exact ⟨[], (List.append_nil _).symm⟩
  | some r => exact ⟨_, log_call h act describe⟩

/-- Whatever is chosen next, it is what was accepted last. -/
theorem Announced.rechoose (h : s.Announced chosen held) (manager : Option Nat)
    (current : Descriptor)
    (hm : ∀ i, manager = some i →
      ∃ channel format, s.trace.selection? = some (i, current, channel, format)) :
    Announced chosen held { s with manager := manager, current := current } :=
  ⟨h.choice, hm, h.opening, h.closed, h.bracketed⟩

variable [Backend β]

/-- An opening writes down what the call to the backend does. -/
theorem log_tryOpen {i : Nat} (hm : s.manager = some i) (m : Mode) :
    (s.tryOpen m).2.log = (s.call i (Backend.openAt (s.openGeometry m))
      (fun r => Call.openAt (s.openGeometry m) r.toOption)).2.log := by
  rw [tryOpen_of_manager hm]
  dsimp only
  split
  · cases m <;> rfl
  · rfl

/-- Nothing that was written down is ever lost. -/
theorem Evolves.log (h : Evolves s t) : ∃ more, t.log = s.log ++ more := by
  induction h with
  | silent _ _ _ _ _ hlog => exact ⟨[], by rw [hlog, List.append_nil]⟩
  | note s _ => exact ⟨_, rfl⟩
  | report s _ => exact ⟨_, rfl⟩
  | release | choose | shut => exact ⟨[], (List.append_nil _).symm⟩
  | ask s _ i => exact exists_log_call i _ _ s
  | offer s _ i => exact exists_log_call i _ _ s
  | tryOpen s m =>
    cases hm : s.manager with
    | none =>
      simp only [CaptureState.tryOpen, hm]
      exact ⟨[], (List.append_nil _).symm⟩
    | some i =>
      rw [log_tryOpen hm]
      exact exists_log_call i _ _ s
  | trans _ _ ih ih' =>
    obtain ⟨more, hmore⟩ := ih
    obtain ⟨rest, hrest⟩ := ih'
    exact ⟨more ++ rest, by rw [hrest, hmore, List.append_assoc]⟩

theorem Evolves.disciplined (h : Evolves s t) (ht : t.trace.Disciplined) :
    s.trace.Disciplined := by
  obtain ⟨more, hmore⟩ := h.log
  rw [trace, hmore, List.filterMap_append] at ht
  exact ht.of_append

/-- A question that the rules allow breaks no bracket. -/
theorem Announced.ask (hβ : Backend.Announces (Source β) chosen held) (h : s.Announced chosen held)
    {α : Type} {act : Source β → Reply (Source β) α} {describe : α → Call}
    (hask : Asks act describe) {i : Nat}
    (ht : (s.call i act describe).2.trace.Disciplined) :
    (s.call i act describe).2.Announced chosen held := by
  cases hr : s.backends[i]? with
  | none => rwa [call_of_missing hr]
  | some r =>
    have hans := answered_call chosen held hr act describe
    have hview := getElem?_views chosen held hr
    have hkept (hkeeps : (act r.backend).Keeps chosen held r.backend)
        (haccepted : (describe (act r.backend).value).accepted? = none)
        (hopening : (describe (act r.backend).value).opening? = none)
        (hholds : ∀ b, (describe (act r.backend).value).holds b = b) :
        (s.call i act describe).2.Announced chosen held := by
      rw [hkeeps.chosen, hkeeps.held] at hans
      exact h.kept hans hview (Signal.isSession_of_mem_told hkeeps.sessions) haccepted hopening
        (hholds _)
    cases hask with
    | devices => exact hkept (hβ.devices _) rfl rfl fun _ => rfl
    | read => exact hkept (hβ.read _) rfl rfl fun _ => rfl
    | adjust kind value => exact hkept (hβ.adjust kind value _) rfl rfl fun _ => rfl
    | close =>
      rw [hans.trace] at ht
      have hiff : ∀ j, s.trace.isOpen j = true ↔ j = i := ht.permits
      obtain ⟨o, -, hagree⟩ := h.bracketed
      obtain ⟨x, choice, -, -, -, hx, -⟩ := hagree.exists_of_open ((hiff i).mpr rfl)
      obtain ⟨-, -, hheld⟩ : _ ∧ _ ∧ held r.backend = some x.device := by
        simpa using hview.symm.trans hx
      obtain ⟨hsessions, hchosen, hfree⟩ := hβ.closed _ _ hheld
      obtain ⟨before, after, htold, hbefore, hafter, -⟩ :=
        Signal.exists_told r.framework hsessions
      rw [hheld] at hview
      rw [hchosen, hfree, htold] at hans
      exact h.shut hview hans hiff hbefore hafter

/-- Offering a device breaks no bracket. -/
theorem Announced.offer (hβ : Backend.Announces (Source β) chosen held)
    (h : s.Announced chosen held) (hm : s.manager = none) {i : Nat} {device : Descriptor}
    (ht : (s.call i (Backend.select device s.channel s.format)
      (Call.setDevice device s.channel s.format)).2.trace.Disciplined) :
    (s.call i (Backend.select device s.channel s.format)
      (Call.setDevice device s.channel s.format)).2.Announced chosen held := by
  cases hr : s.backends[i]? with
  | none => rwa [call_of_missing hr]
  | some r =>
    have hans := answered_call chosen held hr
      (Backend.select device s.channel s.format) (Call.setDevice device s.channel s.format)
    have hview := getElem?_views chosen held hr
    rw [hans.trace] at ht
    have hclosed : ∀ j, s.trace.isOpen j = false := ht.permits
    have hfree : held r.backend = none := h.closed i _ (hclosed i) hview
    cases haccepted : (Backend.select device s.channel s.format r.backend).value with
    | false =>
      have hkeeps := hβ.refused _ _ _ _ hfree haccepted
      rw [hkeeps.chosen, hkeeps.held, haccepted] at hans
      exact h.kept hans hview (Signal.isSession_of_mem_told hkeeps.sessions) rfl rfl rfl
    | true =>
      obtain ⟨hsessions, hchosen, hheld⟩ := hβ.accepted _ _ _ _ hfree haccepted
      rw [haccepted] at hans
      exact h.accepted hans hm hclosed hchosen hheld (Signal.isSession_of_mem_told hsessions)

/-- Opening the chosen device, or failing to, breaks no bracket. -/
theorem Announced.tryOpen (hβ : Backend.Announces (Source β) chosen held)
    (h : s.Announced chosen held) {m : Mode} (ht : (s.tryOpen m).2.trace.Disciplined) :
    (s.tryOpen m).2.Announced chosen held := by
  cases hm : s.manager with
  | none =>
    simp only [CaptureState.tryOpen, hm]
    exact h
  | some i =>
    obtain ⟨channel, format, hselection⟩ := h.current i hm
    obtain ⟨v, hv, hvchosen⟩ := h.choice i _ _ _ hselection
    obtain ⟨r, hr, rfl⟩ : ∃ r, s.backends[i]? = some r ∧
        (⟨r.framework, chosen r.backend, held r.backend⟩ : View) = v := by
      simpa [views] using hv
    have hans := answered_call chosen held hr
      (Backend.openAt (s.openGeometry m)) (fun r => Call.openAt (s.openGeometry m) r.toOption)
    have hvalue := call_value hr (Backend.openAt (s.openGeometry m))
      (fun r => Call.openAt (s.openGeometry m) r.toOption)
    have htrace : (s.tryOpen m).2.trace = (s.call i (Backend.openAt (s.openGeometry m))
        (fun r => Call.openAt (s.openGeometry m) r.toOption)).2.trace := by
      rw [trace, trace, log_tryOpen hm]
    rw [htrace, hans.trace] at ht
    have hclosed : ∀ j, s.trace.isOpen j = false := ht.permits
    have hfree : held r.backend = none := h.closed i _ (hclosed i) hv
    rw [tryOpen_of_manager hm]
    dsimp only
    rw [hvalue]
    cases hopened : (Backend.openAt (s.openGeometry m) r.backend).value with
    | error e =>
      have hkeeps := hβ.failed _ _ _ hfree hopened
      rw [hkeeps.chosen, hkeeps.held, hopened] at hans
      refine h.kept hans hv (Signal.isSession_of_mem_told hkeeps.sessions) rfl rfl ?_
      exact (hclosed i).symm
    | ok settings =>
      obtain ⟨config, hgeometry, hsessions, hchosen, hheld⟩ :=
        hβ.opened _ _ _ _ hfree hvchosen hopened
      obtain ⟨before, after, htold, hbefore, hafter, hcalls⟩ :=
        Signal.exists_told r.framework hsessions
      rw [hchosen, hheld, htold, hopened] at hans
      have hannounced := h.opened hans hm hclosed hgeometry hbefore hcalls hafter
      exact hannounced.congr (by cases m <;> rfl) (by cases m <;> rfl) (by cases m <;> rfl)
        (by cases m <;> rfl) (by cases m <;> rfl)

/-- No move of the controller that keeps the rules breaks a bracket. -/
theorem Evolves.announced (hβ : Backend.Announces (Source β) chosen held) (h : Evolves s t)
    (hs : s.Announced chosen held) (ht : t.trace.Disciplined) : t.Announced chosen held := by
  induction h with
  | silent hbackends hmanager hopened hcurrent _ hlog =>
    exact hs.congr (by rw [views, views, hbackends]) hmanager hopened hcurrent hlog
  | @note s e he =>
    cases e with
    | called | raised => exact he.elim
    | _ => exact hs.remark rfl rfl
  | report s hn => exact (hs.remark (e := .raised _) rfl hn).congr rfl rfl rfl rfl rfl
  | release s current => exact hs.rechoose none current fun i hi => absurd hi.symm (Option.some_ne_none i)
  | choose s haccepted =>
    refine hs.rechoose _ _ fun j hj => ?_
    obtain rfl := Option.some.inj hj
    exact ⟨_, _, haccepted⟩
  | shut s =>
    exact ⟨hs.choice, hs.current, fun g hg => absurd hg.symm (Option.some_ne_none g), hs.closed,
      hs.bracketed⟩
  | ask s hask i => exact hs.ask hβ hask ht
  | offer s hm i device => exact hs.offer hβ hm ht
  | tryOpen s m => exact hs.tryOpen hβ ht
  | trans _ hlater ih ih' => exact ih' (ih hs (hlater.disciplined ht)) ht

/-! ## Steps -/

omit [Backend β] in
theorem announced_register (h : s.Announced chosen held) (b : Source β) (framework : String)
    (hb : held b = none) : (s.register b framework).Announced chosen held := by
  have hviews : (s.register b framework).views chosen held =
      s.views chosen held ++ [⟨framework, chosen b, held b⟩] := by
    simp [views, register]
  have hgrown {i : Nat} {v : View} (hv : (s.views chosen held)[i]? = some v) :
      ((s.register b framework).views chosen held)[i]? = some v := by
    rw [hviews, List.getElem?_append_left (List.getElem?_eq_some_iff.mp hv).1, hv]
  obtain ⟨o, hbracketed, hagree⟩ := h.bracketed
  refine ⟨?_, h.current, h.opening, ?_, o, hbracketed, ?_⟩
  · intro i device channel format hselection
    obtain ⟨v, hv, hchosen⟩ := h.choice i device channel format hselection
    exact ⟨v, hgrown hv, hchosen⟩
  · intro i v hopen hv
    rw [hviews, List.getElem?_append] at hv
    split at hv
    · exact h.closed i v hopen hv
    · obtain rfl := List.mem_singleton.mp (List.mem_of_getElem? hv)
      exact hb
  · cases o with
    | none => exact hagree
    | some x =>
      obtain ⟨i, choice, channel, format, hview, hrest⟩ := hagree
      exact ⟨i, choice, channel, format, hgrown hview, hrest⟩

omit [Backend β] in
theorem announced_blank (preview stream : Geometry) :
    (blank (β := β) preview stream).Announced chosen held where
  choice _ _ _ _ h := nomatch h
  current _ h := nomatch h
  opening _ h := nomatch h
  closed _ _ _ h := nomatch h
  bracketed := ⟨none, .nil, fun _ => rfl⟩

section Device

variable {chosen held : β → Option Descriptor}

theorem announced_initial (preview stream : Geometry) {backends : List β}
    (h : ∀ b ∈ backends, held b = none) :
    (initial preview stream backends).Announced (Source.chosen chosen) (Source.held held) :=
  List.foldlRecOn (motive := Announced (Source.chosen chosen) (Source.held held)) _ _
    (announced_register (announced_blank preview stream) (.logo Logo.initial) _ rfl)
    fun _ hs b hb => announced_register hs (.device b) _ (h b hb)

omit [Backend β] in
/-- A backend that changes on its own without choosing, opening or closing breaks no bracket. -/
theorem announced_alter (h : s.Announced (Source.chosen chosen) (Source.held held)) (i : Nat)
    {f : β → β} (hf : ∀ b, chosen (f b) = chosen b ∧ held (f b) = held b) :
    (s.alter i f).Announced (Source.chosen chosen) (Source.held held) := by
  refine h.congr ?_ rfl rfl rfl rfl
  refine List.ext_getElem? fun j => ?_
  simp only [views, alter, List.getElem?_map, List.getElem?_modify]
  cases s.backends[j]? with
  | none => rfl
  | some r =>
    obtain ⟨framework, b⟩ := r
    by_cases hij : i = j
    · cases b <;> simp [hij, Source.chosen, Source.held, hf]
    · simp [hij]

end Device

end CaptureState

/-- Where a backend joins, it holds nothing open, and where one changes on its own, it neither
chooses, opens nor closes. -/
def Step.Respects {β : Type} (chosen held : β → Option Descriptor) : Step β → Prop
  | operation (.addBackend b) => held b = none
  | stir _ change => ∀ b, chosen (change b) = chosen b ∧ held (change b) = held b
  | _ => True

namespace CaptureState

variable {β : Type} [Backend β] {chosen held : β → Option Descriptor} {s : CaptureState β}

theorem announced_step (hβ : Backend.Announces β chosen held) (hs : s.Settled)
    (h : s.Announced (Source.chosen chosen) (Source.held held)) {e : Step β}
    (he : e.Respects chosen held) :
    (s.step e).Announced (Source.chosen chosen) (Source.held held) := by
  cases e with
  | handOut => exact h.congr rfl rfl rfl rfl rfl
  | stir i change => exact announced_alter h i he
  | operation op =>
    by_cases hop : ∀ b, op ≠ .addBackend b
    · exact (evolves_operate hop s).announced hβ.source h
        (settled_operate hs op).sound.disciplined
    · obtain ⟨b, rfl⟩ : ∃ b, op = .addBackend b := by simpa using hop
      exact announced_register h (.device b) _ he

end CaptureState

namespace ControllerBuilder

variable {β : Type} [Backend β] {chosen held : β → Option Descriptor}
  {builder : ControllerBuilder β} {steps : List (Step β)}

theorem announced_run (hβ : Backend.Announces β chosen held)
    (hbackends : ∀ b ∈ builder.backends, held b = none)
    (hsteps : ∀ e ∈ steps, e.Respects chosen held) :
    (builder.start.run steps).Announced (Source.chosen chosen) (Source.held held) := by
  induction steps using List.reverseRecOn with
  | nil => exact CaptureState.announced_initial _ _ hbackends
  | append_singleton steps e ih =>
    rw [CaptureState.run_concat]
    refine CaptureState.announced_step hβ (builder.settled_run steps) ?_ (hsteps e (by simp))
    exact ih fun e he => hsteps e (List.mem_append_left _ he)

/-- Where backends announce their devices, the openings and closings raised alternate, beginning with
an opening, and each closing is for the opening before it. The last opening is left without a closing
exactly while a consumer is active; it is for the current device at the geometry at which that is open.

At every moment, also in the middle of an operation, an opening without a closing describes what the
controller has chosen and opened. The current device is then the one that the manager accepted last,
and the geometry recorded as open is that of the last successful opening. -/
theorem sessions_bracketed (hβ : Backend.Announces β chosen held)
    (hbackends : ∀ b ∈ builder.backends, held b = none)
    (hsteps : ∀ e ∈ steps, e.Respects chosen held) :
    let s := builder.start.run steps
    (∃ last : Option Opening, Bracketed s.log last ∧
        (s.anyActive = true ↔ last.isSome = true) ∧
        ∀ x, last = some x →
          ∃ i r, s.manager = some i ∧ s.backends[i]? = some r ∧ r.framework = x.framework ∧
            s.current = x.device ∧ s.opened = some x.config.geometry) ∧
      ∀ u, s.Evolves u → u.trace.Disciplined →
        (∃ pending : Option Opening, Bracketed u.log pending ∧
          ∀ x, pending = some x → x.Describes u) ∧
        (∀ i, u.manager = some i →
          ∃ channel format, u.trace.selection? = some (i, u.current, channel, format)) ∧
        ∀ g, u.opened = some g → u.trace.opening? = some g := by
  intro s
  have hannounced : s.Announced (Source.chosen chosen) (Source.held held) :=
    announced_run hβ hbackends hsteps
  have hs : s.Settled := builder.settled_run steps
  obtain ⟨last, hbracketed, hagree⟩ := hannounced.bracketed
  refine ⟨⟨last, hbracketed, ?_, ?_⟩, ?_⟩
  · cases hactive : s.anyActive with
    | false =>
      obtain rfl := hagree.eq_none (hs.idle hactive).2
      simp
    | true =>
      obtain ⟨i, g, hi⟩ := hs.exists_serving hactive
      have hopen := (hi.toSound.isOpen_iff_of_opened hi.manager hi.opened i).mpr rfl
      obtain ⟨x, -, -, -, rfl, -⟩ := hagree.exists_of_open hopen
      simp
  · rintro x rfl
    have hdescribes := hannounced.describes hagree
    obtain ⟨i, choice, channel, format, hview, hiff, -, -⟩ := hagree
    obtain ⟨hopened, hmanager⟩ := (hs.sound.held i).mp ((hiff i).mpr rfl)
    obtain ⟨g, hg⟩ := Option.isSome_iff_exists.mp hopened
    obtain ⟨r, hr, hframework⟩ : ∃ r, s.backends[i]? = some r ∧ r.framework = x.framework := by
      obtain ⟨r, hr, hseen⟩ : ∃ r, s.backends[i]? = some r ∧ _ := by
        simpa only [CaptureState.views, List.getElem?_map, Option.map_eq_some_iff] using hview
      exact ⟨r, hr, congrArg View.framework hseen⟩
    refine ⟨i, r, hmanager, hr, hframework, hdescribes.device i hmanager, ?_⟩
    exact hg.trans (congrArg some (hdescribes.geometry g hg))
  · intro u hu hdisciplined
    have hlater := hu.announced hβ.source hannounced hdisciplined
    obtain ⟨pending, hpending, hagree'⟩ := hlater.bracketed
    refine ⟨⟨pending, hpending, ?_⟩, hlater.current, hlater.opening⟩
    rintro x rfl
    exact hlater.describes hagree'

/-- A camera that refuses to open for the preview and opens for the stream. -/
theorem sessions_bracketed_of_camera :
    let camera : Scripted.Camera :=
      { Scripted.Camera.plain "scripted" with acceptAll := true, failOpen := 1 }
    let device : Descriptor := ⟨"scripted", "camera", "0"⟩
    let blank : ControllerBuilder Scripted.Camera := ControllerBuilder.default
    let builder : ControllerBuilder Scripted.Camera := { blank with backends := [camera] }
    let steps : List (Step Scripted.Camera) :=
      [.operation (.setDevice device 0 .auto), .operation .startPreview, .operation .stopPreview,
        .operation .startStream]
    let s := builder.start.run steps
    ∃ x : Opening, Bracketed s.log (some x) ∧ s.current = x.device ∧
      s.opened = some x.config.geometry := by
  intro camera device blank builder steps s
  have hbackends : ∀ b ∈ builder.backends, b.held = none := by
    intro b hb
    obtain rfl : b = camera := List.mem_singleton.mp hb
    rfl
  have hsteps : ∀ e ∈ steps, e.Respects (fun c => some c.selected) Scripted.Camera.held := by
    simp [steps, Step.Respects]
  have hstreaming : s.anyActive = true := by
    rw [CaptureState.anyActive_eq, builder.control_run]
    rfl
  obtain ⟨⟨last, hbracketed, hactive, hlast⟩, -⟩ :=
    sessions_bracketed Scripted.Camera.announces hbackends hsteps
  obtain ⟨x, rfl⟩ := Option.isSome_iff_exists.mp (hactive.mp hstreaming)
  obtain ⟨-, -, -, -, -, hdevice, hopened⟩ := hlast x rfl
  exact ⟨x, hbracketed, hdevice, hopened⟩

end ControllerBuilder

end VideoCapture
