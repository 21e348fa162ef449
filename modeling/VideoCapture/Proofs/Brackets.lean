import VideoCapture.Proofs.Announcing
import VideoCapture.Proofs.Evolution

/-!
# Openings and closings are told of in pairs

Where backends announce their devices, observers can rely on the order of what they are told:
openings and closings alternate, each closing is for the opening before it, and what an opening says
is what the controller chose and opened at that moment.

## Main definitions

* `Opening` — what an opening says.
* `Opening.Describes` — what it says is what the controller has chosen and opened.
* `Bracketed` — the notifications in a log come in pairs, but for a last opening.
* `CaptureState.Announced` — the log is bracketed, and what it leaves open is the open device.

Every reachable state is announced, by `ControllerBuilder.announced_run`.
-/

namespace VideoCapture

/-- What a notification of an opening says. -/
structure Opening where
  framework : String
  device : Descriptor
  config : DeviceConfig

/-- The effect tells that a device was opened or closed. -/
def Effect.isSession : Effect → Bool
  | raised n => n.isSession
  | _ => false

/-- The openings and closings that a log tells of alternate, beginning with an opening, and each
closing names the framework and the device of the opening before it. An opening names the device that
was accepted last, and the geometry of the last successful opening. The last opening is given where no
closing has followed it. -/
inductive Bracketed : List Effect → Option Opening → Prop
  | nil : Bracketed [] none
  | opened {log : List Effect} {x : Opening} {i : Nat} {channel : UInt32} {format : VideoFormat}
    (h : Bracketed log none)
    (hdevice : Trace.selection? (log.filterMap Effect.call?) = some (i, x.device, channel, format))
    (hgeometry : Trace.opening? (log.filterMap Effect.call?) = some x.config.geometry) :
    Bracketed (log ++ [.raised (.opened x.framework x.device x.config)]) (some x)
  | closed {log : List Effect} {x : Opening} (h : Bracketed log (some x)) :
    Bracketed (log ++ [.raised (.closed x.framework x.device)]) none
  | other {log : List Effect} {o : Option Opening} {e : Effect} (h : Bracketed log o)
    (he : e.isSession = false) : Bracketed (log ++ [e]) o

namespace Bracketed

variable {log more : List Effect} {o : Option Opening}

theorem append_others (h : Bracketed log o) (hmore : ∀ e ∈ more, e.isSession = false) :
    Bracketed (log ++ more) o := by
  induction more generalizing log with
  | nil => rwa [List.append_nil]
  | cons e rest ih =>
    rw [List.append_cons]
    exact ih (h.other (hmore e List.mem_cons_self)) fun f hf => hmore f (List.mem_cons_of_mem e hf)

theorem append_call (h : Bracketed log o) (i : Nat) (c : Call)
    (hmore : ∀ e ∈ more, e.isSession = false) : Bracketed (log ++ .called i c :: more) o := by
  rw [List.append_cons]
  exact (h.other (e := .called i c) rfl).append_others hmore

end Bracketed

/-! ## The signals of one call -/

/-- Signals as they are written down. -/
def Signal.told (framework : String) (signals : List Signal) : List Effect :=
  (signals.map (Notification.ofSignal framework)).map Effect.raised

theorem Signal.isSession_of_mem_told {framework : String} {signals : List Signal}
    (h : signals.filter Signal.isSession = []) :
    ∀ e ∈ Signal.told framework signals, e.isSession = false := by
  intro e he
  obtain ⟨n, hn, rfl⟩ := List.mem_map.mp he
  obtain ⟨s, hs, rfl⟩ := List.mem_map.mp hn
  have hquiet : s.isSession = false := by
    have hnot := List.filter_eq_nil_iff.mp h s hs
    exact Bool.eq_false_iff.mpr hnot
  cases s with
  | error => rfl
  | _ => cases hquiet

/-- Signals that tell of one opening or closing tell of it between complaints. -/
theorem Signal.exists_told (framework : String) {signals : List Signal} {s : Signal}
    (h : signals.filter Signal.isSession = [s]) :
    ∃ before after : List Effect,
      Signal.told framework signals =
        before ++ .raised (Notification.ofSignal framework s) :: after ∧
        (∀ e ∈ before, e.isSession = false) ∧ (∀ e ∈ after, e.isSession = false) ∧
        before.filterMap Effect.call? = [] := by
  obtain ⟨first, last, rfl, hfirst, -, hlast⟩ := List.filter_eq_cons_iff.mp h
  have hquiet : first.filter Signal.isSession = [] := List.filter_eq_nil_iff.mpr hfirst
  refine ⟨told framework first, told framework last, by simp [told], isSession_of_mem_told hquiet,
    isSession_of_mem_told hlast, ?_⟩
  rw [told, List.filterMap_map]
  exact List.filterMap_eq_nil_iff.mpr fun n _ => rfl

/-- The opening is for the device that the state has chosen, at the geometry that it has recorded as
open. -/
structure Opening.Describes {β : Type} (x : Opening) (s : CaptureState β) : Prop where
  device : ∀ i, s.manager = some i → s.current = x.device
  geometry : ∀ g, s.opened = some g → g = x.config.geometry

/-! ## What is announced as open -/

/-- What matters of a backend: the name its signals are passed on under, the device chosen for the
next opening and the one it holds open. -/
structure View where
  framework : String
  chosen : Option Descriptor
  held : Option Descriptor

namespace View

variable {views : List View} {trace : Trace} {x : Opening}

/-- The device announced as open is the one that the open backend holds, and the calls tell that it
was chosen and opened so. Where nothing is announced as open, no backend is. -/
def Agree (views : List View) (trace : Trace) : Option Opening → Prop
  | none => ∀ j, trace.isOpen j = false
  | some x =>
    ∃ i chosen channel format, views[i]? = some ⟨x.framework, chosen, some x.device⟩ ∧
      (∀ j, trace.isOpen j = true ↔ j = i) ∧
      trace.selection? = some (i, x.device, channel, format) ∧
      trace.opening? = some x.config.geometry

/-- While no backend is open, nothing is announced as open. -/
theorem Agree.eq_none {o : Option Opening} (h : Agree views trace o)
    (hclosed : ∀ j, trace.isOpen j = false) : o = none := by
  cases o with
  | none => rfl
  | some x =>
    obtain ⟨i, -, -, -, -, hopen, -⟩ := h
    exact absurd ((hopen i).mpr rfl) (by simp [hclosed i])

/-- While a backend is open, it is the one announced. -/
theorem Agree.exists_of_open {o : Option Opening} (h : Agree views trace o) {i : Nat}
    (hopen : trace.isOpen i = true) :
    ∃ x chosen channel format, o = some x ∧
      views[i]? = some ⟨x.framework, chosen, some x.device⟩ ∧
      trace.selection? = some (i, x.device, channel, format) ∧
      trace.opening? = some x.config.geometry := by
  cases o with
  | none => exact absurd hopen (by simp [h i])
  | some x =>
    obtain ⟨j, chosen, channel, format, hview, hiff, hselection, hopening⟩ := h
    obtain rfl : i = j := (hiff i).mp hopen
    exact ⟨x, chosen, channel, format, rfl, hview, hselection, hopening⟩

end View

namespace CaptureState

variable {β : Type}

/-- What matters of the backends. -/
def views (chosen held : Source β → Option Descriptor) (s : CaptureState β) : List View :=
  s.backends.map fun r => ⟨r.framework, chosen r.backend, held r.backend⟩

/-- What holds at every moment, also in the middle of an operation. -/
structure Announced (chosen held : Source β → Option Descriptor) (s : CaptureState β) : Prop where
  /-- The backend that accepted a device last has it chosen. -/
  choice : ∀ i device channel format, s.trace.selection? = some (i, device, channel, format) →
    ∃ v, (s.views chosen held)[i]? = some v ∧ v.chosen = some device
  /-- The manager is that backend, and the current device is that device. -/
  current : ∀ i, s.manager = some i →
    ∃ channel format, s.trace.selection? = some (i, s.current, channel, format)
  opening : ∀ g, s.opened = some g → s.trace.opening? = some g
  closed : ∀ (i : Nat) v, s.trace.isOpen i = false → (s.views chosen held)[i]? = some v →
    v.held = none
  bracketed : ∃ o, Bracketed s.log o ∧ View.Agree (s.views chosen held) s.trace o

section Announced

variable {chosen held : Source β → Option Descriptor} {s t : CaptureState β}

/-- The opening announced last describes the state. -/
theorem Announced.describes {x : Opening} (h : s.Announced chosen held)
    (hagree : View.Agree (s.views chosen held) s.trace (some x)) : x.Describes s := by
  obtain ⟨i, choice, channel, format, -, -, hselection, hopening⟩ := hagree
  refine ⟨fun j hj => ?_, fun g hg => ?_⟩
  · obtain ⟨channel', format', hcurrent⟩ := h.current j hj
    injection hcurrent.symm.trans hselection with hsame
    exact congrArg (·.2.1) hsame
  · exact Option.some.inj ((h.opening g hg).symm.trans hopening)

/-- Nothing that tells of no opening or closing and neither chooses, opens nor closes matters. -/
theorem Announced.keep (h : s.Announced chosen held)
    (hviews : t.views chosen held = s.views chosen held) (hmanager : t.manager = s.manager)
    (hopened : t.opened = s.opened) (hcurrent : t.current = s.current) (more : List Effect)
    (hlog : t.log = s.log ++ more) (hquiet : ∀ e ∈ more, e.isSession = false)
    (hselection : t.trace.selection? = s.trace.selection?)
    (hopening : t.trace.opening? = s.trace.opening?)
    (hopen : ∀ j, t.trace.isOpen j = s.trace.isOpen j) : t.Announced chosen held := by
  obtain ⟨o, hbracketed, hagree⟩ := h.bracketed
  refine ⟨?_, ?_, ?_, ?_, o, ?_, ?_⟩
  · rw [hselection, hviews]
    exact h.choice
  · rw [hselection, hmanager, hcurrent]
    exact h.current
  · rw [hopened, hopening]
    exact h.opening
  · intro i
    rw [hopen, hviews]
    exact h.closed i
  · rw [hlog]
    exact hbracketed.append_others hquiet
  · cases o <;> simpa only [View.Agree, hviews, hselection, hopening, hopen] using hagree

/-- Where nothing is written down, only the backends and what is chosen and open matter. -/
theorem Announced.congr (h : s.Announced chosen held)
    (hviews : t.views chosen held = s.views chosen held) (hmanager : t.manager = s.manager)
    (hopened : t.opened = s.opened) (hcurrent : t.current = s.current) (hlog : t.log = s.log) :
    t.Announced chosen held := by
  have htrace : t.trace = s.trace := by rw [trace, trace, hlog]
  refine h.keep hviews hmanager hopened hcurrent [] (by rw [hlog, List.append_nil]) ?_ ?_
    ?_ ?_
  · exact fun e he => absurd he List.not_mem_nil
  all_goals simp [htrace]

/-- What is written down besides calls, openings and closings does not matter. -/
theorem Announced.remark (h : s.Announced chosen held) {e : Effect} (hcall : e.call? = none)
    (he : e.isSession = false) : (s.note e).Announced chosen held := by
  have htrace : (s.note e).trace = s.trace := congrArg Custody.trace (custody_note hcall s)
  refine h.keep rfl rfl rfl rfl [e] rfl ?_ ?_ ?_ ?_
  · simpa using he
  all_goals simp [htrace]

/-! ## One call -/

/-- From one state to the other the backend at position `i` answered a call, and it looks like `v`
afterwards. -/
structure Answered (chosen held : Source β → Option Descriptor) (s t : CaptureState β) (i : Nat)
    (c : Call) (v : View) (told : List Effect) : Prop where
  talked : s.custody.Talked t.custody
  log : t.log = s.log ++ .called i c :: told
  trace : t.trace = s.trace ++ [(i, c)]
  views : ∀ j, (t.views chosen held)[j]? = if i = j then some v else (s.views chosen held)[j]?

theorem getElem?_views (chosen held : Source β → Option Descriptor) {i : Nat} {r : Registered β}
    (hr : s.backends[i]? = some r) :
    (s.views chosen held)[i]? = some ⟨r.framework, chosen r.backend, held r.backend⟩ := by
  simp [views, hr]

theorem answered_call (chosen held : Source β → Option Descriptor) {α : Type} {i : Nat}
    {r : Registered β} (hr : s.backends[i]? = some r) (act : Source β → Reply (Source β) α)
    (describe : α → Call) :
    Answered chosen held s (s.call i act describe).2 i (describe (act r.backend).value)
      ⟨r.framework, chosen (act r.backend).backend, held (act r.backend).backend⟩
      (Signal.told r.framework (act r.backend).signals) := by
  have hcustody := custody_call hr act describe
  have hbackends : (s.call i act describe).2.backends =
      s.backends.set i { r with backend := (act r.backend).backend } :=
    congrArg Custody.backends hcustody
  have hlt : i < s.backends.length := (List.getElem?_eq_some_iff.mp hr).1
  refine ⟨talked_call act describe, log_call hr act describe, congrArg Custody.trace hcustody, ?_⟩
  intro j
  rw [views, hbackends, List.map_set, List.getElem?_set, List.length_map, if_pos hlt]
  rfl

section Answered

variable {i : Nat} {c : Call} {v : View} {told : List Effect}

/-- An answer after which everything is as it was. -/
theorem Announced.kept (h : s.Announced chosen held) (hans : Answered chosen held s t i c v told)
    (hv : (s.views chosen held)[i]? = some v) (hquiet : ∀ e ∈ told, e.isSession = false)
    (haccepted : c.accepted? = none) (hopening : c.opening? = none)
    (hholds : c.holds (s.trace.isOpen i) = s.trace.isOpen i) : t.Announced chosen held := by
  refine h.keep ?_ hans.talked.manager hans.talked.opened hans.talked.current _ hans.log ?_ ?_ ?_ ?_
  · refine List.ext_getElem? fun j => ?_
    rw [hans.views]
    split
    · rename_i hij
      rw [← hij, hv]
    · rfl
  · intro e he
    rcases List.mem_cons.mp he with rfl | he
    · rfl
    · exact hquiet e he
  · rw [hans.trace, Trace.selection?_concat, haccepted]
    rfl
  · rw [hans.trace, Trace.opening?_concat, hopening]
    rfl
  · intro j
    rw [hans.trace, Trace.isOpen_concat]
    split
    · rename_i hij
      rw [← hij, hholds]
    · rfl

/-- While nothing is chosen or open, a backend accepted a device. -/
theorem Announced.accepted {device : Descriptor} {channel : UInt32} {format : VideoFormat}
    (h : s.Announced chosen held)
    (hans : Answered chosen held s t i (.setDevice device channel format true) v told)
    (hm : s.manager = none) (hclosed : ∀ j, s.trace.isOpen j = false)
    (hchosen : v.chosen = some device) (hheld : v.held = none)
    (hquiet : ∀ e ∈ told, e.isSession = false) : t.Announced chosen held := by
  obtain ⟨o, hbracketed, hagree⟩ := h.bracketed
  obtain rfl := hagree.eq_none hclosed
  have hopen (j : Nat) : t.trace.isOpen j = false := by
    rw [hans.trace, Trace.isOpen_concat]
    split <;> exact hclosed j
  refine ⟨?_, ?_, ?_, ?_, none, ?_, hopen⟩
  · intro j d channel' format' hselection
    obtain ⟨rfl, rfl, -⟩ : i = j ∧ device = d ∧ _ := by
      simpa [hans.trace, Call.accepted?] using hselection
    exact ⟨v, (hans.views i).trans (if_pos rfl), hchosen⟩
  · intro j hj
    have hnone : t.manager = none := hans.talked.manager.trans hm
    rw [hnone] at hj
    cases hj
  · intro g hg
    rw [hans.trace, Trace.opening?_concat]
    exact h.opening g (hans.talked.opened.symm.trans hg)
  · intro j w _ hw
    rw [hans.views] at hw
    split at hw
    · cases hw
      exact hheld
    · exact h.closed j w (hclosed j) hw
  · rw [hans.log]
    exact hbracketed.append_call i _ hquiet

/-- While nothing is open, the chosen backend opened the current device and told of it. -/
theorem Announced.opened {g : Geometry} {settings : AdjustmentSet} {config : DeviceConfig}
    {framework : String} {before after : List Effect} (h : s.Announced chosen held)
    (hans : Answered chosen held s t i (.openAt g (some settings))
      ⟨framework, some s.current, some s.current⟩
      (before ++ .raised (.opened framework s.current config) :: after))
    (hm : s.manager = some i) (hclosed : ∀ j, s.trace.isOpen j = false)
    (hgeometry : config.geometry = g) (hbefore : ∀ e ∈ before, e.isSession = false)
    (hcalls : before.filterMap Effect.call? = []) (hafter : ∀ e ∈ after, e.isSession = false) :
    Announced chosen held { t with opened := some g } := by
  obtain ⟨o, hbracketed, hagree⟩ := h.bracketed
  obtain rfl := hagree.eq_none hclosed
  obtain ⟨channel, format, hselection⟩ := h.current i hm
  have hselected : t.trace.selection? = some (i, s.current, channel, format) := by
    rw [hans.trace, Trace.selection?_concat]
    exact hselection
  have hopening : t.trace.opening? = some g := by
    rw [hans.trace, Trace.opening?_concat]
    rfl
  have hiff (j : Nat) : t.trace.isOpen j = true ↔ j = i := by
    rw [hans.trace, Trace.isOpen_concat, hclosed j, eq_comm (a := j)]
    split <;> simp_all [Call.holds]
  have hview : (t.views chosen held)[i]? = some ⟨framework, some s.current, some s.current⟩ :=
    (hans.views i).trans (if_pos rfl)
  refine ⟨?_, ?_, ?_, ?_, some ⟨framework, s.current, config⟩, ?_, ?_⟩
  · intro j d channel' format' hd
    obtain ⟨rfl, rfl, -⟩ : i = j ∧ s.current = d ∧ _ := by
      have hsame := hselected.symm.trans hd
      simpa using hsame
    exact ⟨_, hview, rfl⟩
  · intro j hj
    obtain rfl : i = j := Option.some.inj ((hans.talked.manager.trans hm).symm.trans hj)
    have hcurrent : t.current = s.current := hans.talked.current
    exact ⟨channel, format, by rw [← hcurrent] at hselected; exact hselected⟩
  · rintro g' hg'
    obtain rfl : g = g' := Option.some.inj hg'
    exact hopening
  · intro j w hj hw
    have hne : ¬ i = j := fun hij => by
      have hheld := (hiff j).mpr hij.symm
      rw [show t.trace.isOpen j = false from hj] at hheld
      cases hheld
    rw [show CaptureState.views chosen held { t with opened := some g } = t.views chosen held
      from rfl, hans.views, if_neg hne] at hw
    exact h.closed j w (hclosed j) hw
  · have hquiet : Bracketed (s.log ++ .called i (.openAt g (some settings)) :: before) none :=
      hbracketed.append_call i _ hbefore
    have htrace : (s.log ++ .called i (.openAt g (some settings)) :: before).filterMap Effect.call? =
        t.trace := by
      rw [hans.trace, List.filterMap_append, ← List.singleton_append, List.filterMap_append, hcalls,
        List.append_nil]
      rfl
    have htold : Bracketed _ (some ⟨framework, s.current, config⟩) :=
      hquiet.opened (htrace ▸ hselected) (by rw [htrace, hgeometry]; exact hopening)
    have hlog : t.log = s.log ++ .called i (.openAt g (some settings)) :: before ++
        [.raised (.opened framework s.current config)] ++ after := by
      rw [hans.log]
      simp
    show Bracketed t.log _
    rw [hlog]
    exact htold.append_others hafter
  · exact ⟨i, _, channel, format, hview, hiff, hselected, by rw [hgeometry]; exact hopening⟩

/-- The open backend closed its device and told of it. -/
theorem Announced.shut {device : Descriptor} {framework : String} {choice : Option Descriptor}
    {before after : List Effect} (h : s.Announced chosen held)
    (hv : (s.views chosen held)[i]? = some ⟨framework, choice, some device⟩)
    (hans : Answered chosen held s t i .close ⟨framework, choice, none⟩
      (before ++ .raised (.closed framework device) :: after))
    (hiff : ∀ j, s.trace.isOpen j = true ↔ j = i) (hbefore : ∀ e ∈ before, e.isSession = false)
    (hafter : ∀ e ∈ after, e.isSession = false) : t.Announced chosen held := by
  obtain ⟨o, hbracketed, hagree⟩ := h.bracketed
  obtain ⟨x, choice', channel, format, rfl, hx, -⟩ := hagree.exists_of_open ((hiff i).mpr rfl)
  obtain ⟨rfl, rfl, rfl⟩ : x.framework = framework ∧ choice' = choice ∧ x.device = device := by
    simpa using hx.symm.trans hv
  have hselection : t.trace.selection? = s.trace.selection? := by
    rw [hans.trace, Trace.selection?_concat]
    rfl
  have hopen (j : Nat) : t.trace.isOpen j = false := by
    rw [hans.trace, Trace.isOpen_concat]
    split
    · rfl
    · rename_i hij
      exact Bool.eq_false_iff.mpr fun hj => hij ((hiff j).mp hj).symm
  refine ⟨?_, ?_, ?_, ?_, none, ?_, hopen⟩
  · intro j d channel' format' hd
    rw [hselection] at hd
    obtain ⟨w, hw, hchosen⟩ := h.choice j d channel' format' hd
    rw [hans.views]
    split
    · rename_i hij
      subst hij
      obtain rfl := Option.some.inj (hv.symm.trans hw)
      exact ⟨_, rfl, hchosen⟩
    · exact ⟨w, hw, hchosen⟩
  · intro j hj
    have hcurrent : t.current = s.current := hans.talked.current
    rw [hselection, hcurrent]
    exact h.current j (hans.talked.manager.symm.trans hj)
  · intro g hg
    rw [hans.trace, Trace.opening?_concat]
    exact h.opening g (hans.talked.opened.symm.trans hg)
  · intro j w _ hw
    rw [hans.views] at hw
    split at hw
    · cases hw
      rfl
    · rename_i hij
      exact h.closed j w (Bool.eq_false_iff.mpr fun hj => hij ((hiff j).mp hj).symm) hw
  · have hquiet : Bracketed (s.log ++ .called i .close :: before) (some x) :=
      hbracketed.append_call i _ hbefore
    have hlog : t.log = s.log ++ .called i .close :: before ++
        [.raised (.closed x.framework x.device)] ++ after := by
      rw [hans.log]
      simp
    rw [hlog]
    exact hquiet.closed.append_others hafter

end Answered

end Announced

end CaptureState

end VideoCapture
