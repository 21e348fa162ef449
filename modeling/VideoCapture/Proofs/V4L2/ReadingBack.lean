import VideoCapture.Proofs.V4L2.Scale
import VideoCapture.Proofs.V4L2.Sessions
import VideoCapture.Scripted.Nodes

/-!
# What an adjustment reads back as

A device that stores what it is given reports on a later opening what it was given. That need not be the
value asked for: on its way to the control and back a value that falls between two steps of the control
loses one, and then counts as not yet applied.

## Main definitions

* `Stores` — a control that stores what it is given.
* `Capture.Offers` — an open device that has a control with a given range.
* `Capture.Reopens` — an adjustment that is accepted, and a later opening of the device.

The main statement is `Capture.reads_back`.
-/

namespace VideoCapture.V4L2

variable {H : Type} [Hardware H]

/-! ## Controls that store what they are given -/

/-- A control stores what it is given: `stored` is what it holds, if the device has it, and `nodes` are
the numbers by which the device is referred to. No other call changes what it holds. -/
structure Stores (nodes : Nat → Prop) (id : UInt32) (stored : H → Option Int) : Prop where
  written : ∀ node raw h, nodes node → (stored h).isSome = true →
    (Hardware.writeControl node id raw h).1 = .ok () →
      stored (Hardware.writeControl node id raw h).2 = some raw
  reported : ∀ node raw h, nodes node → stored h = some raw →
    (Hardware.readControl node id h).1 = .ok (.integer raw)
  paths : ∀ h, stored (Hardware.paths h).2 = stored h
  openNode : ∀ path h, stored (Hardware.openNode path h).2 = stored h
  card : ∀ node h, stored (Hardware.card node h).2 = stored h
  setFormat : ∀ node format h, stored (Hardware.setFormat node format h).2 = stored h
  setRate : ∀ node fps h, stored (Hardware.setRate node fps h).2 = stored h
  controls : ∀ node h, stored (Hardware.controls node h).2 = stored h
  readControl : ∀ node other h, stored (Hardware.readControl node other h).2 = stored h
  writeControl : ∀ node other raw h, other ≠ id →
    stored (Hardware.writeControl node other raw h).2 = stored h
  mapBuffers : ∀ node count h, stored (Hardware.mapBuffers node count h).2 = stored h
  streamOn : ∀ node h, stored (Hardware.streamOn node h).2 = stored h
  streamOff : ∀ node h, stored (Hardware.streamOff node h).2 = stored h
  dequeue : ∀ node h, stored (Hardware.dequeue node h).2 = stored h

theorem controlId_injective : Function.Injective controlId := by
  intro kind other h
  cases kind <;> cases other <;> first | rfl | exact absurd h (by decide)

namespace Stores

variable {nodes : Nat → Prop} {id : UInt32} {stored : H → Option Int}

section Opening

variable (hs : Stores nodes id stored)
include hs

theorem probe (path : String) (h : H) : stored (V4L2.probe path h).2 = stored h := by
  have hopened := hs.openNode path h
  have hcard := hs.card
  unfold V4L2.probe
  grind

theorem probeAll (paths : List String) (h : H) : stored (V4L2.probeAll paths h).2 = stored h := by
  induction paths generalizing h with
  | nil => rfl
  | cons path rest ih => exact (ih _).trans (hs.probe path h)

theorem listNodes (h : H) : stored (V4L2.listNodes h).2 = stored h :=
  (hs.probeAll _ _).trans (hs.paths h)

theorem negotiate (node : Nat) (g : Geometry) (wanted : List PixelFormat) (h : H) :
    stored (V4L2.negotiate node g wanted h).2 = stored h := by
  induction wanted generalizing h with
  | nil => rfl
  | cons format rest ih =>
    have hset := hs.setFormat node ⟨g.width, g.height, format⟩ h
    unfold V4L2.negotiate
    grind

theorem applyRate (node : Nat) (fps : UInt32) (h : H) :
    stored (V4L2.applyRate node fps h).2 = stored h := by
  have hset := hs.setRate node fps h
  unfold V4L2.applyRate
  grind

theorem configure (path : String) (g : Geometry) (h : H) :
    stored (V4L2.configure path g h).2 = stored h := by
  have hopened := hs.openNode path h
  have hnegotiated := hs.negotiate
  have hrate := hs.applyRate
  unfold V4L2.configure
  grind

theorem startStream (node : Nat) (h : H) : stored (V4L2.startStream node h).2 = stored h := by
  have hmapped := hs.mapBuffers node bufferCount h
  have hstarted := hs.streamOn
  unfold V4L2.startStream
  grind

theorem query (node : Nat) (h : H) : stored (PictureControls.query node h).2 = stored h := by
  have hlisted := hs.controls node h
  unfold PictureControls.query
  grind

theorem readRanges (node : Nat) (ranges : List (Adjustment × ControlRange)) (settings : AdjustmentSet)
    (h : H) : stored (PictureControls.readRanges node ranges settings h).2 = stored h := by
  induction ranges generalizing settings h with
  | nil => rfl
  | cons entry rest ih =>
    obtain ⟨kind, range⟩ := entry
    have hread := hs.readControl node (controlId kind) h
    unfold PictureControls.readRanges
    grind

theorem close (c : Capture H) : stored c.close.backend.hardware = stored c.hardware := by
  unfold Capture.close
  split
  · rfl
  · exact hs.streamOff _ _

theorem select (device : Descriptor) (channel : UInt32) (format : VideoFormat) (c : Capture H) :
    stored (c.select device channel format).backend.hardware = stored c.hardware := by
  have hlisted := hs.listNodes c.hardware
  unfold Capture.select
  grind

theorem stream (sel : Selection) (g : Geometry) (configured : Configured) (c : Capture H) :
    stored (c.stream sel g configured).backend.hardware = stored c.hardware := by
  have hstarted := hs.startStream configured.node c.hardware
  have hqueried := hs.query configured.node
  have hread := hs.readRanges configured.node
  unfold Capture.stream PictureControls.read
  grind

theorem openSelected (sel : Selection) (g : Geometry) (c : Capture H) :
    stored (c.openSelected sel g).backend.hardware = stored c.hardware := by
  have hconfigured := hs.configure sel.path g c.hardware
  have hstreams := hs.stream sel g
  unfold Capture.openSelected
  grind

theorem openAt (g : Geometry) (c : Capture H) :
    stored (c.openAt g).backend.hardware = stored c.hardware := by
  unfold Capture.openAt
  dsimp only
  split
  · exact hs.close c
  · exact (hs.openSelected _ g c.close.backend).trans (hs.close c)

theorem read (c : Capture H) : stored c.read.backend.hardware = stored c.hardware := by
  rcases Capture.read_cases c with ⟨-, hread⟩ | ⟨s, dequeued, h, -, hd, hread⟩ |
    ⟨s, text, h, -, hd, hread⟩
  · rw [hread]
  all_goals
    have hkept := hs.dequeue s.node c.hardware
    rw [hd] at hkept
    rw [hread]
    exact hkept

end Opening

/-! ## Calls that do not adjust the control -/

variable {kind other : Adjustment} {node : Nat} {raw : Int} {range : ControlRange}
  {ranges : List (Adjustment × ControlRange)} {c : Capture H} {h : H}

theorem adjust (hs : Stores nodes (controlId kind) stored) (hother : other ≠ kind) (value : UInt32)
    (c : Capture H) : stored (c.adjust other value).backend.hardware = stored c.hardware := by
  have hid : controlId other ≠ controlId kind := fun h => hother (controlId_injective h)
  have hwritten (node : Nat) (raw : Int) := hs.writeControl node (controlId other) raw c.hardware hid
  unfold Capture.adjust PictureControls.write
  grind

/-- Only another adjustment of the control changes what it holds. -/
theorem ask (hs : Stores nodes (controlId kind) stored) {r : Request}
    (hr : ∀ value, r ≠ .adjust kind value) (c : Capture H) :
    stored (c.ask r).backend.hardware = stored c.hardware := by
  cases r with
  | devices => exact hs.listNodes c.hardware
  | select device channel format => exact hs.select device channel format c
  | openAt g => exact hs.openAt g c
  | close => exact hs.close c
  | read => exact hs.read c
  | adjust other value =>
    refine hs.adjust ?_ value c
    rintro rfl
    exact hr value rfl
  | resolve subsystem name capabilities => rfl
  | drop => exact hs.close c

/-- The occasion does not touch the control: it is no adjustment of it, and no change of the nodes
that changes what it holds. -/
def Spares (stored : H → Option Int) (kind : Adjustment) : Capture.Occasion H → Prop
  | .asked r => ∀ value, r ≠ .adjust kind value
  | .changed change => ∀ h, stored (change h) = stored h

theorem after (hs : Stores nodes (controlId kind) stored) {occasions : List (Capture.Occasion H)}
    (hspared : ∀ o ∈ occasions, Spares stored kind o) (c : Capture H) :
    stored (c.after occasions).hardware = stored c.hardware := by
  induction occasions generalizing c with
  | nil => rfl
  | cons o rest ih =>
    have hrest := ih (fun o' ho' => hspared o' (List.mem_cons_of_mem o ho')) (c.meet o).2
    have hfirst := hspared o List.mem_cons_self
    refine hrest.trans ?_
    cases o with
    | asked r => exact hs.ask hfirst c
    | changed change => exact hfirst c.hardware

/-! ## What an opening reports -/

/-- Controls that do not include an adjustment leave its value alone. -/
theorem get_readRanges_of_notMem (hmissing : kind ∉ ranges.map Prod.fst) (node : Nat)
    (settings : AdjustmentSet) (h : H) :
    (PictureControls.readRanges node ranges settings h).1.get kind = settings.get kind := by
  induction ranges generalizing settings h with
  | nil => rfl
  | cons entry rest ih =>
    obtain ⟨other, range⟩ := entry
    rw [List.map_cons, List.mem_cons, not_or] at hmissing
    unfold PictureControls.readRanges
    split
    · rw [ih hmissing.2, AdjustmentSet.get_set_of_ne _ _ hmissing.1]
    · exact ih hmissing.2 _ _

/-- The value of a control that is read is the one it holds. -/
theorem get_readRanges (hs : Stores nodes (controlId kind) stored) (hnode : nodes node)
    (hstored : stored h = some raw) (hnodup : (ranges.map Prod.fst).Nodup)
    (hrange : (kind, range) ∈ ranges) (settings : AdjustmentSet) :
    (PictureControls.readRanges node ranges settings h).1.get kind = range.fromDevice raw := by
  induction ranges generalizing settings h with
  | nil => cases hrange
  | cons entry rest ih =>
    rw [List.map_cons, List.nodup_cons] at hnodup
    rcases List.mem_cons.mp hrange with rfl | hlater
    · have hread : Hardware.readControl node (controlId kind) h =
          (.ok (.integer raw), (Hardware.readControl node (controlId kind) h).2) :=
        Prod.ext (hs.reported node raw h hnode hstored) rfl
      rw [PictureControls.readRanges, hread]
      dsimp only
      rw [get_readRanges_of_notMem hnodup.1, AdjustmentSet.get_set_self]
    · obtain ⟨other, range'⟩ := entry
      have hkept := hs.readControl node (controlId other) h
      unfold PictureControls.readRanges
      split
      all_goals
        rename_i heq
        rw [heq] at hkept
        exact ih (hkept.trans hstored) hnodup.2 hlater _

end Stores

namespace PictureControls

/-- There is one picture control at most for each adjustment. -/
theorem nodup_ofInfos (infos : List ControlInfo) :
    ((ofInfos infos).ranges.map Prod.fst).Nodup := by
  have hkinds : ((ofInfos infos).ranges.map Prod.fst).Sublist Adjustment.all := by
    apply Adjustment.kinds_filterMap_sublist
    intro kind found hfound
    obtain ⟨info, -, rfl⟩ := Option.map_eq_some_iff.mp hfound
    rfl
  exact hkinds.nodup Adjustment.nodup_all

theorem nodup_query (node : Nat) (h : H) : ((query node h).1.ranges.map Prod.fst).Nodup := by
  unfold query
  split
  · exact nodup_ofInfos _
  · exact List.nodup_nil

theorem mem_of_range? {controls : PictureControls} {kind : Adjustment} {range : ControlRange}
    (h : controls.range? kind = some range) : (kind, range) ∈ controls.ranges := by
  obtain ⟨⟨other, range'⟩, hfound, rfl⟩ := Option.map_eq_some_iff.mp h
  obtain rfl : other = kind := by simpa using List.find?_some hfound
  exact List.mem_of_find?_eq_some hfound

end PictureControls

end VideoCapture.V4L2

namespace VideoCapture.Scripted.NodeTable

/-! ## Nodes that follow a script store what they are given -/

variable {i : Nat} {id other : UInt32} {raw : Int} {controls : List Control} {c : Control}
  {n n' : Node} {t : NodeTable}

/-- The number that a control reads as, if it does. -/
def number? : Except String V4L2.ControlValue → Option Int
  | .ok (.integer raw) => some raw
  | _ => none

theorem number?_eq_some_iff {answer : Except String V4L2.ControlValue} :
    number? answer = some raw ↔ answer = .ok (.integer raw) := by
  unfold number?
  grind

/-- What the first control with a number holds at a node, if it reads as an integer. -/
def stored (i : Nat) (id : UInt32) (t : NodeTable) : Option Int := number? (t.ask i (valueOf id))

/-- Asking a table after one of its nodes was replaced. -/
theorem ask_replace {α : Type} (hn : t.nodes[i]? = some n) (j : Nat) (f : Node → Except String α) :
    (t.replace i n').ask j f = if j = i then f n' else t.ask j f := by
  unfold ask replace
  grind

theorem find?_setFirst (h : controls.find? (fun c => c.info.id = id) = some c) :
    (setFirst id raw controls).find? (fun c => c.info.id = id) =
      some { c with value := some raw } := by
  induction controls with
  | nil => cases h
  | cons first rest ih =>
    unfold setFirst
    grind

theorem find?_setFirst_of_ne (h : other ≠ id) :
    (setFirst other raw controls).find? (fun c => c.info.id = id) =
      controls.find? fun c => c.info.id = id := by
  induction controls with
  | nil => rfl
  | cons first rest ih =>
    unfold setFirst
    grind

/-- A node may be replaced by one whose control has the same value. -/
theorem stored_replace (hn : t.nodes[i]? = some n) (hsame : valueOf id n' = valueOf id n) (j : Nat) :
    (t.replace i n').stored j id = t.stored j id := by
  have hasked : t.ask i (valueOf id) = valueOf id n := by rw [ask, hn]
  unfold stored
  rw [ask_replace hn]
  split
  · rename_i hj
    rw [hj, hasked, hsame]
  · rfl

/-- A control that reads as an integer reads as the one it was set to. -/
theorem number?_valueOf_setFirst (hpresent : (number? (valueOf id n)).isSome = true) :
    number? (valueOf id { n with controls := setFirst id raw n.controls }) = some raw := by
  obtain ⟨before, hbefore⟩ := Option.isSome_iff_exists.mp hpresent
  rw [number?_eq_some_iff] at hbefore ⊢
  unfold valueOf at hbefore ⊢
  cases hfound : n.controls.find? (fun c => c.info.id = id) with
  | none => simp [hfound] at hbefore
  | some c =>
    have hinteger : c.boolean = false := by grind
    rw [find?_setFirst hfound]
    simp [hinteger]

theorem stored_writeControl (hpresent : (t.stored i id).isSome = true)
    (haccepted : (t.writeControl i id raw).1 = .ok ()) :
    (t.writeControl i id raw).2.stored i id = some raw := by
  cases hn : t.nodes[i]? with
  | none => simp [writeControl, note, hn] at haccepted
  | some n =>
    have hset : n.failSet = false := by
      cases hfails : n.failSet with
      | false => rfl
      | true => simp [writeControl, note, hn, hfails] at haccepted
    rw [stored, ask, hn] at hpresent
    have hwritten : (t.writeControl i id raw).2 =
        (t.note (.writeControl id raw)).replace i
          { n with controls := setFirst id raw n.controls } := by
      simp [writeControl, note, hn, hset]
    have hnoted : (t.note (.writeControl id raw)).nodes[i]? = some n := hn
    rw [hwritten, stored, ask_replace hnoted, if_pos rfl]
    exact number?_valueOf_setFirst hpresent

theorem stored_writeControl_of_ne (h : other ≠ id) (i j : Nat) :
    (t.writeControl j other raw).2.stored i id = t.stored i id := by
  unfold writeControl
  dsimp only
  split
  · rfl
  · rename_i n hn
    split
    · rfl
    · refine (stored_replace hn ?_ i).trans rfl
      unfold valueOf
      rw [find?_setFirst_of_ne h]

/-- Every control of a script stores what it is given. -/
theorem stores (i : Nat) (id : UInt32) : V4L2.Stores (fun node => node = i) id (stored i id) where
  written := by
    rintro node raw t rfl hpresent haccepted
    exact stored_writeControl hpresent haccepted
  reported := by
    rintro node raw t rfl hstored
    exact number?_eq_some_iff.mp hstored
  paths t := rfl
  openNode path t := by
    show stored i id (openNode path t).2 = t.stored i id
    unfold openNode
    split
    · rfl
    · split
      · rename_i n hn
        split
        · rfl
        · refine stored_replace hn ?_ i
          rfl
      · rfl
  card node t := rfl
  setFormat node format t := rfl
  setRate node fps t := rfl
  controls node t := rfl
  readControl node other t := rfl
  writeControl node other raw t hother := stored_writeControl_of_ne hother i node
  mapBuffers node count t := rfl
  streamOn node t := rfl
  streamOff node t := rfl
  dequeue node t := by
    show stored i id (dequeue node t).2 = t.stored i id
    unfold dequeue
    split
    · rfl
    · rename_i n hn
      split
      · rfl
      · refine stored_replace hn ?_ i
        rfl

end VideoCapture.Scripted.NodeTable

namespace VideoCapture.V4L2

variable {H : Type} [Hardware H]

namespace Capture

variable {nodes : Nat → Prop} {kind : Adjustment} {stored : H → Option Int} {c : Capture H}
  {range : ControlRange} {value : UInt32} {g : Geometry} {settings : AdjustmentSet}

/-- An opening that succeeds reports what it reads from the controls of the session that it begins. -/
theorem exists_read_of_stream (hs : Stores nodes (controlId kind) stored) {sel : Selection}
    {configured : Configured} (hopened : (c.stream sel g configured).value = .ok settings) :
    ∃ s h, (c.stream sel g configured).backend.session = some s ∧
      (s.controls.ranges.map Prod.fst).Nodup ∧ stored h = stored c.hardware ∧
      settings = (s.controls.read s.node h).1 := by
  have hstarted := hs.startStream configured.node c.hardware
  unfold Capture.stream at hopened ⊢
  split at hopened
  · cases hopened
  · rename_i h heq
    rw [heq] at hstarted
    refine ⟨_, (PictureControls.query configured.node h).2, rfl, PictureControls.nodup_query _ h, ?_,
      (Except.ok.inj hopened).symm⟩
    exact (hs.query _ h).trans hstarted

theorem exists_read_of_openSelected (hs : Stores nodes (controlId kind) stored) {sel : Selection}
    (hopened : (c.openSelected sel g).value = .ok settings) :
    ∃ s h, (c.openSelected sel g).backend.session = some s ∧
      (s.controls.ranges.map Prod.fst).Nodup ∧ stored h = stored c.hardware ∧
      settings = (s.controls.read s.node h).1 := by
  have hconfigured := hs.configure sel.path g c.hardware
  unfold Capture.openSelected at hopened ⊢
  split at hopened
  · cases hopened
  · rename_i configured h heq
    rw [heq] at hconfigured
    obtain ⟨s, h', hsession, hnodup, hkept, hread⟩ := exists_read_of_stream hs hopened
    exact ⟨s, h', hsession, hnodup, hkept.trans hconfigured, hread⟩

theorem exists_read_of_openAt (hs : Stores nodes (controlId kind) stored)
    (hopened : (c.openAt g).value = .ok settings) :
    ∃ s h, (c.openAt g).backend.session = some s ∧
      (s.controls.ranges.map Prod.fst).Nodup ∧ stored h = stored c.hardware ∧
      settings = (s.controls.read s.node h).1 := by
  unfold Capture.openAt at hopened ⊢
  dsimp only at hopened ⊢
  split at hopened
  · cases hopened
  · obtain ⟨s, h, hsession, hnodup, hkept, hread⟩ := exists_read_of_openSelected hs hopened
    exact ⟨s, h, hsession, hnodup, hkept.trans (hs.close c), hread⟩

/-- One of the given nodes is open, and its control for the adjustment has the range. -/
def Offers (nodes : Nat → Prop) (kind : Adjustment) (range : ControlRange) (c : Capture H) : Prop :=
  ∃ s, c.session = some s ∧ nodes s.node ∧ s.controls.range? kind = some range

/-- An accepted adjustment leaves its value in the control. -/
theorem stored_adjust (hs : Stores nodes (controlId kind) stored) (hoffers : c.Offers nodes kind range)
    (hpresent : (stored c.hardware).isSome = true) (haccepted : (c.adjust kind value).value = .ok ()) :
    stored (c.adjust kind value).backend.hardware = some (range.toDevice value) := by
  obtain ⟨s, hsession, hnode, hrange⟩ := hoffers
  have hwritten := hs.written s.node (range.toDevice value) c.hardware hnode hpresent
  simp only [Capture.adjust, hsession, PictureControls.write, hrange] at haccepted ⊢
  split at haccepted
  · rename_i h heq
    rw [heq] at hwritten
    simpa [heq] using hwritten
  · cases haccepted

/-- An opening reports the value of the control. -/
theorem get_of_openAt (hs : Stores nodes (controlId kind) stored)
    (hopened : (c.openAt g).value = .ok settings)
    (hoffers : (c.openAt g).backend.Offers nodes kind range) {raw : Int}
    (hstored : stored c.hardware = some raw) : settings.get kind = range.fromDevice raw := by
  obtain ⟨s, h, hsession, hnodup, hkept, rfl⟩ := exists_read_of_openAt hs hopened
  obtain ⟨s', hsession', hnode, hrange⟩ := hoffers
  obtain rfl : s = s' := Option.some.inj (hsession.symm.trans hsession')
  exact hs.get_readRanges hnode (hkept.trans hstored) hnodup (PictureControls.mem_of_range? hrange) _

/-- An open device with a control of the given range accepts an adjustment, and is opened anew after
occasions that do not touch the control. The opening reports `settings`. -/
structure Reopens (nodes : Nat → Prop) (kind : Adjustment) (stored : H → Option Int)
    (range : ControlRange) (value : UInt32) (c : Capture H) (occasions : List (Occasion H))
    (g : Geometry) (settings : AdjustmentSet) : Prop where
  offered : c.Offers nodes kind range
  present : (stored c.hardware).isSome = true
  accepted : (c.adjust kind value).value = .ok ()
  spared : ∀ o ∈ occasions, Stores.Spares stored kind o
  reopened : (((c.adjust kind value).backend.after occasions).openAt g).value = .ok settings
  offeredAgain : (((c.adjust kind value).backend.after occasions).openAt g).backend.Offers nodes kind range

/-- The opening reports what the control makes of the value. -/
theorem Reopens.get_settings {occasions : List (Occasion H)}
    (hs : Stores nodes (controlId kind) stored)
    (h : Reopens nodes kind stored range value c occasions g settings) :
    settings.get kind = range.fromDevice (range.toDevice value) := by
  have hstored := stored_adjust hs h.offered h.present h.accepted
  have hkept := hs.after h.spared (c.adjust kind value).backend
  exact get_of_openAt hs h.reopened h.offeredAgain (hkept.trans hstored)

/-- For every range with a step for each step of the scale, and narrow enough for the numbers of 64
bits, a value of the scale comes back as it was if it falls on a whole step of the range, and as the
value below if not; so all values come back as they were exactly if the scale divides the range. A
device that stores what it is given reports just this value on a later opening, and counts the
adjustment as still to be sent exactly if the value does not fall on a whole step. -/
theorem reads_back (range : ControlRange) (value : UInt32) (hextent : 255 ≤ range.max - range.min)
    (hnarrow : range.Narrow) (hvalue : value.toNat ≤ 255) :
    range.toDevice? value = some (range.toDevice value) ∧
      range.fromDevice? (range.toDevice value) = some (range.fromDevice (range.toDevice value)) ∧
      range.fromDevice (range.toDevice value) = (if range.Exact value then value else value - 1) ∧
      ((∀ v : UInt32, v.toNat ≤ 255 → range.fromDevice (range.toDevice v) = v) ↔
        scaleMax ∣ range.max - range.min) ∧
      ∀ {H : Type} [Hardware H] {nodes : Nat → Prop} {kind : Adjustment} {stored : H → Option Int}
        {c : Capture H} {occasions : List (Occasion H)} {g : Geometry} {settings : AdjustmentSet},
        Stores nodes (controlId kind) stored →
          Reopens nodes kind stored range value c occasions g settings →
            settings.get kind = range.fromDevice (range.toDevice value) ∧
            ∀ requests : AdjustmentRequests, requests.requested kind = some value →
              ((kind, value) ∈ requests.diff settings ↔ ¬ range.Exact value) := by
  have hrange : range.min ≤ range.max := by omega
  refine ⟨ControlRange.toDevice?_eq hnarrow hrange value, ControlRange.fromDevice?_eq hnarrow _,
    ControlRange.fromDevice_toDevice hextent hvalue,
    ControlRange.forall_fromDevice_toDevice_iff hextent, ?_⟩
  intro H _ nodes kind stored c occasions g settings hs hreopens
  have hsettings := hreopens.get_settings hs
  refine ⟨hsettings, ?_⟩
  intro requests hrequested
  rw [AdjustmentRequests.mem_diff_iff, hsettings,
    ← ControlRange.fromDevice_toDevice_eq_iff hextent hvalue]
  simp only [hrequested, true_and, ne_eq, eq_comm]

/-- A camera with one step more than the scale is asked for a brightness of 100, closed, and opened
again. It reports 99, and 100 has to be sent once more. -/
theorem reads_back_of_camera :
    let range : ControlRange := ⟨0, 256⟩
    let camera : Scripted.Node :=
      { Scripted.Node.plain "/dev/video0" "C920" with
        formats := [⟨.packedCode, .packedCode, none⟩]
        controls := [⟨⟨controlId .brightness, 0, 256⟩, some 0, false⟩] }
    let g : Geometry := ⟨4, 2, 30⟩
    let c : Capture Scripted.NodeTable :=
      (((initial ⟨[camera], []⟩).select ⟨"V4L2", "video4linux2", "C920"⟩ 0 .auto).backend.openAt
        g).backend
    255 ≤ range.max - range.min ∧ range.Narrow ∧ (100 : UInt32).toNat ≤ 255 ∧
      ∃ settings : AdjustmentSet,
        (((c.adjust .brightness 100).backend.after [.asked .close]).openAt g).value = .ok settings ∧
        settings.get .brightness = 99 ∧
        (.brightness, 100) ∈ (AdjustmentRequests.empty.request .brightness 100).diff settings := by
  intro range camera g c
  have hextent : 255 ≤ range.max - range.min := by decide
  have hnarrow : range.Narrow := by decide
  have hvalue : (100 : UInt32).toNat ≤ 255 := by decide
  obtain ⟨-, -, hback, -, hdevice⟩ := reads_back range 100 hextent hnarrow hvalue
  let session : Session := ⟨0, ⟨4, 2, .packedCode⟩, ⟨4, 2⟩, ⟨[(.brightness, range)]⟩⟩
  have hreopens : Reopens (fun node => node = 0) .brightness
      (Scripted.NodeTable.stored 0 (controlId .brightness)) range 100 c [.asked .close] g
      ⟨127, 99, 127, 127⟩ :=
    { offered := ⟨session, by decide, rfl, rfl⟩
      present := by decide
      accepted := by decide
      spared := by simp [Stores.Spares]
      reopened := by decide
      offeredAgain := ⟨session, by decide, rfl, rfl⟩ }
  obtain ⟨hsettings, hsent⟩ := hdevice (Scripted.NodeTable.stores 0 (controlId .brightness)) hreopens
  refine ⟨hextent, hnarrow, hvalue, ⟨127, 99, 127, 127⟩, hreopens.reopened, ?_, ?_⟩
  · rw [hsettings, hback]
    decide
  · exact (hsent (AdjustmentRequests.empty.request .brightness 100) rfl).mpr (by decide)

/-- So it is not true of every range that all values of the scale come back as they were. -/
theorem not_reads_back_as_written :
    ¬∀ (range : ControlRange) (value : UInt32), 255 ≤ range.max - range.min → range.Narrow →
      value.toNat ≤ 255 → range.fromDevice (range.toDevice value) = value := by
  intro hall
  have hone : (⟨0, 256⟩ : ControlRange).fromDevice ((⟨0, 256⟩ : ControlRange).toDevice 1) = 1 :=
    hall ⟨0, 256⟩ 1 (by decide) (by decide) (by decide)
  exact absurd hone (by decide)

end Capture

end VideoCapture.V4L2
