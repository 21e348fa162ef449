import VideoCapture.V4L2.Capture
import VideoCapture.Scripted.Nodes
import Mathlib.Tactic.Common

/-!
# One name for every device

A camera is met in three ways: it is listed by the backend, selected by a caller, and plugged in. All
three agree on what it is called. What is listed can be selected and nothing else can, and the device
that a plugged-in node is resolved to is the one it is listed as.

## Main definitions

* `Table` — nodes that do not change, with what each says about itself.
* `Table.ShownBy` — the hardware shows a table.

The main statement is `Capture.named_alike`.
-/

namespace VideoCapture.V4L2

/-! ## Tables of nodes -/

/-- Nodes that do not change: their paths in order, and what the node at a path says about itself, if
it opens and says anything. -/
structure Table where
  paths : List String
  card? : String → Option Card

namespace Table

/-- The nodes that can capture, in order. -/
def captureNodes (t : Table) : List CaptureNode :=
  t.paths.filterMap fun path =>
    (t.card? path).bind fun card => if card.captures then some ⟨path, card.name⟩ else none

variable {H : Type} [Hardware H]

/-- The hardware `h` shows the table, and looking at it does not change it. -/
structure ShownBy (t : Table) (h : H) : Prop where
  paths : Hardware.paths h = (t.paths, h)
  found : ∀ path card, t.card? path = some card →
    ∃ node, Hardware.openNode path h = (.ok node, h) ∧ Hardware.card node h = (.ok card, h)
  missing : ∀ path, t.card? path = none →
    (∃ text, Hardware.openNode path h = (.error text, h)) ∨
      ∃ node text, Hardware.openNode path h = (.ok node, h) ∧
        Hardware.card node h = (.error text, h)

namespace ShownBy

variable {t : Table} {h : H}

theorem probe_eq (hshown : t.ShownBy h) (path : String) :
    probe path h =
      ((t.card? path).bind fun card => if card.captures then some ⟨path, card.name⟩ else none, h) := by
  cases hcard : t.card? path with
  | some card =>
    obtain ⟨node, hopen, hasked⟩ := hshown.found path card hcard
    simp [probe, hopen, hasked]
  | none =>
    rcases hshown.missing path hcard with ⟨text, hopen⟩ | ⟨node, text, hopen, hasked⟩
    · simp [probe, hopen]
    · simp [probe, hopen, hasked]

theorem probeAll_eq (hshown : t.ShownBy h) (paths : List String) :
    probeAll paths h =
      (paths.filterMap fun path =>
        (t.card? path).bind fun card => if card.captures then some ⟨path, card.name⟩ else none, h) := by
  induction paths with
  | nil => rfl
  | cons path rest ih =>
    rw [probeAll, hshown.probe_eq]
    dsimp only
    rw [ih, List.filterMap_cons]
    cases (t.card? path).bind _ <;> rfl

/-- Listing the nodes of a table finds those that can capture, in order. -/
theorem listNodes_eq (hshown : t.ShownBy h) : listNodes h = (t.captureNodes, h) := by
  rw [listNodes, hshown.paths]
  exact hshown.probeAll_eq t.paths

end ShownBy

end Table

end VideoCapture.V4L2

namespace VideoCapture.Scripted.NodeTable

/-- The nodes of a script as a table: the first present node at a path answers for it. -/
def table (t : NodeTable) : V4L2.Table where
  paths := (t.nodes.filter fun n => n.present).map fun n => n.path
  card? path := (t.nodes.find? fun n => n.present && n.path == path).bind fun n =>
    if n.failCaps then none else some ⟨n.card, n.capture⟩

/-- A script shows its table as long as no opening is to fail at first. -/
theorem table_shownBy {t : NodeTable} (h : ∀ n ∈ t.nodes, n.failOpens = 0) : t.table.ShownBy t := by
  have hopen (path : String) (n : Node)
      (hn : t.nodes.find? (fun n => n.present && n.path == path) = some n) :
      ∃ i, V4L2.Hardware.openNode path t = (.ok i, t) ∧
        V4L2.Hardware.card i t = (cardOf n, t) := by
    obtain ⟨i, hi, hget⟩ := Option.bind_eq_some_iff.mp (List.find?_eq_bind_findIdx?_getElem?.symm.trans hn)
    have hready : n.failOpens = 0 := h n (List.mem_of_getElem? hget)
    refine ⟨i, ?_, ?_⟩
    · show openNode path t = _
      simp [openNode, hi, hget, hready]
    · show (t.ask i cardOf, t) = _
      simp [ask, hget]
  refine ⟨rfl, fun path card hcard => ?_, fun path hcard => ?_⟩
  · obtain ⟨n, hn, hsays⟩ := Option.bind_eq_some_iff.mp hcard
    obtain ⟨i, hi, hasked⟩ := hopen path n hn
    refine ⟨i, hi, hasked.trans ?_⟩
    cases hfail : n.failCaps <;> simp [hfail] at hsays
    simp [cardOf, hfail, hsays]
  · cases hn : t.nodes.find? fun n => n.present && n.path == path with
    | none =>
      refine .inl ⟨"sim: no such node", ?_⟩
      have hmissing : t.nodes.findIdx? (fun n => n.present && n.path == path) = none := by
        rw [List.findIdx?_eq_none_iff]
        simpa using hn
      show openNode path t = _
      simp [openNode, hmissing]
    | some n =>
      obtain ⟨i, hi, hasked⟩ := hopen path n hn
      refine .inr ⟨i, "sim: caps", hi, hasked.trans ?_⟩
      have hfail : n.failCaps = true := by simpa [table, hn] using hcard
      simp [cardOf, hfail]

end VideoCapture.Scripted.NodeTable

namespace VideoCapture.V4L2

/-! ## Selecting and resolving -/

namespace Capture

variable {H : Type} [Hardware H]

/-- A device is selected exactly if it is the device of a listed node. -/
theorem select_iff (device : Descriptor) (channel : UInt32) (format : VideoFormat) (c : Capture H) :
    (c.select device channel format).value = true ↔
      device ∈ (listNodes c.hardware).1.map CaptureNode.descriptor := by
  unfold select
  split
  · rename_i hforeign
    simp only [Bool.false_eq_true, List.mem_map, false_iff]
    rintro ⟨n, -, rfl⟩
    exact hforeign rfl
  · dsimp only
    split
    · rename_i n hn
      simp only [List.mem_map, true_iff]
      exact ⟨n, List.mem_of_find?_eq_some hn, by simpa using List.find?_some hn⟩
    · rename_i hnone
      simpa using hnone

/-- The node selected is the first one of that device. -/
theorem exists_first_of_select {device : Descriptor} {channel : UInt32} {format : VideoFormat}
    {c : Capture H} (h : (c.select device channel format).value = true) :
    ∃ before n after, (listNodes c.hardware).1 = before ++ n :: after ∧ n.descriptor = device ∧
      (∀ m ∈ before, m.descriptor ≠ device) ∧
      (c.select device channel format).backend.selected = some ⟨device, n.path, channel, format⟩ := by
  unfold select at h ⊢
  split at h
  · cases h
  · rename_i hframework
    rw [if_neg hframework]
    dsimp only at h ⊢
    split at h
    · rename_i n hn
      obtain ⟨hdevice, before, after, hnodes, hbefore⟩ := List.find?_eq_some_iff_append.mp hn
      exact ⟨before, n, after, hnodes, by simpa using hdevice, by simpa using hbefore, by simp⟩
    · cases h

/-- What the monitor makes of a capture node that comes or goes is resolved to the device of the
node. -/
theorem exists_event_of_raw (n : CaptureNode) (m : Hotplug.Monitor) {action : Hotplug.Action}
    (listing : Option (List String)) (haction : action ≠ .other) :
    ∃ event : Hotplug.Event,
      m.handle action Hotplug.videoSubsystem n.raw listing = ([⟨action = .add, event⟩], m) ∧
        resolve event.framework event.name event.capabilities = some n.descriptor := by
  refine ⟨⟨.video, Hotplug.videoSubsystem, n.card, Capabilities.second⟩, ?_, by simp [resolve]; rfl⟩
  have hevent : Hotplug.Monitor.captureEvent? Hotplug.videoSubsystem n.raw =
      some ⟨.video, Hotplug.videoSubsystem, n.card, Capabilities.second⟩ := by
    have hlevel : Hotplug.levelOf (some source) = some Capabilities.second := by decide
    simp [Hotplug.Monitor.captureEvent?, CaptureNode.raw, hlevel]
  have hclass : Hotplug.classify Hotplug.videoSubsystem = some .video := by decide
  simp [Hotplug.Monitor.handle, haction, hclass, hevent]

/-- Listing, selecting and resolving agree. A device is selected exactly if it is listed, and then its
first node is chosen; what is listed of a table are the nodes that can capture, in order. A capture
node that comes or goes makes the monitor tell of one event, and the event is resolved to the device
that the node is listed as and can be selected by. -/
theorem named_alike (c : Capture H) :
    (∀ device channel format,
      ((c.select device channel format).value = true ↔
        ∃ found, c.devices.value = .ok found ∧ device ∈ found) ∧
      ((c.select device channel format).value = true →
        ∃ before n after, (listNodes c.hardware).1 = before ++ n :: after ∧ n.descriptor = device ∧
          (∀ m ∈ before, m.descriptor ≠ device) ∧
          (c.select device channel format).backend.selected =
            some ⟨device, n.path, channel, format⟩)) ∧
      (∀ t : Table, t.ShownBy c.hardware →
        listNodes c.hardware = (t.captureNodes, c.hardware) ∧
          c.devices = ⟨.ok (t.captureNodes.map CaptureNode.descriptor), [], c⟩) ∧
      ∀ (n : CaptureNode) (m : Hotplug.Monitor) (action : Hotplug.Action) listing, action ≠ .other →
        ∃ event : Hotplug.Event,
          m.handle action Hotplug.videoSubsystem n.raw listing = ([⟨action = .add, event⟩], m) ∧
          Backend.resolve c event.framework event.name event.capabilities = some n.descriptor ∧
          (n ∈ (listNodes c.hardware).1 → ∀ channel format,
            (c.select n.descriptor channel format).value = true) := by
  refine ⟨fun device channel format => ⟨?_, exists_first_of_select⟩, fun t hshown => ?_, ?_⟩
  · rw [select_iff]
    constructor
    · intro hdevice
      exact ⟨_, rfl, hdevice⟩
    · rintro ⟨found, hfound, hdevice⟩
      obtain rfl := Except.ok.inj hfound
      exact hdevice
  · have hlisted := hshown.listNodes_eq
    exact ⟨hlisted, by simp [devices, hlisted]⟩
  · intro n m action listing haction
    obtain ⟨event, htold, hresolved⟩ := exists_event_of_raw n m listing haction
    refine ⟨event, htold, hresolved, fun hn channel format => ?_⟩
    exact (select_iff n.descriptor channel format c).mpr (List.mem_map_of_mem hn)

/-- Two cameras of one name beside a node of theirs that does not capture. -/
theorem named_alike_of_twins :
    let nodes : Scripted.NodeTable :=
      ⟨[{ Scripted.Node.plain "/dev/video0" "C920" with capture := false },
        .plain "/dev/video1" "C920", .plain "/dev/video2" "C920"], []⟩
    let c : Capture Scripted.NodeTable := initial nodes
    let device : Descriptor := ⟨"V4L2", "video4linux2", "C920"⟩
    c.devices.value = .ok [device, device] ∧ (c.select device 0 .auto).value = true := by
  intro nodes c device
  obtain ⟨hselect, htable, -⟩ := named_alike c
  have hshown : nodes.table.ShownBy nodes :=
    Scripted.NodeTable.table_shownBy (by simp [nodes, Scripted.Node.plain])
  have hlisted : c.devices.value = .ok [device, device] := by rw [(htable nodes.table hshown).2]; rfl
  exact ⟨hlisted, (hselect device 0 .auto).1.mpr ⟨_, hlisted, List.mem_cons_self⟩⟩

end Capture

end VideoCapture.V4L2
