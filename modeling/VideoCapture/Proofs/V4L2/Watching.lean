import VideoCapture.V4L2.Watcher
import VideoCapture.Scripted.Nodes
import VideoCapture.Proofs.Hotplug.Tracking
import Mathlib.Logic.Function.Iterate
import Mathlib.Tactic.Common

/-!
# Removals that match additions

Once a node has vanished it cannot be asked what it was, so the watcher keeps what it learnt when the
node appeared. Whatever appears, vanishes and appears again as something else: when the watcher
reports a removal, it reports the very device that was added last at that place.

## Main definitions

* `SamePlace` — two spellings of one path.
* `lastAdded` — the device that was added last at a place, by what has been reported.
* `Watcher.Conduct` — what each event is reported as.
* `Watcher.after`, `Watcher.log` — the watcher after some occasions, and what it saw meanwhile.

The main statement is `Watcher.removals_match_additions`.
-/

namespace VideoCapture.V4L2

open Hotplug (Report RawDevice Monitor videoSubsystem)

/-! ## Names and paths -/

/-- Two paths lead to the same place. -/
def SamePlace (p q : String) : Prop := Text.pathParts p = Text.pathParts q

instance (p q : String) : Decidable (SamePlace p q) := inferInstanceAs (Decidable (_ = _))

theorem pathPieces_of_plain {cs : List Char} (h : '/' ∉ cs) : Text.pathPieces cs = [cs] := by
  induction cs with
  | nil => rfl
  | cons c rest ih =>
    simp only [List.mem_cons, not_or] at h
    simp [Text.pathPieces, Ne.symm h.1, ih h.2]

/-- Two names in one directory lead to different places. -/
theorem samePlace_video_iff {a b : String} (ha : '/' ∉ a.toList) (hb : '/' ∉ b.toList) :
    SamePlace ("/dev/video" ++ a) ("/dev/video" ++ b) ↔ a = b := by
  have hparts (s : String) (hs : '/' ∉ s.toList) :
      Text.pathParts ("/dev/video" ++ s) = [[], "dev".toList, "video".toList ++ s.toList] := by
    simp [Text.pathParts, Text.pathPieces, pathPieces_of_plain hs]
  rw [SamePlace, hparts a ha, hparts b hb]
  simp [String.toList_inj]

namespace NodeKind

/-- The directory of the nodes of a kind. -/
def dir : NodeKind → String
  | video => deviceDir
  | audio => soundDir

/-- What the names of the nodes of a kind begin with. -/
def stem : NodeKind → String
  | video => "video"
  | audio => "pcm"

end NodeKind

/-- The event is about the node of a kind at a path: the bytes of its name are a text that begins as
the names of the kind do. -/
def DirEvent.IsAbout (kind : NodeKind) (path : String) (e : DirEvent) : Prop :=
  e.dir = kind.dir ∧ ∃ rest, e.name = some (kind.stem ++ rest).toUTF8.data.toList ∧
    path = kind.dir ++ "/" ++ (kind.stem ++ rest)

section Names

variable {kind : NodeKind} {dir name path : String} {e : DirEvent}

theorem nameText?_eq_some_iff {bytes : List UInt8} :
    nameText? bytes = some name ↔ bytes = name.toUTF8.data.toList := by
  unfold nameText? String.fromUTF8?
  constructor
  · intro h
    split at h
    · obtain rfl := Option.some.inj h
      rfl
    · cases h
  · rintro rfl
    rw [Array.toArray_toList]
    exact dif_pos name.isValidUTF8

theorem isPrefixOf_iff_exists_append {stem : String} :
    stem.toList.isPrefixOf name.toList = true ↔ ∃ rest, name = stem ++ rest := by
  rw [List.isPrefixOf_iff_prefix]
  constructor
  · rintro ⟨rest, hrest⟩
    exact ⟨String.ofList rest, by rw [← String.toList_inj]; simp [hrest]⟩
  · rintro ⟨rest, rfl⟩
    exact ⟨rest.toList, by simp⟩

theorem nodeKind?_eq_some_iff :
    nodeKind? dir name = some kind ↔ dir = kind.dir ∧ ∃ rest, name = kind.stem ++ rest := by
  have hdirs : deviceDir ≠ soundDir := by decide
  rw [← isPrefixOf_iff_exists_append]
  unfold nodeKind?
  cases kind with
  | video => simp [NodeKind.dir, NodeKind.stem]
  | audio => simp [NodeKind.dir, NodeKind.stem]; grind

theorem subject?_eq_some_iff : e.subject? = some (kind, path) ↔ e.IsAbout kind path := by
  unfold DirEvent.subject? DirEvent.IsAbout
  constructor
  · intro h
    split at h
    · cases h
    · rename_i name hname
      obtain ⟨bytes, hbytes, htext⟩ := Option.bind_eq_some_iff.mp hname
      obtain ⟨kind', hkind, heq⟩ := Option.map_eq_some_iff.mp h
      obtain ⟨rfl, rfl⟩ := Prod.mk.inj heq
      obtain ⟨hdir, rest, rfl⟩ := nodeKind?_eq_some_iff.mp hkind
      exact ⟨hdir, rest, by rw [hbytes, nameText?_eq_some_iff.mp htext], by rw [hdir]⟩
  · rintro ⟨hdir, rest, hname, rfl⟩
    have htext : e.name.bind nameText? = some (kind.stem ++ rest) := by
      rw [hname, Option.bind_some, nameText?_eq_some_iff]
    have hkind : nodeKind? e.dir (kind.stem ++ rest) = some kind :=
      nodeKind?_eq_some_iff.mpr ⟨hdir, rest, rfl⟩
    rw [htext, ← hdir]
    simp [hkind]

end Names

/-! ## Probing a node several times -/

section Probing

variable {H : Type} [Hardware H] {path : String} {h : H}

/-- The hardware after a path has been probed some times. -/
def lookedAt (path : String) (times : Nat) (h : H) : H := (fun h => (probe path h).2)^[times] h

theorem lookedAt_succ (path : String) (times : Nat) (h : H) :
    lookedAt path (times + 1) h = lookedAt path times (probe path h).2 :=
  Function.iterate_succ_apply _ times h

theorem path_of_probe {n : CaptureNode} (hn : (probe path h).1 = some n) : n.path = path := by
  unfold probe at hn
  grind

/-- The first success ends the probing. -/
theorem probeUpTo_of_found {attempts i : Nat} {n : CaptureNode} (hi : i < attempts)
    (hmissed : ∀ k < i, (probe path (lookedAt path k h)).1 = none)
    (hfound : (probe path (lookedAt path i h)).1 = some n) :
    probeUpTo path attempts h = (some n, lookedAt path (i + 1) h) := by
  induction attempts generalizing i h with
  | zero => omega
  | succ attempts ih =>
    unfold probeUpTo
    cases i with
    | zero =>
      have hfirst : probe path h = (some n, (probe path h).2) := Prod.ext hfound rfl
      rw [hfirst]
      rfl
    | succ i =>
      have hfirst : probe path h = (none, (probe path h).2) := Prod.ext (hmissed 0 (by omega)) rfl
      rw [hfirst, lookedAt_succ]
      refine ih (by omega) (fun k hk => ?_) ?_
      · rw [← lookedAt_succ]
        exact hmissed (k + 1) (by omega)
      · rw [← lookedAt_succ]
        exact hfound

theorem probeUpTo_of_missed {attempts : Nat}
    (hmissed : ∀ k < attempts, (probe path (lookedAt path k h)).1 = none) :
    probeUpTo path attempts h = (none, lookedAt path attempts h) := by
  induction attempts generalizing h with
  | zero => rfl
  | succ attempts ih =>
    have hfirst : probe path h = (none, (probe path h).2) := Prod.ext (hmissed 0 (by omega)) rfl
    rw [probeUpTo, hfirst, lookedAt_succ]
    refine ih fun k hk => ?_
    rw [← lookedAt_succ]
    exact hmissed (k + 1) (by omega)

/-- Whatever a probe finds among some attempts was at that path. -/
theorem path_of_probeUpTo {attempts : Nat} {n : CaptureNode}
    (hn : (probeUpTo path attempts h).1 = some n) : n.path = path := by
  induction attempts generalizing h with
  | zero => cases hn
  | succ attempts ih =>
    unfold probeUpTo at hn
    cases hprobe : probe path h with
    | mk found h' =>
      cases found with
      | none => exact ih (by simpa [hprobe] using hn)
      | some m =>
        obtain rfl : m = n := by simpa [hprobe] using hn
        exact path_of_probe (by rw [hprobe])

end Probing

/-! ## What was added last -/

/-- The report that a node that can capture was added. -/
def CaptureNode.addition (n : CaptureNode) : Report := ⟨.add, videoSubsystem, n.raw⟩

/-- The report is about the video node at a path. -/
def IsAt (path : String) (r : Report) : Prop :=
  r.subsystem = videoSubsystem ∧ SamePlace r.raw.node path

instance (path : String) (r : Report) : Decidable (IsAt path r) :=
  inferInstanceAs (Decidable (_ ∧ _))

/-- The device that was added last at a path and not removed since, by what was reported. -/
def lastAdded (reports : List Report) (path : String) : Option RawDevice :=
  match (reports.filter fun r => IsAt path r).getLast? with
  | some r => if r.action = .add then some r.raw else none
  | none => none

/-- Every removal of a video node is reported with the device that was added last at its path,
counting what was there at the start as added. -/
def Matched (startup reports : List Report) : Prop :=
  ∀ before raw rest, reports = before ++ ⟨.remove, videoSubsystem, raw⟩ :: rest →
    lastAdded (startup ++ before) raw.node = some raw

section Reports

variable {startup reports : List Report} {r : Report} {raw : RawDevice} {path : String}

theorem lastAdded_concat :
    lastAdded (reports ++ [r]) path =
      if IsAt path r then if r.action = .add then some r.raw else none
      else lastAdded reports path := by
  unfold lastAdded
  by_cases hr : IsAt path r <;> simp [List.filter_append, hr]

theorem samePlace_of_lastAdded (h : lastAdded reports path = some raw) :
    SamePlace raw.node path := by
  unfold lastAdded at h
  split at h
  · rename_i r hlast
    have hat : IsAt path r := by simpa using (List.mem_filter.mp (List.mem_of_getLast? hlast)).2
    grind [IsAt]
  · cases h

/-- The spelling of a path does not matter. -/
theorem lastAdded_congr {path' : String} (h : SamePlace path path') :
    lastAdded reports path = lastAdded reports path' := by
  have hat (r : Report) : IsAt path r ↔ IsAt path' r := by
    unfold SamePlace at h
    simp [IsAt, SamePlace, h]
  simp only [lastAdded, hat]

theorem Matched.concat (h : Matched startup reports)
    (hr : ∀ raw, r = ⟨.remove, videoSubsystem, raw⟩ →
      lastAdded (startup ++ reports) raw.node = some raw) :
    Matched startup (reports ++ [r]) := by
  intro before raw rest heq
  rcases List.eq_nil_or_concat rest with rfl | ⟨rest, last, rfl⟩
  · obtain ⟨rfl, hlast⟩ := List.append_inj' heq rfl
    exact hr raw (by simpa using hlast)
  · have hrest : reports ++ [r] = before ++ ⟨.remove, videoSubsystem, raw⟩ :: rest ++ [last] := by
      simpa using heq
    exact h before raw rest (List.append_inj' hrest rfl).1

end Reports

/-! ## What is known of the nodes -/

namespace KnownNodes

variable {known : KnownNodes} {reports : List Report} {path : String}

theorem find?_erase (known : KnownNodes) (path path' : String) :
    (known.erase path).find? path' = if SamePlace path path' then none else known.find? path' := by
  unfold erase find? SamePlace
  induction known with
  | nil => exact (ite_self none).symm
  | cons entry rest ih => grind

theorem find?_insert (known : KnownNodes) (path : String) (raw : RawDevice) (path' : String) :
    (known.insert path raw).find? path' =
      if SamePlace path path' then some raw else known.find? path' := by
  have herased := find?_erase known path path'
  unfold find? SamePlace at *
  grind [insert]

/-- What is known is what was added last. -/
def Tracks (known : KnownNodes) (reports : List Report) : Prop :=
  ∀ path, known.find? path = lastAdded reports path

theorem Tracks.insert (h : known.Tracks reports) (n : CaptureNode) :
    (known.insert n.path n.raw).Tracks (reports ++ [n.addition]) := by
  intro path
  rw [find?_insert, lastAdded_concat, h path]
  have hat : IsAt path n.addition ↔ SamePlace n.path path := by
    simp [IsAt, CaptureNode.addition, CaptureNode.raw]
  simp only [hat]
  rfl

theorem Tracks.erase (h : known.Tracks reports) {raw : RawDevice} (hraw : SamePlace raw.node path) :
    (known.erase path).Tracks (reports ++ [⟨.remove, videoSubsystem, raw⟩]) := by
  intro path'
  rw [find?_erase, lastAdded_concat, h path']
  have hat : IsAt path' ⟨.remove, videoSubsystem, raw⟩ ↔ SamePlace path path' := by
    simp [IsAt, SamePlace, hraw.symm]
  simp [hat]

/-- A report on another subsystem changes nothing. -/
theorem Tracks.other (h : known.Tracks reports) {r : Report} (hr : r.subsystem ≠ videoSubsystem) :
    known.Tracks (reports ++ [r]) := by
  intro path
  rw [lastAdded_concat, h path]
  simp [IsAt, hr]

theorem tracks_ofNodes (nodes : List CaptureNode) :
    (ofNodes nodes).Tracks (nodes.map CaptureNode.addition) := by
  induction nodes using List.reverseRecOn with
  | nil => exact fun _ => rfl
  | append_singleton nodes n ih => simpa [ofNodes] using ih.insert n

end KnownNodes

namespace Watcher

variable {H : Type} [Hardware H] {w : Watcher H}

/-! ## One event -/

/-- How the watcher reports the next event, where `reports` is what was added at the start and what
has been reported since. -/
structure Conduct (canWatch : String → Bool) (reports : List Report) (w : Watcher H) : Prop where
  /-- An event that is not about a node in a directory that can be watched is passed over. -/
  other : ∀ e, (∀ kind path, canWatch e.dir = true → ¬ e.IsAbout kind path) →
    w.observe e = (none, w)
  /-- A sound device that comes or goes is reported, and nothing is remembered of it. -/
  sound : ∀ e path, canWatch e.dir = true → e.IsAbout .audio path →
    w.observe e =
      (some ⟨if e.created then .add else .remove, audioSubsystem, ⟨path, none, none, []⟩⟩, w)
  /-- A video node that appears is reported once, with what the first probe to succeed finds, and this
  is remembered. -/
  appeared : ∀ e path i n, canWatch e.dir = true → e.IsAbout .video path → e.created = true →
    i < 5 → (∀ k < i, (probe path (lookedAt path k w.hardware)).1 = none) →
    (probe path (lookedAt path i w.hardware)).1 = some n →
    n.path = path ∧ w.observe e =
      (some n.addition,
        { w with
          hardware := lookedAt path (i + 1) w.hardware
          known := w.known.insert path n.raw })
  /-- A video node that no probe succeeds at is passed over. -/
  missed : ∀ e path, canWatch e.dir = true → e.IsAbout .video path → e.created = true →
    (∀ k < 5, (probe path (lookedAt path k w.hardware)).1 = none) →
    w.observe e = (none, { w with hardware := lookedAt path 5 w.hardware })
  /-- A video node that vanishes is reported with what was added last at its path. -/
  vanished : ∀ e path raw, canWatch e.dir = true → e.IsAbout .video path → e.created = false →
    lastAdded reports path = some raw →
    w.observe e = (some ⟨.remove, videoSubsystem, raw⟩, { w with known := w.known.erase path })
  /-- A name that vanishes where nothing was added, or not since the last removal, is passed over. -/
  unknown : ∀ e path, canWatch e.dir = true → e.IsAbout .video path → e.created = false →
    lastAdded reports path = none → w.observe e = (none, w)

section Observing

variable {canWatch : String → Bool} {reports : List Report} {e : DirEvent} {path : String}

theorem mem_directories {kind : NodeKind} (h : e.IsAbout kind path) : e.dir ∈ directories := by
  rw [h.1]
  cases kind <;> decide

theorem observe_of_subject {kind : NodeKind} (hwatched : w.watched = directories.filter canWatch)
    (hdir : canWatch e.dir = true) (h : e.IsAbout kind path) :
    w.observe e =
      match kind with
      | .video => if e.created then w.videoCreated path else w.videoDeleted path
      | .audio =>
        (some ⟨if e.created then .add else .remove, audioSubsystem, ⟨path, none, none, []⟩⟩, w) := by
  have hmem : e.dir ∈ w.watched := by
    rw [hwatched]
    exact List.mem_filter.mpr ⟨mem_directories h, hdir⟩
  unfold observe
  rw [if_neg (not_not_intro hmem), subject?_eq_some_iff.mpr h]
  cases kind <;> rfl

/-- The watcher conducts itself so as long as it knows what was added last. -/
theorem conduct (hwatched : w.watched = directories.filter canWatch)
    (hknown : w.known.Tracks reports) : w.Conduct canWatch reports where
  other e h := by
    unfold observe
    split
    · rfl
    · rename_i hmem
      have hdir : canWatch e.dir = true := by
        rw [not_not, hwatched] at hmem
        exact (List.mem_filter.mp hmem).2
      cases hsubject : e.subject? with
      | none => rfl
      | some subject => exact absurd (subject?_eq_some_iff.mp hsubject) (h _ _ hdir)
  sound e path hdir h := observe_of_subject hwatched hdir h
  appeared e path i n hdir h hcreated hi hmissed hfound := by
    refine ⟨path_of_probe hfound, ?_⟩
    rw [observe_of_subject hwatched hdir h]
    simp [hcreated, videoCreated, probeAttempts, probeUpTo_of_found hi hmissed hfound,
      CaptureNode.addition]
  missed e path hdir h hcreated hmissed := by
    rw [observe_of_subject hwatched hdir h]
    simp [hcreated, videoCreated, probeAttempts, probeUpTo_of_missed hmissed]
  vanished e path raw hdir h hcreated hlast := by
    rw [observe_of_subject hwatched hdir h]
    simp [hcreated, videoDeleted, hknown path, hlast]
  unknown e path hdir h hcreated hlast := by
    rw [observe_of_subject hwatched hdir h]
    simp [hcreated, videoDeleted, hknown path, hlast]

/-- All that an event can come to. -/
theorem observe_cases (e : DirEvent) (w : Watcher H) :
    (∃ h, w.observe e = (none, { w with hardware := h })) ∨
    (∃ action path, w.observe e = (some ⟨action, audioSubsystem, ⟨path, none, none, []⟩⟩, w)) ∨
    (∃ (n : CaptureNode) (h : H), w.observe e =
      (some n.addition, { w with hardware := h, known := w.known.insert n.path n.raw })) ∨
    ∃ path raw, w.known.find? path = some raw ∧ w.observe e =
      (some ⟨.remove, videoSubsystem, raw⟩, { w with known := w.known.erase path }) := by
  unfold observe
  split
  · exact .inl ⟨w.hardware, rfl⟩
  · split
    · exact .inl ⟨w.hardware, rfl⟩
    · rename_i path _
      split
      · unfold videoCreated
        split
        · exact .inl ⟨_, rfl⟩
        · rename_i n h hprobe
          obtain rfl : n.path = path := path_of_probeUpTo (by rw [hprobe])
          exact .inr (.inr (.inl ⟨n, h, rfl⟩))
      · unfold videoDeleted
        split
        · exact .inl ⟨w.hardware, rfl⟩
        · rename_i raw hraw
          exact .inr (.inr (.inr ⟨path, raw, hraw, rfl⟩))
    · exact .inr (.inl ⟨_, _, rfl⟩)

end Observing

/-! ## All events -/

/-- An event that was read, with what listing the audio devices yielded at that moment, and what it
was reported as, if it was. -/
structure Sighting where
  event : DirEvent
  listing : Option (List String)
  report : Option Report

/-- What the monitor was told. -/
def Sighting.told? (x : Sighting) : Option Hotplug.Occasion :=
  x.report.map fun report => ⟨report, x.listing⟩

/-- Something that happens while a batch is handled: its next event comes up, with what listing the audio
devices yields at that moment, or the nodes change on their own. -/
inductive Moment (H : Type) where
  | event (e : DirEvent) (listing : Option (List String))
  | changed (change : H → H)

def Moment.event? : Moment H → Option DirEvent
  | .event e _ => some e
  | .changed _ => none

/-- A batch of events that was read, a failure to read one, the call to stop, or a change of the nodes on
their own. The watcher asks whether it was told to stop before it reads, so that a call is never heeded in
the middle of a batch. -/
inductive Occasion (H : Type) where
  | read (batch : List (Moment H))
  | readFailed (noneYet : Bool)
  | stop
  | changed (change : H → H)

namespace Occasion

/-- Events that were read in one go while the nodes stayed as they were. -/
def batch (events : List DirEvent) (listing : Option (List String)) : Occasion H :=
  .read (events.map fun e => .event e listing)

/-- The events of a batch. -/
def events : Occasion H → List DirEvent
  | .read batch => batch.filterMap Moment.event?
  | _ => []

/-- The watcher goes on reading: it was not told to stop, nor did reading fail for good. -/
def goesOn : Occasion H → Bool
  | .readFailed noneYet => noneYet
  | .stop => false
  | _ => true

end Occasion

/-- What comes of one moment while a batch is handled. -/
def attend (w : Watcher H) : Moment H → List Sighting × Watcher H
  | .event e listing => ([⟨e, listing, (w.observe e).1⟩], (w.handleEvent e listing).2)
  | .changed change => ([], { w with hardware := change w.hardware })

/-- The watcher meets one occasion. -/
def meet (w : Watcher H) : Occasion H → List Sighting × Watcher H
  | .read batch =>
    if w.reading then (transcript attend w batch, stateAfter attend w batch) else ([], w)
  | .readFailed noneYet => ([], w.readFailed noneYet)
  | .stop => ([], w.stop)
  | .changed change => ([], { w with hardware := change w.hardware })

/-- The watcher after some occasions. -/
def after : Watcher H → List (Occasion H) → Watcher H := stateAfter meet

/-- The events read on some occasions, in order. -/
def log : Watcher H → List (Occasion H) → List Sighting := transcript meet

section Occasions

variable {reports startup : List Report} {listing : Option (List String)}

theorem meet_read {batch : List (Moment H)} (h : w.reading = true) :
    w.meet (.read batch) = (transcript attend w batch, stateAfter attend w batch) :=
  if_pos h

theorem meet_read_of_ended {batch : List (Moment H)} (h : w.reading = false) :
    w.meet (.read batch) = ([], w) := by
  simp [meet, h]

theorem filterMap_singleton {α β : Type} (f : α → Option β) (a : α) :
    [a].filterMap f = (f a).toList := by
  cases h : f a <;> simp [h]

/-- Observing an event changes no more than the hardware and what is known. -/
theorem observe_frame (e : DirEvent) (w : Watcher H) :
    ∃ h known, (w.observe e).2 = { w with hardware := h, known := known } := by
  rcases observe_cases e w with
    ⟨h, heq⟩ | ⟨action, path, heq⟩ | ⟨n, h, heq⟩ | ⟨path, raw, -, heq⟩ <;> exact ⟨_, _, by rw [heq]⟩

/-- The monitor is told of an event that is reported, and of no other. -/
theorem handleEvent_eq (e : DirEvent) (listing : Option (List String)) (w : Watcher H) :
    w.handleEvent e listing =
      (w.monitor.notices (Sighting.told? ⟨e, listing, (w.observe e).1⟩).toList,
        { (w.observe e).2 with
          monitor := w.monitor.after (Sighting.told? ⟨e, listing, (w.observe e).1⟩).toList }) := by
  obtain ⟨h, known, hstate⟩ := observe_frame e w
  unfold handleEvent
  cases hobserve : w.observe e with
  | mk report w' =>
    obtain rfl : w' = { w with hardware := h, known := known } := by simpa [hobserve] using hstate
    cases report with
    | none => rfl
    | some report => simp [tell, Sighting.told?, Monitor.notices, Monitor.after, Monitor.meet]

/-- What is known stays what was added last. -/
theorem tracks_observe (e : DirEvent) (h : w.known.Tracks reports) :
    (w.observe e).2.known.Tracks (reports ++ (w.observe e).1.toList) := by
  rcases observe_cases e w with
    ⟨hw, heq⟩ | ⟨action, path, heq⟩ | ⟨n, hw, heq⟩ | ⟨path, raw, hraw, heq⟩
  · simpa [heq] using h
  · rw [heq]
    exact h.other (by decide : audioSubsystem ≠ videoSubsystem)
  · rw [heq]
    exact h.insert n
  · rw [heq]
    exact h.erase (samePlace_of_lastAdded ((h path).symm.trans hraw))

/-- A removal is reported with what was added last. -/
theorem matched_observe (e : DirEvent) (hknown : w.known.Tracks (startup ++ reports))
    (h : Matched startup reports) : Matched startup (reports ++ (w.observe e).1.toList) := by
  rcases observe_cases e w with
    ⟨hw, heq⟩ | ⟨action, path, heq⟩ | ⟨n, hw, heq⟩ | ⟨path, raw, hraw, heq⟩
  · simpa [heq] using h
  · rw [heq]
    refine h.concat fun raw hreport => ?_
    have hsubsystem : audioSubsystem = videoSubsystem := congrArg Report.subsystem hreport
    exact absurd hsubsystem (by decide)
  · rw [heq]
    refine h.concat fun raw hreport => ?_
    cases congrArg Report.action hreport
  · rw [heq]
    refine h.concat fun raw' hreport => ?_
    obtain rfl : raw = raw' := congrArg Report.raw hreport
    have hlast : lastAdded (startup ++ reports) path = some raw := (hknown path).symm.trans hraw
    rw [lastAdded_congr (samePlace_of_lastAdded hlast), hlast]

/-- What the events read so far tell about the watcher. -/
structure Kept (watched : List String) (monitor : Monitor) (startup : List Report)
    (seen : List Sighting) (w : Watcher H) : Prop where
  watched : w.watched = watched
  known : w.known.Tracks (startup ++ seen.filterMap Sighting.report)
  matched : Matched startup (seen.filterMap Sighting.report)
  /-- The monitor was told what was reported, in order. -/
  told : w.monitor = monitor.after (seen.filterMap Sighting.told?)

/-- Whatever happens next while a batch is handled, the events read tell about the watcher. -/
theorem Kept.attend {watched : List String} {monitor : Monitor} {seen : List Sighting}
    (h : w.Kept watched monitor startup seen) (m : Moment H) :
    (w.attend m).2.Kept watched monitor startup (seen ++ (w.attend m).1) := by
  cases m with
  | event e listing =>
    obtain ⟨hw, known, hstate⟩ := observe_frame e w
    have hknown := tracks_observe e h.known
    have hmatched := matched_observe e h.known h.matched
    rw [Watcher.attend, handleEvent_eq]
    refine ⟨?_, ?_, ?_, ?_⟩
    · simp [hstate, h.watched]
    · simpa [filterMap_singleton] using hknown
    · simpa [filterMap_singleton] using hmatched
    · simp [filterMap_singleton, Monitor.after_append, h.told]
  | changed change =>
    rw [Watcher.attend, List.append_nil]
    exact ⟨h.watched, h.known, h.matched, h.told⟩

theorem Kept.batch {watched : List String} {monitor : Monitor} {seen : List Sighting}
    (h : w.Kept watched monitor startup seen) (batch : List (Moment H)) :
    (stateAfter Watcher.attend w batch).Kept watched monitor startup
      (seen ++ transcript Watcher.attend w batch) :=
  transcript_induction
    (motive := fun out (w : Watcher H) => w.Kept watched monitor startup (seen ++ out))
    (by simpa using h) (fun _ _ m h => by simpa using h.attend m) batch

/-- Whatever happens next, the events read tell about the watcher. -/
theorem Kept.meet {watched : List String} {monitor : Monitor} {seen : List Sighting}
    (h : w.Kept watched monitor startup seen) (o : Occasion H) :
    (w.meet o).2.Kept watched monitor startup (seen ++ (w.meet o).1) := by
  cases o with
  | read batch =>
    cases hreading : w.reading with
    | false =>
      rw [meet_read_of_ended hreading, List.append_nil]
      exact h
    | true =>
      rw [meet_read hreading]
      exact h.batch batch
  | readFailed noneYet =>
    rw [Watcher.meet, List.append_nil]
    cases noneYet with
    | true => exact h
    | false => exact ⟨h.watched, h.known, h.matched, h.told⟩
  | stop =>
    rw [Watcher.meet, List.append_nil]
    exact ⟨h.watched, h.known, h.matched, h.told⟩
  | changed change =>
    rw [Watcher.meet, List.append_nil]
    exact ⟨h.watched, h.known, h.matched, h.told⟩

/-- Once the watcher reads no more, it sees nothing. -/
theorem log_of_ended (h : w.reading = false) (occasions : List (Occasion H)) :
    w.log occasions = [] := by
  induction occasions generalizing w with
  | nil => rfl
  | cons o rest ih =>
    have hstep : (w.meet o).1 = [] ∧ (w.meet o).2.reading = false := by
      cases o with
      | read batch => simp [meet_read_of_ended h, h]
      | readFailed noneYet => cases noneYet <;> simp [meet, readFailed, h]
      | stop => exact ⟨rfl, rfl⟩
      | changed change => exact ⟨rfl, h⟩
    exact (transcript_cons o rest).trans (by rw [hstep.1]; exact ih hstep.2)

theorem reading_handleEvent (e : DirEvent) (listing : Option (List String)) (w : Watcher H) :
    (w.handleEvent e listing).2.reading = w.reading := by
  obtain ⟨h, known, hstate⟩ := observe_frame e w
  simp [handleEvent_eq, hstate]

/-- The events of a batch are handled in their order, and the watcher reads on. -/
theorem events_batch (w : Watcher H) (batch : List (Moment H)) :
    (transcript attend w batch).map Sighting.event = batch.filterMap Moment.event? ∧
      (stateAfter attend w batch).reading = w.reading := by
  induction batch generalizing w with
  | nil => exact ⟨rfl, rfl⟩
  | cons m rest ih =>
    obtain ⟨hevents, hreading⟩ := ih (w.attend m).2
    rw [transcript_cons, stateAfter_cons, List.map_append, hevents, hreading]
    cases m with
    | event e listing => exact ⟨rfl, reading_handleEvent e listing w⟩
    | changed change => exact ⟨rfl, rfl⟩

/-- The watcher reads the events in their order until it does not go on. -/
theorem events_log (h : w.reading = true) (occasions : List (Occasion H)) :
    (w.log occasions).map Sighting.event =
      (occasions.takeWhile Occasion.goesOn).flatMap Occasion.events := by
  induction occasions generalizing w with
  | nil => rfl
  | cons o rest ih =>
    rw [List.takeWhile_cons]
    cases o with
    | read batch =>
      obtain ⟨hevents, hreading⟩ := events_batch w batch
      have hrest := ih (hreading.trans h)
      rw [log, transcript_cons, meet_read h, List.map_append, hevents]
      exact congrArg (batch.filterMap Moment.event? ++ ·) hrest
    | readFailed noneYet =>
      cases noneYet with
      | true => exact ih h
      | false => exact congrArg (List.map Sighting.event) (log_of_ended rfl rest)
    | stop => exact congrArg (List.map Sighting.event) (log_of_ended rfl rest)
    | changed change => exact ih (w := { w with hardware := change w.hardware }) h

/-- Events read in one go are handled one after the other. -/
theorem handleEvents_eq (events : List DirEvent) (w : Watcher H) :
    let moments : List (Moment H) := events.map fun e => .event e listing
    w.handleEvents listing events =
      (w.monitor.notices ((transcript attend w moments).filterMap Sighting.told?),
        stateAfter attend w moments) := by
  induction events generalizing w with
  | nil => rfl
  | cons e rest ih =>
    have hfirst := handleEvent_eq e listing w
    unfold handleEvents
    dsimp only
    rw [ih, List.map_cons, transcript_cons, stateAfter_cons, List.filterMap_append]
    simp only [attend]
    rw [filterMap_singleton, Monitor.notices_append, hfirst]

/-- A batch of events is handled one after the other; a watcher that reads no more drops it. -/
theorem handleBatch_eq (events : List DirEvent) (listing : Option (List String)) (w : Watcher H) :
    w.handleBatch events listing =
      (w.monitor.notices ((w.log [.batch events listing]).filterMap Sighting.told?),
        w.after [.batch events listing]) := by
  unfold handleBatch log after
  rw [transcript_cons, stateAfter_cons, transcript_nil, stateAfter_nil, List.append_nil, Occasion.batch]
  split
  · rename_i hreading
    rw [meet_read hreading]
    exact handleEvents_eq events w
  · rename_i hreading
    rw [meet_read_of_ended (by simpa using hreading)]
    rfl

/-- At the start nothing has been read, and what is known is what there is. -/
theorem kept_spawn {canWatch : String → Bool} {monitor : Monitor} {hardware : H}
    (h : spawn (.ok ()) canWatch monitor hardware = .ok w) :
    w.Kept (directories.filter canWatch) monitor
      ((listNodes hardware).1.map CaptureNode.addition) [] := by
  obtain rfl := Except.ok.inj h
  refine ⟨rfl, ?_, by simp [Matched], rfl⟩
  rw [List.filterMap_nil, List.append_nil]
  exact KnownNodes.tracks_ofNodes _

theorem kept_after {watched : List String} {monitor : Monitor}
    (h : w.Kept watched monitor startup []) (occasions : List (Occasion H)) :
    (w.after occasions).Kept watched monitor startup (w.log occasions) :=
  transcript_induction (motive := fun seen (w : Watcher H) => w.Kept watched monitor startup seen) h
    (fun _ _ o h => h.meet o) occasions

end Occasions

/-- Whatever nodes there are at the start, whatever batches are read and whatever the nodes do meanwhile,
also while a batch is handled: every removal of a video node is reported with the device that was added last at its path,
and the next event is reported as it should be. Events are read in their order until reading fails for
good or the watcher is stopped, and the monitor is told exactly what is reported. -/
theorem removals_match_additions (canWatch : String → Bool) (monitor : Monitor) (hardware : H) :
    ∃ w₀ : Watcher H, spawn (.ok ()) canWatch monitor hardware = .ok w₀ ∧
      ∀ occasions : List (Occasion H),
        let startup := (listNodes hardware).1.map CaptureNode.addition
        let seen := w₀.log occasions
        let w := w₀.after occasions
        Matched startup (seen.filterMap Sighting.report) ∧
          w.Conduct canWatch (startup ++ seen.filterMap Sighting.report) ∧
          seen.map Sighting.event =
            (occasions.takeWhile Occasion.goesOn).flatMap Occasion.events ∧
          w.monitor = monitor.after (seen.filterMap Sighting.told?) ∧
          ∀ events listing,
            w.handleBatch events listing =
              (w.monitor.notices ((w.log [.batch events listing]).filterMap Sighting.told?),
                w.after [.batch events listing]) := by
  refine ⟨_, rfl, fun occasions => ?_⟩
  intro startup seen w
  have hkept : w.Kept (directories.filter canWatch) monitor startup seen :=
    kept_after (kept_spawn rfl) occasions
  exact ⟨hkept.matched, conduct hkept.watched hkept.known, events_log rfl occasions, hkept.told,
    fun events listing => handleBatch_eq events listing w⟩

/-- A camera vanishes, its name is deleted a second time, another camera that opens late takes its
place, and vanishes too. -/
example :
    let late : Scripted.Node := { Scripted.Node.plain "/dev/video0" "BRIO" with failOpens := 3 }
    let event (mask : UInt32) : Moment Scripted.NodeTable :=
      .event ⟨deviceDir, mask, some "video0".toUTF8.data.toList⟩ none
    let raw (card : String) : RawDevice := ⟨"/dev/video0", some card, some source, ["video_capture"]⟩
    ∃ w₀ : Watcher Scripted.NodeTable,
      spawn (.ok ()) (fun _ => true) (.start none) ⟨[.plain "/dev/video0" "C920"], []⟩ = .ok w₀ ∧
        (w₀.log [.read [event 0x200, event 0x200], .changed fun _ => ⟨[late], []⟩,
            .read [event createdMask, event 0x200]]).map Sighting.report =
          [some ⟨.remove, videoSubsystem, raw "C920"⟩, none, some ⟨.add, videoSubsystem, raw "BRIO"⟩,
            some ⟨.remove, videoSubsystem, raw "BRIO"⟩] :=
  ⟨_, rfl, rfl⟩

/-- A new card comes with a sound device whose name begins with `pcm` but is no text: the event is
read, and not reported. -/
theorem unreadable_name_passed_over :
    let nodes : Scripted.NodeTable := ⟨[], []⟩
    let name : List UInt8 := "pcm".toUTF8.data.toList ++ [0xff]
    ∃ w₀ : Watcher Scripted.NodeTable, spawn (.ok ()) (fun _ => true) (.start (some [])) nodes = .ok w₀ ∧
      soundDir ∈ w₀.watched ∧ w₀.reading = true ∧
      (w₀.log [.batch [⟨soundDir, createdMask, some name⟩] (some ["C920"])]).map Sighting.report =
        [none] ∧
      (w₀.handleBatch [⟨soundDir, createdMask, some name⟩] (some ["C920"])).1 = [] :=
  ⟨_, rfl, by decide, rfl, rfl, rfl⟩

end Watcher

end VideoCapture.V4L2
