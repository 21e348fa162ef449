import VideoCapture.Hotplug.Monitor
import VideoCapture.Proofs.Transcript
import Mathlib.Data.Finset.Card
import Mathlib.Tactic.Common

/-!
# Keeping track of the audio devices

The monitor keeps the latest list of the audio devices, and a listener hears only what it makes of
the differences: every new name, but one missing name at most, and that on a removal only. A listener
that notes down what it hears may go on holding names that are gone. It never lacks one that is there,
and it holds exactly the list as long as no name is lost without being told of.

## Main definitions

* `Occasion` — a notification, with what listing the audio devices yields at that moment.
* `Monitor.after`, `Monitor.notices` — the monitor after some occasions, and what it told meanwhile.
* `Notice.track` — what a listener that keeps track holds after a notice.
* `Monitor.Spares` — an occasion loses no more names than are told of.

The main statement is `Monitor.audio_tracked`.
-/

namespace VideoCapture.Hotplug

/-- A notification, with what listing the audio devices yields at that moment. -/
structure Occasion where
  report : Report
  listing : Option (List String)

namespace Occasion

/-- The audio devices are listed anew when something is added to an audio subsystem or removed. -/
def Relists (o : Occasion) : Prop :=
  o.report.action ≠ .other ∧ classify o.report.subsystem = some .audio

instance (o : Occasion) : Decidable o.Relists := inferInstanceAs (Decidable (_ ∧ _))

/-- The new list of the audio devices, if there is one. -/
def fresh? (o : Occasion) : Option (List String) := if o.Relists then o.listing else none

end Occasion

namespace Notice

/-- The names of audio devices that a listener holds after a notice, if it held `names` before. -/
def track (names : Finset String) (n : Notice) : Finset String :=
  match n.event.deviceClass, n.added with
  | .video, _ => names
  | .audio, true => insert n.event.name names
  | .audio, false => names.erase n.event.name

/-- The notice fits the change from one list to another: a name added is in the second list only, and
a name removed in the first only. -/
def Fits (cached fresh : List String) (n : Notice) : Prop :=
  if n.added then n.event.name ∈ fresh ∧ n.event.name ∉ cached
  else n.event.name ∈ cached ∧ n.event.name ∉ fresh

end Notice

namespace Monitor

/-! ## Differences between two lists -/

/-- The names of `cached` that are not in `fresh`. -/
def lost (cached fresh : List String) : Finset String := cached.toFinset \ fresh.toFinset

section Differences

variable {removing : Bool} {subsystem name : String} {cached fresh : List String}

@[simp, grind =] theorem mem_appeared : name ∈ appeared cached fresh ↔ name ∈ fresh ∧ name ∉ cached := by
  simp [appeared]

@[simp, grind =] theorem mem_lost : name ∈ lost cached fresh ↔ name ∈ cached ∧ name ∉ fresh := by
  simp [lost]

@[grind →] theorem mem_of_vanished (h : vanished? cached fresh = some name) :
    name ∈ cached ∧ name ∉ fresh := by
  have hmissing := List.find?_some h
  exact ⟨List.mem_of_find?_eq_some h, by simpa using hmissing⟩

/-- Where a name is lost, one of them is told of. -/
theorem exists_vanished (hcached : name ∈ cached) (hfresh : name ∉ fresh) :
    ∃ told, vanished? cached fresh = some told := by
  rw [← Option.isSome_iff_exists, vanished?, List.find?_isSome]
  exact ⟨name, hcached, by simpa using hfresh⟩

theorem fits_of_mem_audioNotices {n : Notice}
    (h : n ∈ audioNotices removing subsystem cached fresh) : n.Fits cached fresh := by
  simp only [audioNotices, List.mem_append, List.mem_map] at h
  rcases h with ⟨added, hadded, rfl⟩ | ⟨removed, hremoved, rfl⟩
  · simpa [Notice.Fits] using hadded
  · cases removing with
    | false => simp at hremoved
    | true => exact mem_of_vanished (by simpa using hremoved)

/-- What a listener holds after additions of audio devices. -/
theorem foldl_track_added (names : Finset String) (added : List String) :
    (added.map fun name => (⟨true, ⟨.audio, subsystem, name, .none⟩⟩ : Notice)).foldl Notice.track
      names = names ∪ added.toFinset := by
  induction added generalizing names with
  | nil => simp
  | cons name rest ih =>
    rw [List.map_cons, List.foldl_cons, ih, List.toFinset_cons, Finset.union_insert]
    exact Finset.insert_union name names rest.toFinset

/-- What a listener holds after the audio devices were listed anew: also the new names, but no longer
the one that is told to be missing. -/
theorem mem_track_audioNotices {names : Finset String} :
    name ∈ (audioNotices removing subsystem cached fresh).foldl Notice.track names ↔
      (name ∈ names ∨ name ∈ fresh ∧ name ∉ cached) ∧
        ¬ (removing = true ∧ vanished? cached fresh = some name) := by
  rw [audioNotices, List.foldl_append, foldl_track_added]
  cases removing with
  | false => simp
  | true =>
    cases vanished? cached fresh with
    | none => simp
    | some told => simp [Notice.track]; grind

end Differences

/-! ## Occasions -/

/-- The monitor meets one occasion. -/
def meet (m : Monitor) (o : Occasion) : List Notice × Monitor :=
  m.handle o.report.action o.report.subsystem o.report.raw o.listing

/-- The monitor after some occasions. -/
def after : Monitor → List Occasion → Monitor := stateAfter meet

/-- What the monitor tells on some occasions. -/
def notices : Monitor → List Occasion → List Notice := transcript meet

/-- On this occasion an addition loses no name, and a removal one at most. -/
def Spares (m : Monitor) (o : Occasion) : Prop :=
  ∀ fresh, o.fresh? = some fresh →
    (o.report.action = .add → lost m.audio fresh = ∅) ∧
      (o.report.action = .remove → (lost m.audio fresh).card ≤ 1)

section Occasions

variable {m : Monitor} {o : Occasion} {names : Finset String}

theorem after_append (occasions more : List Occasion) :
    m.after (occasions ++ more) = (m.after occasions).after more :=
  stateAfter_append occasions more

theorem after_concat (occasions : List Occasion) :
    m.after (occasions ++ [o]) = ((m.after occasions).meet o).2 :=
  stateAfter_concat occasions o

theorem notices_append (occasions more : List Occasion) :
    m.notices (occasions ++ more) = m.notices occasions ++ (m.after occasions).notices more :=
  transcript_append occasions more

theorem notices_concat (occasions : List Occasion) :
    m.notices (occasions ++ [o]) = m.notices occasions ++ ((m.after occasions).meet o).1 :=
  transcript_concat occasions o

/-- A new list takes the place of the old one, and the differences are told of. -/
theorem meet_of_fresh {fresh : List String} (h : o.fresh? = some fresh) :
    m.meet o =
      (audioNotices (o.report.action = .remove) o.report.subsystem m.audio fresh, ⟨fresh⟩) := by
  obtain ⟨⟨haction, hclass⟩, hlisting⟩ := Option.ite_none_right_eq_some.mp h
  simp [meet, handle, haction, hclass, hlisting]

/-- Without a new list the old one stays, and no audio device is told of. -/
theorem meet_of_stale (h : o.fresh? = none) :
    (m.meet o).2 = m ∧ ∀ n ∈ (m.meet o).1, n.event.deviceClass = .video := by
  have hstale : o.report.action ≠ .other → classify o.report.subsystem = some .audio →
      o.listing = none := fun haction hclass => by
    simpa [Occasion.fresh?, Occasion.Relists, haction, hclass] using h
  unfold meet handle
  split
  · simp
  · split
    · simp
    · split
      · rename_i event hevent
        unfold captureEvent? at hevent
        grind
      · simp
    · grind

theorem foldl_track_of_video {ns : List Notice} (h : ∀ n ∈ ns, n.event.deviceClass = .video) :
    ns.foldl Notice.track names = names := by
  induction ns with
  | nil => rfl
  | cons n rest ih =>
    have hn : n.track names = names := by rw [Notice.track, h n List.mem_cons_self]
    rw [List.foldl_cons, hn, ih fun n' hn' => h n' (List.mem_cons_of_mem n hn')]

/-- Whatever is told of audio devices fits the change of the list. -/
theorem exists_fresh_of_mem_meet {n : Notice} (hn : n ∈ (m.meet o).1)
    (haudio : n.event.deviceClass = .audio) :
    ∃ fresh, o.fresh? = some fresh ∧ n.Fits m.audio fresh := by
  cases hfresh : o.fresh? with
  | none =>
    have hvideo := (meet_of_stale hfresh).2 n hn
    rw [haudio] at hvideo
    cases hvideo
  | some fresh =>
    rw [meet_of_fresh hfresh] at hn
    exact ⟨fresh, rfl, fits_of_mem_audioNotices hn⟩

/-- A listener that holds every name of the list does so after one more occasion. -/
theorem subset_track_meet (h : m.audio.toFinset ⊆ names) :
    (m.meet o).2.audio.toFinset ⊆ (m.meet o).1.foldl Notice.track names := by
  cases hfresh : o.fresh? with
  | none =>
    obtain ⟨hkept, hvideo⟩ := meet_of_stale (m := m) hfresh
    rwa [hkept, foldl_track_of_video hvideo]
  | some fresh =>
    rw [meet_of_fresh hfresh]
    intro name hname
    rw [mem_track_audioNotices]
    have hin : name ∈ fresh := List.mem_toFinset.mp hname
    refine ⟨?_, fun hvanished => (mem_of_vanished hvanished.2).2 hin⟩
    by_cases hcached : name ∈ m.audio
    · exact .inl (h (List.mem_toFinset.mpr hcached))
    · exact .inr ⟨hin, hcached⟩

/-- A listener that holds exactly the list does so after an occasion that loses no name untold. -/
theorem track_meet_of_spares (hspares : m.Spares o) :
    (m.meet o).1.foldl Notice.track m.audio.toFinset = (m.meet o).2.audio.toFinset := by
  refine Finset.Subset.antisymm ?_ (subset_track_meet (Finset.Subset.refl _))
  cases hfresh : o.fresh? with
  | none =>
    obtain ⟨hkept, hvideo⟩ := meet_of_stale (m := m) hfresh
    rw [hkept, foldl_track_of_video hvideo]
  | some fresh =>
    obtain ⟨hadd, hremove⟩ := hspares fresh hfresh
    rw [meet_of_fresh hfresh]
    intro name hname
    obtain ⟨hheld, htold⟩ := mem_track_audioNotices.mp hname
    by_contra hgone
    have hlost : name ∈ lost m.audio fresh := by simp_all
    have hremoving : o.report.action = .remove := by
      have hrelists : o.Relists := (Option.ite_none_right_eq_some.mp hfresh).1
      cases haction : o.report.action with
      | add => simp [hadd haction] at hlost
      | remove => rfl
      | other => exact absurd haction hrelists.1
    -- The name told to be missing is lost too, and only one name is.
    obtain ⟨told, hvanished⟩ := exists_vanished (mem_lost.mp hlost).1 (mem_lost.mp hlost).2
    have hsame : told = name :=
      Finset.card_le_one.mp (hremove hremoving) told (mem_lost.mpr (mem_of_vanished hvanished))
        name hlost
    exact htold ⟨by simpa using hremoving, hsame ▸ hvanished⟩

end Occasions

/-! ## All occasions -/

/-- The list is the latest one made, or the first one. -/
theorem audio_after (m : Monitor) (occasions : List Occasion) :
    (m.after occasions).audio = (occasions.filterMap Occasion.fresh?).getLast?.getD m.audio := by
  induction occasions using List.reverseRecOn with
  | nil => rfl
  | append_singleton occasions o ih =>
    rw [after_concat, List.filterMap_append]
    cases hfresh : o.fresh? with
    | none => simp [hfresh, (meet_of_stale hfresh).1, ih]
    | some fresh => simp [hfresh, meet_of_fresh hfresh]

theorem subset_track_notices (m : Monitor) (occasions : List Occasion) :
    (m.after occasions).audio.toFinset ⊆
      (m.notices occasions).foldl Notice.track m.audio.toFinset := by
  refine transcript_induction
    (motive := fun told (now : Monitor) =>
      now.audio.toFinset ⊆ told.foldl Notice.track m.audio.toFinset)
    (Finset.Subset.refl _) (fun told now o h => ?_) occasions
  rw [List.foldl_append]
  exact subset_track_meet h

theorem track_notices_of_spares (m : Monitor) {occasions : List Occasion}
    (h : ∀ before o rest, occasions = before ++ o :: rest → (m.after before).Spares o) :
    (m.notices occasions).foldl Notice.track m.audio.toFinset =
      (m.after occasions).audio.toFinset := by
  induction occasions using List.reverseRecOn with
  | nil => rfl
  | append_singleton occasions o ih =>
    have hearlier := ih fun before o' rest heq => h before o' (rest ++ [o]) (by simp [heq])
    rw [after_concat, notices_concat, List.foldl_append, hearlier]
    exact track_meet_of_spares (h occasions o [] rfl)

/-- A monitor keeps the latest list of the audio devices that an addition to an audio subsystem or a
removal from one made it read. Whatever it tells of an audio device fits the change of its list. A
listener that starts with the first list and keeps track of what it is told holds every name in the
list, and exactly those if no addition loses a name and no removal more than one. -/
theorem audio_tracked (listing : Option (List String)) (occasions : List Occasion) :
    let first := start listing
    let m := first.after occasions
    let held := (first.notices occasions).foldl Notice.track first.audio.toFinset
    m.audio = (occasions.filterMap Occasion.fresh?).getLast?.getD (listing.getD []) ∧
      m.audio.toFinset ⊆ held ∧
      (∀ o, ∀ n ∈ (m.meet o).1, n.event.deviceClass = .audio →
        ∃ fresh, o.fresh? = some fresh ∧ n.Fits m.audio fresh) ∧
      ((∀ before o rest, occasions = before ++ o :: rest → (first.after before).Spares o) →
        held = m.audio.toFinset) := by
  intro first m held
  refine ⟨first.audio_after occasions, first.subset_track_notices occasions, ?_,
    first.track_notices_of_spares⟩
  intro o n hn haudio
  exact exists_fresh_of_mem_meet hn haudio

/-- The first list cannot be read; two cards appear, one of them listed twice; and that one goes. -/
theorem audio_tracked_of_cards :
    let raw : RawDevice := ⟨"/dev/snd/pcmC0D0p", none, none, []⟩
    let occasions : List Occasion :=
      [⟨⟨.add, "sound", raw⟩, some ["PCH", "C920", "PCH"]⟩, ⟨⟨.remove, "alsa", raw⟩, some ["C920"]⟩]
    let first := start none
    (first.notices occasions).foldl Notice.track first.audio.toFinset = {"C920"} := by
  intro raw occasions first
  have hspares : ∀ before o rest, occasions = before ++ o :: rest →
      (first.after before).Spares o := by
    intro before o rest h fresh hfresh
    rcases before with _ | ⟨o', _ | ⟨o'', before⟩⟩
    · obtain ⟨rfl, -⟩ := List.cons.inj h
      obtain rfl : ["PCH", "C920", "PCH"] = fresh := Option.some.inj hfresh
      decide
    · obtain ⟨rfl, hrest⟩ := List.cons.inj h
      obtain ⟨rfl, -⟩ := List.cons.inj hrest
      obtain rfl : ["C920"] = fresh := Option.some.inj hfresh
      decide
    · simp [occasions] at h
  rw [(audio_tracked none occasions).2.2.2 hspares]
  rfl

end Monitor

end VideoCapture.Hotplug
