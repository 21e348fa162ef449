import VideoCapture.Proofs.V4L2.Sessions
import VideoCapture.Scripted.Nodes

/-!
# Frames of the wanted size

A session keeps one scratch buffer and writes into whatever buffer its caller hands in. None of this
shows: a frame depends on what the driver filled in this time, on the format agreed on at the opening,
and on the size that was asked for.

## Main definitions

* `normalised` — the bytes of a frame as a function of just these.
* `Moment`, `Capture.pass` — what happens to an open device; frames are read into buffers that hold
  anything.

The main statement is `Capture.frames_normalised`.
-/

namespace VideoCapture.V4L2

/-! ## The bytes of a frame -/

/-- Driver bytes as a planar frame of the native size. -/
def nativePlanar (native : StreamFormat) (data : Array UInt8) : Array UInt8 :=
  if native.pixels = PixelFormat.packedCode then
    planarOfPacked data native.width.toNat native.height.toNat
  else fitBytes (planarLength native.width.toNat native.height.toNat) data

/-- Driver bytes as a frame of a wanted size. -/
def normalised (native : StreamFormat) (size : FrameSize) (data : Array UInt8) : Array UInt8 :=
  if native.width = size.width ∧ native.height = size.height then nativePlanar native data
  else
    resizePlanar (nativePlanar native data) native.width.toNat native.height.toNat
      size.width.toNat size.height.toNat

@[simp] theorem size_fitBytes (n : Nat) (bytes : Array UInt8) : (fitBytes n bytes).size = n := by
  simp [fitBytes]
  omega

@[simp] theorem size_nativePlanar (native : StreamFormat) (data : Array UInt8) :
    (nativePlanar native data).size = planarLength native.width.toNat native.height.toNat := by
  unfold nativePlanar
  split <;> simp

@[simp] theorem size_normalised (native : StreamFormat) (size : FrameSize) (data : Array UInt8) :
    (normalised native size data).size = size.byteLength := by
  unfold normalised
  split
  · rename_i hsame
    rw [size_nativePlanar, hsame.1, hsame.2, FrameSize.byteLength]
  · rw [size_resizePlanar, FrameSize.byteLength]

theorem data_normalise (s : Session) (dequeued : Buffer) :
    (s.normalise dequeued).data = normalised s.native s.size dequeued.inUse := rfl

/-! ## An open device -/

/-- Something that happens to a device: a frame is read into a caller's buffer, another call is made,
or the nodes change on their own. -/
inductive Moment (H : Type) where
  | frame (buffer : Array UInt8)
  | other (o : Capture.Occasion H)

/-- The device is not opened anew or closed. -/
def Moment.staysOpen {H : Type} : Moment H → Bool
  | other (.asked r) => !r.turns
  | _ => true

namespace Capture

variable {H : Type} [Hardware H] {c : Capture H} {s : Session}

/-- What one moment leaves behind. -/
def passOne (c : Capture H) : Moment H → Option (Capture H)
  | .frame buffer => (c.readInto buffer).map fun r => r.1.backend
  | .other o => some (c.meet o).2

/-- What some moments leave behind. -/
def pass (c : Capture H) (moments : List (Moment H)) : Option (Capture H) := moments.foldlM passOne c

/-- What a read of an open device comes to, whatever the caller's buffer and the scratch buffer
hold. -/
theorem readInto_of_session (hs : c.session = some s) {buffer bytes : Array UInt8}
    {r : Reply (Capture H) (Except CaptureError FrameSize)} (hread : c.readInto buffer = some (r, bytes)) :
    r.backend.session = some s ∧
      ((∃ dequeued h, Hardware.dequeue s.node c.hardware = (.ok dequeued, h) ∧
        r.value = .ok s.size ∧ bytes = normalised s.native s.size dequeued.inUse) ∨
      ∃ text h device, Hardware.dequeue s.node c.hardware = (.error text, h) ∧
        r.value = .error (.readFailure device text) ∧ bytes = buffer) := by
  match hd : Hardware.dequeue s.node c.hardware with
  | (.ok dequeued, h) =>
    rw [readInto_of_dequeued hs hd] at hread
    split at hread
    · obtain ⟨rfl, rfl⟩ := Prod.mk.inj (Option.some.inj hread)
      exact ⟨hs, .inl ⟨dequeued, h, rfl, rfl, data_normalise s dequeued⟩⟩
    · cases hread
  | (.error text, h) =>
    rw [readInto_of_failed hs hd] at hread
    obtain ⟨rfl, rfl⟩ := Prod.mk.inj (Option.some.inj hread)
    exact ⟨hs, .inr ⟨text, h, _, rfl, rfl, rfl⟩⟩

theorem session_passOne {m : Moment H} {c' : Capture H} (hstays : m.staysOpen = true)
    (hs : c.session = some s) (hpass : c.passOne m = some c') : c'.session = some s := by
  cases m with
  | frame buffer =>
    obtain ⟨⟨r, bytes⟩, hread, rfl⟩ := Option.map_eq_some_iff.mp hpass
    exact (readInto_of_session hs hread).1
  | other o =>
    obtain rfl : (c.meet o).2 = c' := Option.some.inj hpass
    cases o with
    | changed change => exact hs
    | asked r =>
      have hturns : r.turns = false := by simpa [Moment.staysOpen] using hstays
      exact (quiet_ask hturns c).2.trans hs

/-- The session stays what it is as long as the device stays open. -/
theorem session_pass {moments : List (Moment H)} {c' : Capture H}
    (hstay : ∀ m ∈ moments, m.staysOpen = true) (hs : c.session = some s)
    (hpass : c.pass moments = some c') : c'.session = some s := by
  induction moments generalizing c with
  | nil =>
    obtain rfl : c = c' := Option.some.inj hpass
    exact hs
  | cons m rest ih =>
    rw [pass, List.foldlM_cons] at hpass
    obtain ⟨c₁, hone, hrest⟩ := Option.bind_eq_some_iff.mp hpass
    exact ih (fun m' hm' => hstay m' (List.mem_cons_of_mem _ hm'))
      (session_passOne (hstay m List.mem_cons_self) hs hone) hrest

/-- No access fails as long as the device stays open, if there is room for its frames. -/
theorem exists_pass {moments : List (Moment H)} (hstay : ∀ m ∈ moments, m.staysOpen = true)
    (hs : c.session = some s) (hroom : s.hasRoom = true) : ∃ c', c.pass moments = some c' := by
  induction moments generalizing c with
  | nil => exact ⟨c, rfl⟩
  | cons m rest ih =>
    have hone : ∃ c₁, c.passOne m = some c₁ := by
      cases m with
      | frame buffer =>
        have hall : c.session.all Session.hasRoom = true := by rw [hs, Option.all_some, hroom]
        exact ⟨_, by rw [passOne, readInto_eq hall]; rfl⟩
      | other o => exact ⟨_, rfl⟩
    obtain ⟨c₁, hone⟩ := hone
    obtain ⟨c', hrest⟩ := ih (fun m' hm' => hstay m' (List.mem_cons_of_mem _ hm'))
      (session_passOne (hstay m List.mem_cons_self) hs hone)
    refine ⟨c', ?_⟩
    rw [pass] at hrest ⊢
    rw [List.foldlM_cons, hone]
    exact hrest

/-- An opening that succeeds leaves a session in the format agreed on, for frames of the size asked
for. -/
theorem session_openAt {g : Geometry} {settings : AdjustmentSet}
    (hopen : (c.openAt g).value = .ok settings) :
    ∃ sel configured controls h, c.selected = some sel ∧
      configure sel.path g c.close.backend.hardware = (.ok configured, h) ∧
      (c.openAt g).backend.session =
        some ⟨configured.node, configured.native, g.frameSize, controls⟩ := by
  cases hsel : c.selected with
  | none => simp [openAt_of_unselected hsel] at hopen
  | some sel =>
    have hsel' : c.close.backend.selected = some sel := (selected_close c).trans hsel
    cases hconfigure : configure sel.path g c.close.backend.hardware with
    | mk outcome h =>
      cases outcome with
      | error e => simp [openAt, hsel', openSelected, hconfigure] at hopen
      | ok configured =>
        cases hstart : startStream configured.node h with
        | mk outcome h' =>
          cases outcome with
          | error e => simp [openAt, hsel', openSelected, hconfigure, stream, hstart] at hopen
          | ok u =>
            exact ⟨sel, configured, (PictureControls.query configured.node h').1, h, rfl, hconfigure,
              by simp [openAt, hsel', openSelected, hconfigure, stream, hstart]⟩

/-- A device opened at a geometry is read, with whatever buffers, and other things happen to it as long as
it stays open. Where there is room for a frame of the native size and for one of the geometry, no read
fails to give an answer; where there is not, a read fails as soon as the driver has a buffer. A frame that
is read has the size of the geometry and the length for it, and depends on nothing but the bytes that the
driver filled in, the format agreed on at the opening, and the geometry. A read that is answered with an
error leaves the caller's buffer alone. -/
theorem frames_normalised {g : Geometry} {settings : AdjustmentSet}
    (hopen : (c.openAt g).value = .ok settings) :
    ∃ sel configured h, c.selected = some sel ∧
      configure sel.path g c.close.backend.hardware = (.ok configured, h) ∧
      ∀ moments : List (Moment H), (∀ m ∈ moments, m.staysOpen = true) →
        (configured.native.frameSize.byteLength < roomLimit ∧ g.frameSize.byteLength < roomLimit →
          ∃ c', (c.openAt g).backend.pass moments = some c') ∧
        ∀ c', (c.openAt g).backend.pass moments = some c' →
          ∀ buffer,
            (c'.readInto buffer = none ↔
              (roomLimit ≤ configured.native.frameSize.byteLength ∨ roomLimit ≤ g.frameSize.byteLength) ∧
                ∃ dequeued h', Hardware.dequeue configured.node c'.hardware = (.ok dequeued, h')) ∧
            ∀ r bytes, c'.readInto buffer = some (r, bytes) →
              (∃ dequeued h', Hardware.dequeue configured.node c'.hardware = (.ok dequeued, h') ∧
                r.value = .ok g.frameSize ∧ bytes.size = g.frameSize.byteLength ∧
                bytes = normalised configured.native g.frameSize dequeued.inUse) ∨
              ∃ text h' device, Hardware.dequeue configured.node c'.hardware = (.error text, h') ∧
                r.value = .error (.readFailure device text) ∧ bytes = buffer := by
  obtain ⟨sel, configured, controls, h, hsel, hconfigure, hsession⟩ := session_openAt hopen
  have hroom : (Session.mk configured.node configured.native g.frameSize controls).hasRoom = true ↔
      configured.native.frameSize.byteLength < roomLimit ∧ g.frameSize.byteLength < roomLimit := by
    rw [Session.hasRoom, Bool.and_eq_true, FrameSize.fits_iff, FrameSize.fits_iff]
  refine ⟨sel, configured, h, hsel, hconfigure, fun moments hstay => ⟨fun hfits => ?_, ?_⟩⟩
  · exact exists_pass hstay hsession (hroom.mpr hfits)
  · intro c' hpass buffer
    have hs := session_pass hstay hsession hpass
    refine ⟨?_, fun r bytes hread => ?_⟩
    · rw [readInto_eq_none_iff hs, ← Bool.not_eq_true, hroom]
      refine and_congr_left' ?_
      omega
    · obtain ⟨-, ⟨dequeued, h', hd, hvalue, hbytes⟩ | hfailed⟩ := readInto_of_session hs hread
      · refine .inl ⟨dequeued, h', hd, hvalue, ?_, hbytes⟩
        rw [hbytes, size_normalised]
      · exact .inr hfailed

/-- A camera that only has packed frames of 2 by 2 pixels is opened for 4 by 2. A whole frame is read,
and then one of which the driver filled in nothing but the first row. -/
theorem frames_normalised_of_short :
    let whole : Buffer := ⟨#[16, 90, 32, 240, 48, 91, 64, 241], 8⟩
    let short : Buffer := ⟨#[80, 100, 96, 200, 48, 91, 64, 241], 4⟩
    let camera : Scripted.Node :=
      { Scripted.Node.plain "/dev/video0" "C920" with
        formats := [⟨.packedCode, .packedCode, some (2, 2)⟩], frames := [some whole, some short] }
    let g : Geometry := ⟨4, 2, 30⟩
    let c : Capture Scripted.NodeTable :=
      ((initial ⟨[camera], []⟩).select ⟨"V4L2", "video4linux2", "C920"⟩ 0 .auto).backend
    let old : Array UInt8 := Array.replicate 20 7
    (c.openAt g).value = .ok AdjustmentSet.neutral ∧
      ∃ c', (c.openAt g).backend.pass [.frame old] = some c' ∧
        ∃ r, c'.readInto old =
          some (r, #[80, 80, 96, 96, 128, 128, 128, 128, 100, 100, 200, 200]) := by
  intro whole short camera g c old
  have hopen : (c.openAt g).value = .ok AdjustmentSet.neutral := by decide
  obtain ⟨sel, configured, h, hsel, hconfigure, hframes⟩ := frames_normalised hopen
  obtain rfl : sel = ⟨⟨"V4L2", "video4linux2", "C920"⟩, "/dev/video0", 0, .auto⟩ :=
    (Option.some.inj hsel).symm
  obtain rfl : configured = ⟨0, ⟨2, 2, .packedCode⟩, true⟩ :=
    (Except.ok.inj (congrArg Prod.fst hconfigure)).symm
  obtain ⟨hpasses, hreads⟩ := hframes [.frame old] (by decide)
  obtain ⟨c', hpass⟩ := hpasses (by decide)
  have hnext : (Hardware.dequeue 0 c'.hardware).1 = .ok short := by
    have hrun : ((c.openAt g).backend.pass [.frame old]).map
        (fun c => (Hardware.dequeue 0 c.hardware).1) = some (.ok short) := by
      decide +kernel
    simpa [hpass] using hrun
  refine ⟨hopen, c', hpass, ?_⟩
  obtain ⟨hnone, hsome⟩ := hreads c' hpass old
  cases hread : c'.readInto old with
  | none =>
    obtain ⟨hlong, -⟩ := hnone.mp hread
    exact absurd hlong (by decide)
  | some result =>
    obtain ⟨r, bytes⟩ := result
    obtain ⟨dequeued, h', hd, -, -, hbytes⟩ | ⟨text, h', device, hd, -, -⟩ := hsome r bytes hread
    · obtain rfl : dequeued = short := by simpa [hd] using hnext
      have hgrey : normalised ⟨2, 2, .packedCode⟩ g.frameSize short.inUse =
          #[80, 80, 96, 96, 128, 128, 128, 128, 100, 100, 200, 200] := by decide
      exact ⟨r, by rw [hbytes, hgrey]⟩
    · simp [hd] at hnext

end Capture

end VideoCapture.V4L2
