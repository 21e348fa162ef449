import Mathlib.Data.List.Induction
import Mathlib.Tactic.Common
import VideoCapture.Logo.Painting

/-!
# Using the logo

The moving logo is opened at one geometry after the other, closed, and read again and again. Opening puts
the square back but keeps its direction, so a session may begin with a square that heads out of the
picture; what every read does about that is said here.

## Main definitions

* `Logo.Use` — a call, `Logo.after` — what some calls leave behind.
* `Logo.sessionAfter` — the geometry of the session that some calls leave open.
* `Track.Within`, `Track.Inward` — where the square is along an axis, and where it heads.
* `Overlong` — a picture is read for which there is no room.
* `Logo.Kept` — what every call preserves.

The main statements are `Logo.kept_after` and `Logo.after_eq_none_iff`.
-/

namespace VideoCapture

namespace Track

/-- The track lies between the borders. -/
def Within (limit : Nat) (t : Track) : Prop := 0 ≤ t.position ∧ t.position ≤ limit

/-- The track lies between the borders, and heads inwards from a border if there is room. -/
structure Inward (limit : Nat) (t : Track) : Prop where
  within : t.Within limit
  first : 0 < limit → t.position = 0 → 0 < t.velocity
  last : 0 < limit → t.position = limit → t.velocity < 0

variable {limit : Nat} {t : Track}

@[simp] theorem natAbs_velocity_step (limit : Int) (t : Track) :
    (t.step limit).velocity.natAbs = t.velocity.natAbs := by
  unfold step
  grind

/-- Wherever it headed before, a track that moves heads inwards after a step. -/
theorem inward_step (h : t.Within limit) (hmoves : t.velocity ≠ 0) : (t.step limit).Inward limit := by
  obtain ⟨hlow, hhigh⟩ := h
  refine ⟨step_between limit t, ?_, ?_⟩
  · intro hroom hfirst
    unfold step at hfirst ⊢
    grind
  · intro hroom hlast
    unfold step at hlast ⊢
    grind

/-- A track with room to move that heads inwards changes its position. -/
theorem Inward.position_step_ne (h : t.Inward limit) (hroom : 0 < limit) (hmoves : t.velocity ≠ 0) :
    (t.step limit).position ≠ t.position := by
  obtain ⟨⟨hlow, hhigh⟩, hfirst, hlast⟩ := h
  have hfirst' := hfirst hroom
  have hlast' := hlast hroom
  unfold step
  grind

end Track

namespace Logo

/-- A call to the device. Frames are read into buffers that hold anything. -/
inductive Use where
  | devices
  | select (device : Descriptor) (channel : UInt32) (format : VideoFormat)
  | openAt (g : Geometry)
  | close
  | read (buffer : Array UInt8)
  | adjust (kind : Adjustment) (value : UInt32)

/-- The call has nothing to do with the picture. -/
def Use.isIdle : Use → Bool
  | devices | select .. | adjust .. => true
  | openAt _ | close | read _ => false

/-- What one call leaves behind. -/
def useOne (l : Logo) : Use → Option Logo
  | .devices => some (Backend.devices l).backend
  | .select device channel format => some (Backend.select device channel format l).backend
  | .openAt g => some (Backend.openAt g l).backend
  | .close => some (Backend.close l).backend
  | .read buffer => (l.readInto buffer).map fun r => r.1.backend
  | .adjust kind value => some (Backend.adjust kind value l).backend

/-- What some calls leave behind. -/
def after (l : Logo) (uses : List Use) : Option Logo := uses.foldlM useOne l

/-- The geometry of the session that is open after a call. -/
def Use.session (before : Option Geometry) : Use → Option Geometry
  | openAt g => some g
  | close => none
  | _ => before

/-- The geometry of the session that some calls leave open: the one of the last opening, if nothing
was closed since. -/
def sessionAfter (uses : List Use) : Option Geometry := uses.foldl Use.session none

/-- Among the calls is a read of a picture for which no buffer has room. -/
def Overlong (uses : List Use) : Prop :=
  ∃ before buffer after g, uses = before ++ .read buffer :: after ∧ sessionAfter before = some g ∧
    g.frameSize.fits = false

/-- How far the square can move to the right in a picture. -/
def horizontalRoom (g : Geometry) : Nat := g.width.toNat - side g.width.toNat g.height.toNat

/-- How far it can move down. -/
def verticalRoom (g : Geometry) : Nat := g.height.toNat - side g.width.toNat g.height.toNat

/-- What every call preserves. -/
structure Kept (l : Logo) : Prop where
  horizontalSpeed : l.horizontal.velocity.natAbs = 3
  verticalSpeed : l.vertical.velocity.natAbs = 2
  within : ∀ g, l.opened = some g →
    l.horizontal.Within (horizontalRoom g) ∧ l.vertical.Within (verticalRoom g)

/-! ## What each call comes to -/

variable {l : Logo} {g : Geometry} {u : Use}

theorem kept_initial : initial.Kept where
  horizontalSpeed := rfl
  verticalSpeed := rfl
  within g hopened := by cases hopened

theorem Kept.openAt (h : l.Kept) (g : Geometry) : (l.openAt g).Kept where
  horizontalSpeed := h.horizontalSpeed
  verticalSpeed := h.verticalSpeed
  within g' _ := by
    constructor <;> simp [Track.Within, Logo.openAt]

/-- A step of an open device keeps the square in the picture. -/
theorem Kept.advance (h : l.Kept) (hopened : l.opened = some g) :
    (l.advance g.width.toNat g.height.toNat).Kept where
  horizontalSpeed := (Track.natAbs_velocity_step _ _).trans h.horizontalSpeed
  verticalSpeed := (Track.natAbs_velocity_step _ _).trans h.verticalSpeed
  within g' hopened' := by
    obtain rfl : g = g' := Option.some.inj (hopened.symm.trans hopened')
    exact ⟨Track.step_between _ _, Track.step_between _ _⟩

/-- Every call that succeeds opens or closes as it should, and preserves what is to be preserved. -/
theorem Kept.useOne (h : l.Kept) {next : Logo} (hnext : l.useOne u = some next) :
    next.opened = u.session l.opened ∧ next.Kept := by
  cases u with
  | devices | adjust =>
    obtain rfl : l = next := Option.some.inj hnext
    exact ⟨rfl, h⟩
  | select device channel format =>
    obtain rfl := Option.some.inj hnext
    exact ⟨rfl, h.horizontalSpeed, h.verticalSpeed, h.within⟩
  | openAt g =>
    obtain rfl := Option.some.inj hnext
    exact ⟨rfl, h.openAt g⟩
  | close =>
    obtain rfl := Option.some.inj hnext
    refine ⟨rfl, h.horizontalSpeed, h.verticalSpeed, ?_⟩
    intro g hopened
    cases hopened
  | read buffer =>
    cases hopened : l.opened with
    | none =>
      obtain rfl : l = next := by simpa [Logo.useOne, readInto_of_closed hopened] using hnext
      exact ⟨hopened, h⟩
    | some g =>
      cases hfits : g.frameSize.fits with
      | true =>
        obtain rfl : l.advance g.width.toNat g.height.toNat = next := by
          simpa [Logo.useOne, readInto_of_opened hopened hfits] using hnext
        exact ⟨hopened, h.advance hopened⟩
      | false => simp [Logo.useOne, readInto_of_not_fits hopened hfits] at hnext

/-- The only call that can fail is a read, and it does if there is no room for the picture. -/
theorem useOne_eq_none_iff :
    l.useOne u = none ↔
      ∃ buffer g, u = .read buffer ∧ l.opened = some g ∧ g.frameSize.fits = false := by
  cases u with
  | read buffer =>
    cases hopened : l.opened with
    | none => simp [Logo.useOne, readInto_of_closed hopened]
    | some g => cases hfits : g.frameSize.fits <;>
        simp [Logo.useOne, readInto_eq, hasRoom_of_opened hopened, hfits]
  | _ => simp [Logo.useOne]

/-! ## All calls -/

theorem after_concat (l : Logo) (uses : List Use) (u : Use) :
    l.after (uses ++ [u]) = (l.after uses).bind fun next => next.useOne u := by
  simp [after, List.foldlM_append]

theorem sessionAfter_concat (uses : List Use) (u : Use) :
    sessionAfter (uses ++ [u]) = u.session (sessionAfter uses) := by
  simp [sessionAfter]

theorem overlong_concat {uses : List Use} :
    Overlong (uses ++ [u]) ↔ Overlong uses ∨
      ∃ buffer g, u = .read buffer ∧ sessionAfter uses = some g ∧ g.frameSize.fits = false := by
  constructor
  · rintro ⟨before, buffer, after, g, heq, hsession, hfits⟩
    rcases List.eq_nil_or_concat after with rfl | ⟨after, last, rfl⟩
    · obtain ⟨rfl, hlast⟩ := List.append_inj' heq rfl
      obtain rfl : u = .read buffer := by simpa using hlast
      exact .inr ⟨buffer, g, rfl, hsession, hfits⟩
    · rw [List.concat_eq_append, ← List.cons_append, ← List.append_assoc] at heq
      exact .inl ⟨before, buffer, after, g, (List.append_inj' heq rfl).1, hsession, hfits⟩
  · rintro (⟨before, buffer, after, g, rfl, hsession, hfits⟩ | ⟨buffer, g, rfl, hsession, hfits⟩)
    · exact ⟨before, buffer, after ++ [u], g, by simp, hsession, hfits⟩
    · exact ⟨uses, buffer, [], g, rfl, hsession, hfits⟩

/-- After any sequence of calls the session is the one that the calls left open, the square has its speed
on both axes and lies in the picture. -/
theorem kept_after {uses : List Use} (h : initial.after uses = some l) :
    l.opened = sessionAfter uses ∧ l.Kept := by
  induction uses using List.reverseRecOn generalizing l with
  | nil =>
    obtain rfl : initial = l := Option.some.inj h
    exact ⟨rfl, kept_initial⟩
  | append_singleton uses u ih =>
    rw [after_concat] at h
    obtain ⟨before, hbefore, hlast⟩ := Option.bind_eq_some_iff.mp h
    obtain ⟨hopened, hkept⟩ := ih hbefore
    obtain ⟨hsession, hkept'⟩ := hkept.useOne hlast
    exact ⟨by rw [hsession, hopened, sessionAfter_concat], hkept'⟩

/-- A sequence of calls comes to an end before its time exactly if it reads a picture for which there is no
room. -/
theorem after_eq_none_iff (uses : List Use) : initial.after uses = none ↔ Overlong uses := by
  induction uses using List.reverseRecOn with
  | nil => simp [after, Overlong]
  | append_singleton uses u ih =>
    rw [after_concat, overlong_concat, ← ih]
    cases h : initial.after uses with
    | none => simp
    | some l => simp [useOne_eq_none_iff, (kept_after h).1]

theorem exists_useOne_of_isIdle (h : u.isIdle = true) (l : Logo) :
    ∃ next, l.useOne u = some next ∧ next.opened = l.opened ∧
      next.horizontal = l.horizontal ∧ next.vertical = l.vertical := by
  cases u with
  | devices => exact ⟨l, rfl, rfl, rfl, rfl⟩
  | select device channel format => exact ⟨_, rfl, rfl, rfl, rfl⟩
  | adjust kind value => exact ⟨l, rfl, rfl, rfl, rfl⟩
  | openAt g => cases h
  | close => cases h
  | read buffer => cases h

/-- Calls that have nothing to do with the picture leave the session and the square alone. -/
theorem exists_after_of_isIdle {uses : List Use} (h : ∀ u ∈ uses, u.isIdle = true) (l : Logo) :
    ∃ next, l.after uses = some next ∧ next.opened = l.opened ∧
      next.horizontal = l.horizontal ∧ next.vertical = l.vertical := by
  induction uses generalizing l with
  | nil => exact ⟨l, rfl, rfl, rfl, rfl⟩
  | cons u rest ih =>
    obtain ⟨next, hone, hopened, hhorizontal, hvertical⟩ :=
      exists_useOne_of_isIdle (h u List.mem_cons_self) l
    obtain ⟨last, hrest, hopened', hhorizontal', hvertical'⟩ :=
      ih (fun u' hu' => h u' (List.mem_cons_of_mem u hu')) next
    refine ⟨last, ?_, hopened'.trans hopened, hhorizontal'.trans hhorizontal,
      hvertical'.trans hvertical⟩
    rw [after] at hrest ⊢
    rw [List.foldlM_cons, hone]
    exact hrest

end Logo

end VideoCapture
