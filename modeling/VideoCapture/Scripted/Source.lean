import VideoCapture.PreviewLoop

/-!
# A frame source that follows a script

A source for trials of the preview loop: it has a number of frames, all of one size, and each pull
takes one of them. It may also wait in every pull until it is cancelled.
-/

namespace VideoCapture.Scripted

/-- A source, the frames it has left, and whether its pulls wait. -/
structure Source where
  size : FrameSize
  /-- The value of every byte of the last frame; earlier frames have the higher values. -/
  fill : Nat
  left : Nat
  waits : Bool
  deriving DecidableEq

namespace Source

def pull (s : Source) : PullResult × Source :=
  match s.left with
  | 0 => (if s.waits then .waits else .nothing, s)
  | n + 1 =>
    let frame := Frame.uniform s.size (UInt8.ofNat (s.fill + n))
    (if s.waits then .waits else .frame frame, { s with left := n })

end Source

instance : FrameSource Source where
  pull _ s := s.pull

/-- At most `limit` pauses pass, as long as pulls yield frames. -/
def runFreely : Nat → PreviewLoop Source → PreviewLoop Source
  | 0, l => l
  | limit + 1, l =>
    match l.target? with
    | some (_, s) => if s.left = 0 then l else runFreely limit l.tick
    | none => l

/-- Pauses pass until the attached source has no frame left. -/
def runDry (l : PreviewLoop Source) : PreviewLoop Source :=
  match l.target? with
  | some (_, s) => runFreely s.left l
  | none => l

end VideoCapture.Scripted
