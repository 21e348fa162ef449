import VideoCapture.Controller.Delivery
import VideoCapture.Scripted.Camera

/-!
# An observer that follows rules

An observer for trials of the controller: each of its rules names a kind of notification, what to ask
for when such a notification arrives, and how often.
-/

namespace VideoCapture.Scripted

inductive NotificationKind where
  | opened
  | closed
  | error
  | added
  | removed
  deriving DecidableEq

def NotificationKind.of : Notification → NotificationKind
  | .opened .. => opened
  | .closed .. => closed
  | .error .. => error
  | .added .. => added
  | .removed .. => removed

/-- What to ask for when a notification arrives, and how often. -/
structure Rule where
  kind : NotificationKind
  steps : List (Operation Camera)
  times : Nat

/-- An observer with rules. -/
structure Recorder where
  rules : List Rule

namespace Recorder

/-- Uses up the first rule for a kind of notification that has times left. -/
def react (kind : NotificationKind) : List Rule → List (Operation Camera) × List Rule
  | [] => ([], [])
  | r :: rest =>
    if r.kind = kind ∧ r.times ≠ 0 then (r.steps, { r with times := r.times - 1 } :: rest)
    else
      let (ops, rules) := react kind rest
      (ops, r :: rules)

end Recorder

instance : Observer Camera Recorder where
  receive n o :=
    let (ops, rules) := Recorder.react (NotificationKind.of n) o.rules
    (ops, ⟨rules⟩)
  patience o := o.rules.foldl (fun n r => n + r.times) 0

end VideoCapture.Scripted
