import VideoCapture.Hotplug.Hub

/-!
# A listener that registers others

A listener of the hot-plug hub for trials of the hub itself: on each of its first events it registers
one more listener, which registers none.
-/

namespace VideoCapture.Scripted

open Hotplug

/-- A listener and the number of listeners it has still to register. -/
structure Listener where
  toRegister : Nat
  deriving DecidableEq

instance : Hotplug.Listener Scripted.Listener where
  hear _ _ l :=
    match l.toRegister with
    | 0 => (l, [])
    | n + 1 => (⟨n⟩, [⟨0⟩])

end VideoCapture.Scripted
