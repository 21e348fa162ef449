import VideoCapture.Hotplug.Event

/-!
# The hot-plug hub

The hub passes every event of the monitor on to its listeners, in the order of their registration. A
listener may register further ones while it hears an event; they hear the events after it.

## Main definitions

* `Listener` — what hears events.
* `Hub.announce` — one event to everyone registered before it.
-/

namespace VideoCapture.Hotplug

/-- What hears events. Hearing one may change the listener and yield further listeners. The event
comes with the name of the hub. -/
class Listener (L : Type) where
  hear : Notice → String → L → L × List L

/-- The listeners of a hub in the order of their registration. -/
structure Hub (L : Type) where
  name : String
  listeners : List L

namespace Hub

variable {L : Type}

def empty (name : String) : Hub L := ⟨name, []⟩

def register (l : L) (h : Hub L) : Hub L := { h with listeners := h.listeners ++ [l] }

def count (h : Hub L) : Nat := h.listeners.length

variable [Listener L]

/-- The listener at position `i` hears an event. -/
def tell (notice : Notice) (i : Nat) (h : Hub L) : Hub L :=
  match h.listeners[i]? with
  | none => h
  | some l =>
    let (heard, more) := Listener.hear notice h.name l
    { h with listeners := h.listeners.set i heard ++ more }

/-- The first `n` listeners hear an event, in order. -/
def tellFirst (notice : Notice) (n : Nat) (h : Hub L) : Hub L :=
  (List.range n).foldl (fun h i => h.tell notice i) h

/-- One event to everyone registered before it, and the positions of those who hear it, in order. -/
def announce (notice : Notice) (h : Hub L) : List Nat × Hub L :=
  (List.range h.count, h.tellFirst notice h.count)

def describe (h : Hub L) : String :=
  Text.record "HalCore" [("name", Text.quoted h.name), ("listeners", toString h.count)]

end Hub

end VideoCapture.Hotplug
