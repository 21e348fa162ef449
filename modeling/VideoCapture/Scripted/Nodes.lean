import VideoCapture.V4L2.Hardware

/-!
# Device nodes that follow a script

Hardware for trials of the Video4Linux2 backend and of the watcher: a table of nodes whose answers
are set beforehand. Calls that configure or drive a node are written down.
-/

namespace VideoCapture.Scripted

open V4L2

/-- A control and its value, if it can be read. -/
structure Control where
  info : ControlInfo
  value : Option Int
  /-- Whether its value reads as a truth value. -/
  boolean : Bool
  deriving DecidableEq

/-- A format that a node takes up: what is asked for, what is given, and the size if it is not the
one asked for. -/
structure Offer where
  asked : PixelFormat
  given : PixelFormat
  size : Option (UInt32 × UInt32)
  deriving DecidableEq

structure Node where
  path : String
  card : String
  present : Bool
  capture : Bool
  /-- How many openings still fail. -/
  failOpens : Nat
  failCaps : Bool
  formats : List Offer
  rateOk : Bool
  failControls : Bool
  controls : List Control
  failSet : Bool
  failMap : Bool
  failStart : Bool
  failStop : Bool
  /-- The buffers it delivers; nothing stands for a failure. -/
  frames : List (Option Buffer)
  deriving DecidableEq

/-- A node that captures and takes up no format. -/
def Node.plain (path card : String) : Node where
  path
  card
  present := true
  capture := true
  failOpens := 0
  failCaps := false
  formats := []
  rateOk := true
  failControls := false
  controls := []
  failSet := false
  failMap := false
  failStart := false
  failStop := false
  frames := []

/-- A call that was written down. -/
inductive NodeCall where
  | setFormat (format : StreamFormat)
  | setRate (fps : UInt32)
  | writeControl (id : UInt32) (raw : Int)
  | map (count : Nat)
  | streamOn
  | streamOff
  deriving DecidableEq

/-- A table of nodes and the calls so far. -/
structure NodeTable where
  nodes : List Node
  calls : List NodeCall
  deriving DecidableEq

namespace NodeTable

def note (call : NodeCall) (t : NodeTable) : NodeTable := { t with calls := t.calls ++ [call] }

def replace (i : Nat) (n : Node) (t : NodeTable) : NodeTable :=
  { t with nodes := t.nodes.set i n }

def ask {α : Type} (i : Nat) (f : Node → Except String α) (t : NodeTable) : Except String α :=
  match t.nodes[i]? with
  | some n => f n
  | none => .error "sim: no such node"

/-- Opening the first present node with a path. -/
def openNode (path : String) (t : NodeTable) : Except String Nat × NodeTable :=
  match t.nodes.findIdx? fun n => n.present && n.path == path with
  | none => (.error "sim: no such node", t)
  | some i =>
    match t.nodes[i]? with
    | some n =>
      if n.failOpens = 0 then (.ok i, t)
      else (.error "sim: busy", t.replace i { n with failOpens := n.failOpens - 1 })
    | none => (.error "sim: no such node", t)

/-- What a node says about itself. -/
def cardOf (n : Node) : Except String Card :=
  if n.failCaps then .error "sim: caps" else .ok ⟨n.card, n.capture⟩

/-- What a node gives for a format. -/
def giveFormat (wanted : StreamFormat) (n : Node) : Except String StreamFormat :=
  match n.formats.find? fun o => o.asked = wanted.pixels with
  | none => .error "sim: format"
  | some o =>
    let (width, height) := o.size.getD (wanted.width, wanted.height)
    .ok ⟨width, height, o.given⟩

/-- The value of the first control with a number. -/
def valueOf (id : UInt32) (n : Node) : Except String ControlValue :=
  match n.controls.find? fun c => c.info.id = id with
  | none => .error "sim: control"
  | some c =>
    match c.value with
    | none => .error "sim: control"
    | some v => .ok (if c.boolean then .boolean (v ≠ 0) else .integer v)

/-- The controls with a new value in the first one with a number. -/
def setFirst (id : UInt32) (raw : Int) : List Control → List Control
  | [] => []
  | c :: rest =>
    if c.info.id = id then { c with value := some raw } :: rest else c :: setFirst id raw rest

def writeControl (i : Nat) (id : UInt32) (raw : Int) (t : NodeTable) :
    Except String Unit × NodeTable :=
  let t := t.note (.writeControl id raw)
  match t.nodes[i]? with
  | none => (.error "sim: no such node", t)
  | some n =>
    if n.failSet then (.error "sim: set control", t)
    else (.ok (), t.replace i { n with controls := setFirst id raw n.controls })

/-- Taking the next buffer. -/
def dequeue (i : Nat) (t : NodeTable) : Except String Buffer × NodeTable :=
  match t.nodes[i]? with
  | none => (.error "sim: no such node", t)
  | some n =>
    match n.frames with
    | [] => (.error "sim: no more frames", t)
    | frame :: rest =>
      (match frame with
        | some buffer => .ok buffer
        | none => .error "sim: dequeue",
        t.replace i { n with frames := rest })

/-- A failure with a text, or success. -/
def failIf (b : Bool) (text : String) : Except String Unit := if b then .error text else .ok ()

instance : Hardware NodeTable where
  paths t := ((t.nodes.filter fun n => n.present).map fun n => n.path, t)
  openNode := openNode
  card i t := (t.ask i cardOf, t)
  setFormat i wanted t := (t.ask i (giveFormat wanted), t.note (.setFormat wanted))
  setRate i fps t := (t.ask i fun n => failIf (!n.rateOk) "sim: fps", t.note (.setRate fps))
  controls i t :=
    (t.ask i fun n =>
      if n.failControls then .error "sim: controls" else .ok (n.controls.map fun c => c.info), t)
  readControl i id t := (t.ask i (valueOf id), t)
  writeControl := writeControl
  mapBuffers i count t := (t.ask i fun n => failIf n.failMap "sim: map", t.note (.map count))
  streamOn i t := (t.ask i fun n => failIf n.failStart "sim: stream on", t.note .streamOn)
  streamOff i t := (t.ask i fun n => failIf n.failStop "sim: stream off", t.note .streamOff)
  dequeue := dequeue

end NodeTable

end VideoCapture.Scripted
