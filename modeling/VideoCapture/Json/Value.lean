import VideoCapture.Json.Token

/-!
# JSON values

The value of a JSON text as a tree in the order of the text. A text that stops being JSON still has
a tree: it ends at the point of damage and says so, so a reader that goes through the tree from left
to right meets its own objections before it meets the damage.

## Main definitions

* `Value` — the tree; lists and records know whether they were closed.
* `Document` — the tree of a whole text, and whether nothing else follows it.
* `Document.ofTokens` — one pass over the tokens with a stack of open lists and records.
* `Value.isIntact` — no damage anywhere inside.
-/

namespace VideoCapture.Json

/-- What a value is, seen from its first token. -/
inductive Found where
  | null
  | boolean (b : Bool)
  | numeral (n : Numeral)
  | text (s : Option String)
  | list
  | record
  deriving DecidableEq

/-- How a list or record ends. -/
inductive Ending where
  | closed
  /-- At the point of damage. -/
  | broken
  deriving DecidableEq

/-- A JSON value. The keys of a record are strings, so they may lack a text as strings do. -/
inductive Value where
  | null
  | boolean (b : Bool)
  | numeral (n : Numeral)
  | text (s : Option String)
  | list (items : List Value) (ending : Ending)
  | record (entries : List (Option String × Value)) (ending : Ending)
  /-- No value stands where one was due. -/
  | broken

namespace Value

/-- What a value is at first sight. -/
def found? : Value → Option Found
  | null => some .null
  | boolean b => some (.boolean b)
  | numeral n => some (.numeral n)
  | text s => some (.text s)
  | list _ _ => some .list
  | record _ _ => some .record
  | broken => none

mutual

/-- No damage anywhere inside. -/
def isIntact : Value → Bool
  | list items ending => ending = .closed && areIntact items
  | record entries ending => ending = .closed && entriesIntact entries
  | broken => false
  | _ => true

def areIntact : List Value → Bool
  | [] => true
  | v :: rest => v.isIntact && areIntact rest

def entriesIntact : List (Option String × Value) → Bool
  | [] => true
  | (_, v) :: rest => v.isIntact && entriesIntact rest

end

end Value

/-- The value that a token is, if it is one on its own. -/
def Token.scalar? : Token → Option Value
  | .null => some .null
  | .boolean b => some (.boolean b)
  | .numeral n => some (.numeral n)
  | .text s => some (.text s)
  | _ => none

/-- A list or record that is still open, its last item first. A record also has the key of the value
that is due. -/
inductive Frame where
  | list (items : List Value)
  | record (entries : List (Option String × Value)) (key : Option String)

namespace Frame

/-- The list or record with its last value. -/
def push (v : Value) : Frame → Frame
  | list items => list (v :: items)
  | record entries key => record ((key, v) :: entries) key

/-- The list or record as a value. -/
def close (ending : Ending) : Frame → Value
  | list items => .list items.reverse ending
  | record entries _ => .record entries.reverse ending

end Frame

/-- What may come next. -/
inductive Slot where
  | value
  /-- The first item of a list, or its end. -/
  | item
  /-- A comma, or the end of the list or record. -/
  | comma
  /-- The first key of a record, or its end. -/
  | firstKey
  | key
  /-- The colon after a key. -/
  | colon
  deriving DecidableEq

/-- How far the tree has been built. -/
inductive Build where
  /-- Inside the text: what may come next, and the open lists and records, the innermost first. -/
  | reading (slot : Slot) (stack : List Frame)
  /-- The value is complete. -/
  | finished (v : Value)
  /-- The text is damaged, or goes on after the value. -/
  | spoiled (v : Value)

namespace Build

/-- The tree around a damaged value: everything still open ends there. -/
def unwind (v : Value) : List Frame → Value
  | [] => v
  | f :: rest => unwind ((f.push v).close .broken) rest

/-- The tree when the text ends, or damage stands, where `slot` is due. -/
def damaged (slot : Slot) (stack : List Frame) : Value :=
  match slot, stack with
  | .comma, f :: rest => unwind (f.close .broken) rest
  | .item, f :: rest => unwind ((f.push .broken).close .broken) rest
  | .firstKey, f :: rest => unwind (f.close .broken) rest
  | .key, f :: rest => unwind (f.close .broken) rest
  | _, stack => unwind .broken stack

/-- A complete value goes into the innermost open list or record. -/
def put (v : Value) : List Frame → Build
  | [] => finished v
  | f :: rest => reading .comma (f.push v :: rest)

def value (slot : Slot) (stack : List Frame) (t : Token) : Build :=
  match t with
  | .bracketOpen => reading .item (.list [] :: stack)
  | .braceOpen => reading .firstKey (.record [] none :: stack)
  | _ =>
    match t.scalar? with
    | some v => put v stack
    | none => spoiled (damaged slot stack)

def key (slot : Slot) (stack : List Frame) (t : Token) : Build :=
  match t, stack with
  | .text k, .record entries _ :: rest => reading .colon (.record entries k :: rest)
  | _, _ => spoiled (damaged slot stack)

def feed : Build → Token → Build
  | reading .value stack, t => value .value stack t
  | reading .item (f :: rest), .bracketClose => put (f.close .closed) rest
  | reading .item stack, t => value .item stack t
  | reading .comma (.list items :: rest), .bracketClose => put ((Frame.list items).close .closed) rest
  | reading .comma (.list items :: rest), .comma => reading .value (.list items :: rest)
  | reading .comma (.record entries k :: rest), .braceClose =>
    put ((Frame.record entries k).close .closed) rest
  | reading .comma (.record entries k :: rest), .comma => reading .key (.record entries k :: rest)
  | reading .comma stack, _ => spoiled (damaged .comma stack)
  | reading .firstKey (f :: rest), .braceClose => put (f.close .closed) rest
  | reading .firstKey stack, t => key .firstKey stack t
  | reading .key stack, t => key .key stack t
  | reading .colon stack, .colon => reading .value stack
  | reading .colon stack, _ => spoiled (damaged .colon stack)
  | finished v, _ => spoiled v
  | spoiled v, _ => spoiled v

end Build

/-- The tree of a whole text. -/
structure Document where
  root : Value
  /-- Whether the text is that value and nothing else. -/
  complete : Bool

namespace Document

/-- The document at the end of the text. -/
def ofBuild : Build → Document
  | .reading slot stack => ⟨Build.damaged slot stack, false⟩
  | .finished v => ⟨v, true⟩
  | .spoiled v => ⟨v, false⟩

def ofTokens (ts : List Token) : Document := ofBuild (ts.foldl Build.feed (.reading .value []))

def ofText (text : String) : Document := ofTokens (tokens text)

end Document

end VideoCapture.Json
