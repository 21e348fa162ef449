import VideoCapture.Settings
import VideoCapture.Error
import VideoCapture.Json.Value
import VideoCapture.Text.Record

/-!
# Reading settings

A settings document is a record of the known fields, in any order; absent ones keep their defaults
and unknown ones are ignored. It may also be a list of the fields in the order of their declaration,
cut short anywhere. The records inside are either complete records or complete lists.

Objections are raised from left to right, and an absent field of an inner record at its end.

## Main definitions

* `ReadError` — why a document is refused.
* `readStruct` — a complete record or list whose fields are all of one kind.
* `Settings.ofValue`, `Settings.parse` — settings from a tree and from a text.
* `Settings.load` — settings from a document, refused as invalid settings.
-/

namespace VideoCapture

open Json

/-- What stands where something else is expected. -/
inductive Misfit where
  | null
  | boolean (b : Bool)
  | integer (n : Int)
  | floating
  | text (s : String)
  | list
  | record
  deriving DecidableEq

namespace Misfit

def describe : Misfit → String
  | null => "null"
  | boolean b => "boolean `" ++ Text.boolean b ++ "`"
  | integer n => "integer `" ++ toString n ++ "`"
  | floating => "floating point"
  | text s => "string " ++ Text.quoted s
  | list => "sequence"
  | record => "map"

end Misfit

/-- Why a document is refused. -/
inductive ReadError where
  /-- The text is not JSON, or not in a way that can be named. -/
  | malformed
  | missingField (name : String)
  | duplicateField (name : String)
  /-- No video standard has this name. -/
  | unknownVariant (name : String)
  /-- Something of another kind stands there. -/
  | invalidType (found : Misfit) (expected : String)
  /-- An integer does not fit. -/
  | invalidValue (n : Int) (expected : String)
  /-- A list is too short. -/
  | invalidLength (length : Nat) (expected : String)
  deriving DecidableEq

namespace ReadError

def message : ReadError → String
  | malformed => "malformed document"
  | missingField name => "missing field `" ++ name ++ "`"
  | duplicateField name => "duplicate field `" ++ name ++ "`"
  | unknownVariant name =>
    "unknown variant `" ++ name ++ "`, expected one of "
      ++ ", ".intercalate (VideoFormat.all.map fun f => "`" ++ f.key ++ "`")
  | invalidType found expected => "invalid type: " ++ found.describe ++ ", expected " ++ expected
  | invalidValue n expected =>
    "invalid value: integer `" ++ toString n ++ "`, expected " ++ expected
  | invalidLength length expected =>
    "invalid length " ++ toString length ++ ", expected " ++ expected

end ReadError

/-- The objection to something that stands where `expected` is due. Something unreadable is
malformed instead. -/
def mismatch (found : Option Found) (expected : String) : ReadError :=
  match found with
  | some .null => .invalidType .null expected
  | some (.boolean b) => .invalidType (.boolean b) expected
  | some (.numeral n) =>
    match n.reading with
    | .integer n => .invalidType (.integer n) expected
    | .floating => .invalidType .floating expected
    | .beyond => .malformed
  | some (.text (some s)) => .invalidType (.text s) expected
  | some (.text none) => .malformed
  | some .list => .invalidType .list expected
  | some .record => .invalidType .record expected
  | none => .malformed

def readWord (v : Value) : Except ReadError UInt32 :=
  match v with
  | .numeral n =>
    match n.reading with
    | .integer i =>
      if 0 ≤ i ∧ i < 0x100000000 then .ok (UInt32.ofNat i.toNat) else .error (.invalidValue i "u32")
    | _ => .error (mismatch v.found? "u32")
  | _ => .error (mismatch v.found? "u32")

def readText (v : Value) : Except ReadError String :=
  match v with
  | .text (some s) => .ok s
  | _ => .error (mismatch v.found? "a string")

/-- The fields of a record whose values `read` understands. `known` are the names of the fields, and
`got` those read so far. -/
def readEntries {α : Type} (known : List String) (read : Value → Except ReadError α)
    (got : List (String × α)) : List (Option String × Value) → Except ReadError (List (String × α))
  | [] => .ok got
  | (none, _) :: _ => .error .malformed
  | (some key, v) :: rest =>
    if key ∈ known then
      if got.any (fun f => f.1 = key) then .error (.duplicateField key)
      else
        match read v with
        | .ok a => readEntries known read ((key, a) :: got) rest
        | .error e => .error e
    else if v.isIntact then readEntries known read got rest
    else .error .malformed

/-- The values of the fields in the order of `names`. -/
def collectFields {α : Type} (got : List (String × α)) : List String → Except ReadError (List α)
  | [] => .ok []
  | name :: rest =>
    match got.lookup name with
    | none => .error (.missingField name)
    | some a =>
      match collectFields got rest with
      | .ok as => .ok (a :: as)
      | .error e => .error e

/-- The first `due` items of a list. `length` items were read before them; `short` is the objection
to a list that is closed too early. -/
def readItems {α : Type} (read : Value → Except ReadError α) (short : Nat → ReadError)
    (ending : Ending) (length : Nat) : Nat → List Value → Except ReadError (List α)
  | 0, [] => if ending = .closed then .ok [] else .error .malformed
  | 0, _ :: _ => .error .malformed
  | _ + 1, [] => .error (if ending = .closed then short length else .malformed)
  | due + 1, v :: rest =>
    match read v with
    | .error e => .error e
    | .ok a =>
      match readItems read short ending (length + 1) due rest with
      | .ok as => .ok (a :: as)
      | .error e => .error e

/-- A record or list with exactly the given fields, all understood by `read`; the values come in the
order of `names`. -/
def readStruct {α : Type} (name : String) (names : List String)
    (read : Value → Except ReadError α) (v : Value) : Except ReadError (List α) :=
  let expected := "struct " ++ name
  match v with
  | .record entries ending =>
    match readEntries names read [] entries with
    | .error e => .error e
    | .ok got => if ending = .closed then collectFields got names else .error .malformed
  | .list items ending =>
    let short (length : Nat) : ReadError :=
      .invalidLength length (expected ++ " with " ++ toString names.length ++ " elements")
    readItems read short ending 0 names.length items
  | _ => .error (mismatch v.found? expected)

def Descriptor.ofJson (v : Value) : Except ReadError Descriptor :=
  match readStruct "DeviceDescriptor" ["framework", "source", "name"] readText v with
  | .ok [framework, source, name] => .ok ⟨framework, source, name⟩
  | .ok _ => .error .malformed
  | .error e => .error e

def Geometry.ofJson (v : Value) : Except ReadError Geometry :=
  match readStruct "Geometry" ["width", "height", "fps"] readWord v with
  | .ok [width, height, fps] => .ok ⟨width, height, fps⟩
  | .ok _ => .error .malformed
  | .error e => .error e

def AdjustmentSet.ofJson (v : Value) : Except ReadError AdjustmentSet :=
  match readStruct "AdjustmentSet" ["colour", "brightness", "whiteness", "contrast"] readWord v with
  | .ok [colour, brightness, whiteness, contrast] =>
    .ok ⟨colour, brightness, whiteness, contrast⟩
  | .ok _ => .error .malformed
  | .error e => .error e

def VideoFormat.ofName (name : String) : Except ReadError VideoFormat :=
  match VideoFormat.ofKey? name with
  | some f => .ok f
  | none => .error (.unknownVariant name)

/-- A video standard: its name, or a record that maps its name to null. -/
def VideoFormat.ofJson (v : Value) : Except ReadError VideoFormat :=
  match v with
  | .text (some name) => VideoFormat.ofName name
  | .record ((some name, inner) :: rest) ending =>
    match VideoFormat.ofName name with
    | .error e => .error e
    | .ok f =>
      match inner with
      | .null => if rest.isEmpty && ending = .closed then .ok f else .error .malformed
      | _ => .error (mismatch inner.found? "unit")
  | _ => .error .malformed

/-- Adjustments that may be absent. -/
def readAdjustments (v : Value) : Except ReadError (Option AdjustmentSet) :=
  match v with
  | .null => .ok none
  | _ =>
    match AdjustmentSet.ofJson v with
    | .ok s => .ok (some s)
    | .error e => .error e

inductive SettingsField where
  | device
  | channel
  | format
  | preview
  | stream
  | adjustments
  deriving DecidableEq

namespace SettingsField

/-- Every field in the order of declaration. -/
def all : List SettingsField := [device, channel, format, preview, stream, adjustments]

def key : SettingsField → String
  | device => "device"
  | channel => "channel"
  | format => "format"
  | preview => "preview"
  | stream => "stream"
  | adjustments => "adjustments"

def ofKey? (name : String) : Option SettingsField := all.find? fun f => f.key = name

/-- `s` with the field read from a value. -/
def read (f : SettingsField) (v : Value) (s : Settings) : Except ReadError Settings :=
  match f with
  | device => (Descriptor.ofJson v).map fun x => { s with device := x }
  | channel => (readWord v).map fun x => { s with channel := x }
  | format => (VideoFormat.ofJson v).map fun x => { s with format := x }
  | preview => (Geometry.ofJson v).map fun x => { s with preview := x }
  | stream => (Geometry.ofJson v).map fun x => { s with stream := x }
  | adjustments => (readAdjustments v).map fun x => { s with adjustments := x }

end SettingsField

namespace Settings

/-- The fields of a record read into `s`; `seen` are the fields read before. -/
def readFields (seen : List SettingsField) (s : Settings) :
    List (Option String × Value) → Except ReadError Settings
  | [] => .ok s
  | (none, _) :: _ => .error .malformed
  | (some key, v) :: rest =>
    match SettingsField.ofKey? key with
    | some f =>
      if f ∈ seen then .error (.duplicateField key)
      else
        match f.read v s with
        | .ok s => readFields (f :: seen) s rest
        | .error e => .error e
    | none => if v.isIntact then readFields seen s rest else .error .malformed

/-- The items of a list read into `s`, as far as there are any. -/
def readPositions (s : Settings) : List SettingsField → List Value → Except ReadError Settings
  | _, [] => .ok s
  | [], _ :: _ => .error .malformed
  | f :: fields, v :: rest =>
    match f.read v s with
    | .ok s => readPositions s fields rest
    | .error e => .error e

/-- Settings from a tree; absent fields have their defaults. -/
def ofValue (v : Value) : Except ReadError Settings :=
  let (outcome, ending) :=
    match v with
    | .record entries ending => (readFields [] default entries, ending)
    | .list items ending => (readPositions default SettingsField.all items, ending)
    | _ => (.error (mismatch v.found? "struct VideoInputSettings"), .closed)
  match outcome with
  | .ok s => if ending = .closed then .ok s else .error .malformed
  | .error e => .error e

def parse (text : String) : Except ReadError Settings :=
  let document := Document.ofText text
  match ofValue document.root with
  | .ok s => if document.complete then .ok s else .error .malformed
  | .error e => .error e

/-- Settings from a document. One that is refused is invalid, with the objection as the reason. -/
def load (text : String) : Except CaptureError Settings :=
  (parse text).mapError fun e => .invalidSettings e.message

end Settings

end VideoCapture
