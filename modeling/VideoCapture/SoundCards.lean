import VideoCapture.Error
import VideoCapture.Text.Blank
import VideoCapture.Text.Split

/-!
# Sound cards

The list of sound cards that the kernel publishes. Each card has a header line such as
` 0 [PCH            ]: HDA-Intel - HDA Intel PCH` and an indented line of description below it.

## Main definitions

* `SoundCards.nameOfLine?` — the name of the card whose header a line is.
* `SoundCards.names` — the names of all cards in the list.
* `SoundCards.ofFile` — the names in a file.
-/

namespace VideoCapture.SoundCards

/-- The name of the card whose header `line` is: the line starts with a number and a space, and the
name stands behind the driver after the closing bracket. -/
def nameOfLine? (line : List Char) : Option String :=
  match Text.splitOnce [' '] (Text.trimStart line) with
  | none => none
  | some (index, rest) =>
    match Text.word? index, Text.splitOnce [']', ':', ' '] rest with
    | some _, some (_, long) =>
      let name :=
        match Text.splitOnce [' ', '-', ' '] long with
        | some (_, name) => name
        | none => long
      some (String.ofList (Text.trim name))
    | _, _ => none

/-- The names of the cards in a list. -/
def names (text : String) : List String := (Text.lines text.toList).filterMap nameOfLine?

/-- The names of the cards in the file at `path`, whose contents, or the reason why it has none, are
what `read` finds. -/
def ofFile (read : String → Except String String) (path : String) :
    Except CaptureError (List String) :=
  match read path with
  | .ok text => .ok (names text)
  | .error reason => .error (.enumerationFailure (path ++ ": " ++ reason))

end VideoCapture.SoundCards
