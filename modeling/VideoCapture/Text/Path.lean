/-!
# Paths

One place in a file system has many spellings: repeated slashes, a slash at the end and names that
are a single dot lead nowhere else. The parts of a path forget these.

## Main definitions

* `pathPieces` — what stands between the slashes.
* `pathParts` — the parts of a path; two paths with the same parts lead to the same place.
-/

namespace VideoCapture.Text

/-- What stands between the slashes of a path. -/
def pathPieces : List Char → List (List Char)
  | [] => [[]]
  | c :: rest =>
    if c = '/' then [] :: pathPieces rest
    else
      match pathPieces rest with
      | [] => [[c]]
      | piece :: more => (c :: piece) :: more

/-- The parts of a path. The first one is empty in a path from the root; behind it, empty pieces and
single dots do not count. -/
def pathParts (path : String) : List (List Char) :=
  if path = "" then []
  else
    match pathPieces path.toList with
    | [] => []
    | first :: rest => first :: rest.filter fun piece => piece ≠ [] && piece ≠ ['.']

end VideoCapture.Text
