import Storyboard.Json.Basic
import Storyboard.Decimal.Read

/-!
# Dotted paths

A path such as `cart.items.0.price` names a place inside a value, one segment per step.
On an object a segment is a key; on an array it is an index written in decimal (a
leading `+` and leading zeros allowed), or `length` as the last segment, which reads the
number of items.

Reading a path that leaves the value gives nothing. Writing always succeeds: it makes
the place exist. An array is kept when the segment indexes an item or the place just
past the end (which appends `null` first); any other value on the way, or an array with
any other segment, is replaced by an object.
-/

namespace Storyboard

namespace Json

/-- The segments of a dotted path. -/
def segments (path : String) : List String := path.splitOn "."

/-- Read the place named by a list of segments. -/
def getSegments : Json → List String → Option Json
  | v, [] => some v
  | .obj fs, s :: rest => (lookup s fs).bind fun child => getSegments child rest
  | .arr xs, s :: rest =>
    if s = "length" then (if rest.isEmpty then some (.int xs.length) else none)
    else match Decimal.readIndex? s.toList with
      | some i => xs[i]?.bind fun child => getSegments child rest
      | none => none
  | _, _ :: _ => none

/-- Write `value` at the place named by a list of segments, making it exist. -/
def setSegments : Json → List String → Json → Json
  | _, [], value => value
  | .arr xs, s :: rest, value =>
    match Decimal.readIndex? s.toList with
    | some i =>
      if i ≤ xs.length then
        let xs := if i = xs.length then xs ++ [.null] else xs
        .arr (xs.set i (setSegments (xs.getD i .null) rest value))
      else .obj [(s, setSegments .null rest value)]
    | none => .obj [(s, setSegments .null rest value)]
  | .obj fs, s :: rest, value => .obj (setField s (setSegments ((lookup s fs).getD .null) rest value) fs)
  | _, s :: rest, value => .obj [(s, setSegments .null rest value)]

/-- Read a dotted path. -/
def getPath (root : Json) (path : String) : Option Json := getSegments root (segments path)

/-- Write a dotted path. -/
def setPath (root : Json) (path : String) (value : Json) : Json :=
  setSegments root (segments path) value

end Json

end Storyboard
