import Storyboard.Json.Basic
import Storyboard.Decimal.Layout

/-!
# JSON text

The compact text of a value: no blank anywhere, fields in key order, integers in
decimal, other numbers in `NumberLayout.data` (a double that is not finite has no JSON
spelling and is written `null`). In a string, the quote, the backslash and every control
character are escaped; the usual short escapes are used where one exists and `\u00xx`
with lowercase hex otherwise. All other characters are written as they are.
-/

namespace Storyboard

namespace Json

/-- The hex digit of a value below 16, lowercase. -/
def hexDigit (n : Nat) : Char :=
  if n < 10 then Char.ofNat (48 + n) else Char.ofNat (87 + n)

/-- The escaped form of one character inside a quoted string. -/
def escapeChar (c : Char) : List Char :=
  match c with
  | '"' => ['\\', '"']
  | '\\' => ['\\', '\\']
  | '\n' => ['\\', 'n']
  | '\r' => ['\\', 'r']
  | '\t' => ['\\', 't']
  | '\x08' => ['\\', 'b']
  | '\x0c' => ['\\', 'f']
  | c =>
    if c.toNat < 32 then ['\\', 'u', '0', '0', hexDigit (c.toNat / 16), hexDigit (c.toNat % 16)]
    else [c]

/-- A string as a JSON string literal. -/
def quote (s : String) : String :=
  String.ofList ('"' :: (s.toList.flatMap escapeChar ++ ['"']))

/-- The JSON text of a double: `NumberLayout.data`, or `null` when it is not finite. -/
def floatText (f : Float) : String :=
  if f.isFinite then NumberLayout.data.render f else "null"

mutual
/-- Append the compact text of a value. -/
def renderTo (out : String) : Json → String
  | .null => out ++ "null"
  | .bool b => out ++ (if b then "true" else "false")
  | .int n => out ++ toString n
  | .float f => out ++ floatText f
  | .str s => out ++ quote s
  | .arr items => renderItems (out.push '[') true items |>.push ']'
  | .obj fields => renderFields (out.push '\x7b') true fields |>.push '\x7d'
/-- Append items separated by commas. -/
def renderItems (out : String) (first : Bool) : List Json → String
  | [] => out
  | x :: xs =>
    let out := if first then out else out.push ','
    renderItems (renderTo out x) false xs
/-- Append fields separated by commas. -/
def renderFields (out : String) (first : Bool) : List (String × Json) → String
  | [] => out
  | (k, v) :: fs =>
    let out := if first then out else out.push ','
    renderFields (renderTo ((out ++ quote k).push ':') v) false fs
end

/-- The compact JSON text of a value. -/
def render (v : Json) : String := renderTo "" v

mutual
/-- Append the indented text of a value whose first line is at depth `d`: each item
and field on a line of its own, two spaces deeper than its brackets; empty lists and
objects stay on one line. -/
def prettyTo (out : String) (d : Nat) : Json → String
  | .arr [] => out ++ "[]"
  | .obj [] => out ++ "\x7b\x7d"
  | .arr items => prettyItems (out.push '[') d true items ++ "\n" ++ "".pushn ' ' (2 * d) ++ "]"
  | .obj fields => prettyFields (out.push '\x7b') d true fields ++ "\n" ++ "".pushn ' ' (2 * d) ++ "\x7d"
  | v => renderTo out v
/-- Append items, each on a new line one level deeper. -/
def prettyItems (out : String) (d : Nat) (first : Bool) : List Json → String
  | [] => out
  | x :: xs =>
    let out := (if first then out else out.push ',') ++ "\n" ++ "".pushn ' ' (2 * (d + 1))
    prettyItems (prettyTo out (d + 1) x) d false xs
/-- Append fields, each on a new line one level deeper. -/
def prettyFields (out : String) (d : Nat) (first : Bool) : List (String × Json) → String
  | [] => out
  | (k, v) :: fs =>
    let out := (if first then out else out.push ',') ++ "\n" ++ "".pushn ' ' (2 * (d + 1))
    prettyFields (prettyTo (out ++ quote k ++ ": ") (d + 1) v) d false fs
end

/-- The indented JSON text of a value. -/
def renderPretty (v : Json) : String := prettyTo "" 0 v

end Json

end Storyboard
