import Storyboard.Json.Printer
import Storyboard.Decimal.Read
import Storyboard.Text.Blank

/-!
# Loose values

Expressions follow the loose rules of browser scripting for truth, numbers, equality and
text. A value that is absent (`undefined`) is `none`; a present value is `some v`.

* Truth: absent, `null`, `false`, zero, NaN and the empty string are false.
* Numbers: absent is NaN, `null` is zero, booleans are one and zero, a string is read as
  a number literal (NaN if it is none), an array of no item is zero and of one item is
  that item's number, anything else is NaN.
* Number literals in text: blanks trimmed, the empty text is zero, `Infinity` with an
  optional sign, `0x`/`0o`/`0b` integers, or a decimal literal.
* Strict equality compares numbers as doubles and other values as data.
* Text: absent and `null` are empty, integral numbers below `10^21` print as 64-bit
  integers (clamped), other numbers in `NumberLayout.data`, containers as JSON text.

Main definitions: `isTruthy`, `toNumber`, `parseNumber?` (trimming, then `readNumber?`),
`numberValue`, `coerceIndex`, `strictEquals`, `relational`, `display`.
-/

namespace Storyboard

namespace Json

/-- A number value as a double: integers round to the nearest double. -/
def asFloat? : Json → Option Float
  | .int n => some (Binary64.ofInt n)
  | .float f => some f
  | _ => none

end Json

namespace Loose

/-- Truth of a possibly absent value. -/
def isTruthy : Option Json → Bool
  | none => false
  | some .null => false
  | some (.bool b) => b
  | some (.int n) => n != 0
  | some (.float f) => f != 0 && !f.isNaN
  | some (.str s) => !s.isEmpty
  | some (.arr _) => true
  | some (.obj _) => true

/-- Read a trimmed text as a number literal: `none` when it is not one. -/
def readNumber? (s : List Char) : Option Float :=
  if s.isEmpty then some 0 else
  match s with
  | ['I', 'n', 'f', 'i', 'n', 'i', 't', 'y'] => some (1 / 0)
  | ['+', 'I', 'n', 'f', 'i', 'n', 'i', 't', 'y'] => some (1 / 0)
  | ['-', 'I', 'n', 'f', 'i', 'n', 'i', 't', 'y'] => some (-1 / 0)
  | '0' :: p :: rest =>
    let base := if p = 'x' || p = 'X' then some 16 else if p = 'o' || p = 'O' then some 8
      else if p = 'b' || p = 'B' then some 2 else none
    match base with
    | some b => (Decimal.readUnsigned? b rest).map Binary64.ofInt
    | none => decimalLiteral s
  | _ => decimalLiteral s
where
  /-- A decimal literal made of digits, points, signs and exponent marks only. -/
  decimalLiteral (s : List Char) : Option Float :=
    if s.all fun c => Decimal.isDigitChar c || c = '.' || c = 'e' || c = 'E' || c = '+' || c = '-'
    then Decimal.readFloat? s else none

/-- Read a text as a number literal, blanks trimmed: `none` when it is not one. -/
def parseNumber? (text : String) : Option Float :=
  readNumber? (Text.trimChars text.toList)

/-- The NaN of this library. -/
def nan : Float := 0 / 0

mutual
/-- The number of a possibly absent value. -/
def toNumber : Option Json → Float
  | none => nan
  | some v => toNumberOf v
/-- The number of a present value. -/
def toNumberOf : Json → Float
  | .null => 0
  | .bool b => if b then 1 else 0
  | .int n => Binary64.ofInt n
  | .float f => f
  | .str s => (parseNumber? s).getD nan
  | .arr [] => 0
  | .arr [x] => toNumberOf x
  | .arr _ => nan
  | .obj _ => nan
end

/-- The number of a value, with NaN read as zero. -/
def toNumberOrZero (v : Option Json) : Float :=
  let n := toNumber v
  if n.isNaN then 0 else n

/-- The JSON value of a double: integral values below `2^53` in magnitude become
integers, other finite values stay doubles, and non-finite values have none. -/
def numberValue (n : Float) : Option Json :=
  if !n.isFinite then none
  else if Binary64.isIntegral n && n.abs < 9007199254740992 then
    some (.int (Binary64.toInt64Clamped n))
  else some (.float n)

/-- An index read from a value: a finite number truncated toward zero (clamped to the
64-bit range), or the leading integer of a text. -/
def coerceIndex : Option Json → Option Int
  | some (.int n) => some (Binary64.toInt64Clamped (Binary64.ofInt n))
  | some (.float f) => if f.isFinite then some (Binary64.toInt64Clamped f) else none
  | some (.str s) =>
    let cs := Text.trimChars s.toList
    let lead := match cs with
      | c :: rest =>
        if Decimal.isDigitChar c || c = '-' || c = '+' then c :: rest.takeWhile Decimal.isDigitChar
        else []
      | [] => []
    Decimal.readInt64? lead
  | _ => none

/-- Strict equality: both absent, two numbers equal as doubles, or equal data. -/
def strictEquals : Option Json → Option Json → Bool
  | none, none => true
  | some a, some b =>
    match a.asFloat?, b.asFloat? with
    | some x, some y => x == y
    | _, _ => Json.same a b
  | _, _ => false

/-- An ordering operator: `>`, `<`, `>=` or `<=`; any other text compares false. Two
strings compare by code points; anything else as numbers, and NaN compares false. -/
def relational (op : String) (l r : Option Json) : Bool :=
  let cmp : Ordering → Bool := fun o =>
    match op with
    | ">" => o == .gt
    | "<" => o == .lt
    | ">=" => o != .lt
    | "<=" => o != .gt
    | _ => false
  match l, r with
  | some (.str a), some (.str b) => cmp (compare a b)
  | _, _ =>
    let a := toNumber l
    let b := toNumber r
    if a.isNaN || b.isNaN then false
    else cmp (if a < b then .lt else if b < a then .gt else .eq)

/-- The text a value shows as. -/
def display : Option Json → String
  | none => ""
  | some .null => ""
  | some (.str s) => s
  | some (.bool b) => if b then "true" else "false"
  | some (.int n) => toString (Binary64.toInt64Clamped (Binary64.ofInt n))
  | some (.float f) =>
    if Binary64.isIntegral f && f.abs < 1e21 then toString (Binary64.toInt64Clamped f)
    else NumberLayout.data.render f
  | some v => v.render

end Loose

end Storyboard
