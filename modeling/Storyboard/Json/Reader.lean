import Storyboard.Json.Basic
import Storyboard.Decimal.Binary

/-!
# Reading JSON text

A reader walks the text once, left to right, and stops at the first fault. Every fault
names a place: the line (from 1) and the column, counted in bytes of UTF-8 since the
line began, of the last byte the reader had consumed. A fault that looks ahead at a byte
it has not consumed (an unexpected character, an early end) names that byte instead.

Numbers: an integer literal that fits 64 bits (unsigned, or signed when negative) stays
an integer; `-0`, a literal with a fraction or exponent, and a longer integer become a
double, built as `Cursor.fromParts` says: up to the first digit that would carry the
significand past `2^64`, rounded to a double, then scaled by a power of ten in rounded
steps. That is not always the nearest double (`4503599627370495.5` reads as
`4503599627370495`), and data read this way must keep it. A literal beyond the range
of doubles is refused. Containers nest at
most 127 deep.

The primitives here (blanks, literals, strings, numbers, whole values) are shared by
`Schema.Text`, which decodes typed data with the same faults and places.
-/

namespace Storyboard

/-- A place in a text: the line from 1, and the column in bytes since the line began. -/
structure Place where
  /-- The line, from 1. -/
  line : Nat
  /-- Bytes since the start of the line. -/
  column : Nat
deriving Repr, DecidableEq

/-- A reading or decoding fault. Decoding faults raised away from the text have no place
until the reader that called the decoder gives them one. -/
structure Fault where
  /-- What went wrong. -/
  message : String
  /-- Where, when known. -/
  place : Option Place := none
deriving Repr

/-- The text of a fault, with its place when it has one. -/
def Fault.text (f : Fault) : String :=
  match f.place with
  | some p => f.message ++ " at line " ++ toString p.line ++ " column " ++ toString p.column
  | none => f.message

/-- A reader's position: the text still to read and the place reached. -/
structure Cursor where
  /-- The characters not yet consumed. -/
  rest : List Char
  /-- The line of the last consumed byte's end. -/
  line : Nat := 1
  /-- Bytes consumed since the start of the line. -/
  column : Nat := 0
  /-- How many more containers may open before the nesting limit. -/
  room : Nat := 128

namespace Cursor

/-- A cursor at the start of a text. -/
def start (s : String) : Cursor := ⟨s.toList, 1, 0, 128⟩

/-- The number of UTF-8 bytes of a character. -/
def byteWidth (c : Char) : Nat :=
  if c.toNat < 0x80 then 1 else if c.toNat < 0x800 then 2 else if c.toNat < 0x10000 then 3 else 4

/-- Consume one character. -/
def advance (c : Cursor) : Cursor :=
  match c.rest with
  | [] => c
  | '\n' :: r => { c with rest := r, line := c.line + 1, column := 0 }
  | ch :: r => { c with rest := r, column := c.column + byteWidth ch }

/-- The next character, if any. -/
def peek (c : Cursor) : Option Char := c.rest.head?

/-- The place of the last consumed byte. -/
def here (c : Cursor) : Place := ⟨c.line, c.column⟩

/-- The place of the next byte, or `here` at the end of the text. -/
def ahead (c : Cursor) : Place :=
  match c.rest with
  | [] => c.here
  | '\n' :: _ => ⟨c.line + 1, 0⟩
  | _ :: _ => ⟨c.line, c.column + 1⟩

/-- A fault at the last consumed byte. -/
def fail {α : Type} (c : Cursor) (msg : String) : Except Fault α := .error ⟨msg, some c.here⟩

/-- A fault at the next byte. -/
def failAhead {α : Type} (c : Cursor) (msg : String) : Except Fault α := .error ⟨msg, some c.ahead⟩

/-- Give a fault without a place the place reached by this cursor. -/
def locate (c : Cursor) (f : Fault) : Fault :=
  match f.place with
  | some _ => f
  | none => { f with place := some c.here }

/-- Skip blanks: space, tab, line feed and carriage return. -/
def skipBlank (c : Cursor) : Cursor :=
  go c.rest.length c
where
  /-- Skip at most `fuel` blanks. -/
  go : Nat → Cursor → Cursor
    | 0, c => c
    | fuel + 1, c =>
      match c.peek with
      | some ' ' | some '\n' | some '\t' | some '\r' => go fuel c.advance
      | _ => c

end Cursor

/-! ## Fault messages -/

namespace Fault

/-- An early end inside a value. -/
def eofValue : String := "EOF while parsing a value"
/-- An early end inside a list. -/
def eofList : String := "EOF while parsing a list"
/-- An early end inside an object. -/
def eofObject : String := "EOF while parsing an object"
/-- An early end inside a string. -/
def eofString : String := "EOF while parsing a string"
/-- A misspelt literal. -/
def expectedIdent : String := "expected ident"
/-- A character that starts no value. -/
def expectedValue : String := "expected value"
/-- A missing colon after a key. -/
def expectedColon : String := "expected `:`"
/-- A list item followed by neither comma nor bracket. -/
def expectedListCommaOrEnd : String := "expected `,` or `]`"
/-- An object field followed by neither comma nor brace. -/
def expectedObjectCommaOrEnd : String := "expected `,` or `\x7d`"
/-- An object key that is not a string. -/
def keyMustBeString : String := "key must be a string"
/-- A comma before a closing bracket. -/
def trailingComma : String := "trailing comma"
/-- Text after the end of the value. -/
def trailingCharacters : String := "trailing characters"
/-- A malformed number. -/
def invalidNumber : String := "invalid number"
/-- A number beyond the range of doubles. -/
def numberOutOfRange : String := "number out of range"
/-- An unknown escape. -/
def invalidEscape : String := "invalid escape"
/-- A raw control character inside a string. -/
def controlCharacter : String := "control character (\\u0000-\\u001F) found while parsing a string"
/-- A surrogate escape without its partner. -/
def loneSurrogate : String := "lone leading surrogate in hex escape"
/-- A leading surrogate escape not followed by another escape. -/
def unexpectedEndOfHexEscape : String := "unexpected end of hex escape"
/-- Nesting beyond the limit. -/
def recursionLimit : String := "recursion limit exceeded"

end Fault

/-! ## Literals and strings -/

namespace Cursor

/-- Consume the characters of `word` (the rest of a literal whose first letter is
already consumed). -/
def expectWord (c : Cursor) : List Char → Except Fault Cursor
  | [] => .ok c
  | w :: ws =>
    match c.peek with
    | none => c.fail Fault.eofValue
    | some ch => if ch = w then expectWord c.advance ws else c.advance.fail Fault.expectedIdent

/-- The value of a hex digit. -/
def hexValue (ch : Char) : Option Nat :=
  if '0' ≤ ch ∧ ch ≤ '9' then some (ch.toNat - 48)
  else if 'a' ≤ ch ∧ ch ≤ 'f' then some (ch.toNat - 87)
  else if 'A' ≤ ch ∧ ch ≤ 'F' then some (ch.toNat - 55)
  else none

/-- Read the four hex digits of a `\u` escape. -/
def hexQuad (c : Cursor) : Except Fault (Nat × Cursor) :=
  match c.rest with
  | a :: b :: d :: e :: r =>
    match hexValue a, hexValue b, hexValue d, hexValue e with
    | some x, some y, some z, some w =>
      .ok (((x * 16 + y) * 16 + z) * 16 + w, { c with rest := r, column := c.column + 4 })
    | _, _, _, _ => .error ⟨Fault.invalidEscape, some ⟨c.line, c.column + 4⟩⟩
  | r =>
    let end_ := r.foldl (fun (k : Cursor) _ => k.advance) c
    end_.fail Fault.eofString

/-- Read what follows `\u` in a string, pairing surrogates. -/
def unicodeEscape (c : Cursor) : Except Fault (Char × Cursor) := do
  let (n, c) ← c.hexQuad
  if 0xDC00 ≤ n ∧ n ≤ 0xDFFF then c.fail Fault.loneSurrogate
  else if n < 0xD800 ∨ 0xDBFF < n then .ok (Char.ofNat n, c)
  else
    match c.peek with
    | none => c.fail Fault.eofString
    | some '\\' =>
      let c := c.advance
      match c.peek with
      | none => c.fail Fault.eofString
      | some 'u' =>
        let (n2, c) ← c.advance.hexQuad
        if n2 < 0xDC00 ∨ 0xDFFF < n2 then c.fail Fault.loneSurrogate
        else .ok (Char.ofNat ((n - 0xD800) * 0x400 + (n2 - 0xDC00) + 0x10000), c)
      | some _ => c.advance.fail Fault.unexpectedEndOfHexEscape
    | some _ => c.advance.fail Fault.unexpectedEndOfHexEscape

/-- Read the body of a string whose opening quote is consumed, through its closing
quote; `acc` holds the characters read so far, last first. -/
def stringBody : Nat → Cursor → List Char → Except Fault (String × Cursor)
  | 0, c, _ => c.fail Fault.eofString
  | fuel + 1, c, acc =>
    match c.peek with
    | none => c.fail Fault.eofString
    | some '"' => .ok (String.ofList acc.reverse, c.advance)
    | some '\\' =>
      let c := c.advance
      match c.peek with
      | none => c.fail Fault.eofString
      | some e =>
        let simple : Option Char := match e with
          | '"' => some '"' | '\\' => some '\\' | '/' => some '/'
          | 'b' => some '\x08' | 'f' => some '\x0c' | 'n' => some '\n'
          | 'r' => some '\r' | 't' => some '\t' | _ => none
        match simple with
        | some ch => stringBody fuel c.advance (ch :: acc)
        | none =>
          if e = 'u' then
            match c.advance.unicodeEscape with
            | .ok (ch, c) => stringBody fuel c (ch :: acc)
            | .error f => .error f
          else c.advance.fail Fault.invalidEscape
    | some ch =>
      if ch.toNat < 32 then c.advance.fail Fault.controlCharacter
      else stringBody fuel c.advance (ch :: acc)

/-- Read a string whose opening quote is consumed. -/
def string (c : Cursor) : Except Fault (String × Cursor) :=
  stringBody (c.rest.length + 1) c []

end Cursor

/-! ## Numbers -/

/-- A number as read from text: an unsigned or negative 64-bit integer, or a double. -/
inductive NumberLit where
  /-- A non-negative integer below `2^64`. -/
  | unsigned (n : Nat)
  /-- A negative integer not below `-2^63`. -/
  | signed (n : Int)
  /-- Any other number. -/
  | double (f : Float)

/-- The JSON value of a number literal. -/
def NumberLit.toJson : NumberLit → Json
  | .unsigned n => .int n
  | .signed n => .int n
  | .double f => .float f

namespace Cursor

/-- Powers of ten as the nearest doubles, `10^0` to `10^308`. -/
def powersOfTen : Array Float := ((List.range 309).map fun (k : Nat) => Binary64.ofDecimal false 1 (k : Int)).toArray

/-- Whether `v * 10 + d` passes `limit`. -/
def overflows (v d limit : Nat) : Bool := v ≥ limit / 10 && (v > limit / 10 || d > limit % 10)

/-- The double of `significand · 10^exponent` as a JSON number is built: the significand
rounded to a double, then multiplied or divided by one power of ten at a time (at most
`10^308`), each step rounded. Overflow is refused. -/
def fromParts (c : Cursor) (negative : Bool) (significand : Nat) (exponent : Int) :
    Except Fault (NumberLit × Cursor) :=
  let rec go : Nat → Float → Int → Except Fault Float
    | 0, f, _ => .ok f
    | fuel + 1, f, e =>
      match powersOfTen[e.natAbs]? with
      | some p =>
        if 0 ≤ e then
          let f := f * p
          if f.isFinite then .ok f else c.fail Fault.numberOutOfRange
        else .ok (f / p)
      | none =>
        if f == 0 then .ok f
        else if 0 ≤ e then c.fail Fault.numberOutOfRange
        else go fuel (f / 1e308) (e + 308)
  match go 8 (Binary64.ofInt significand) exponent with
  | .ok f => .ok (.double (if negative then -f else f), c)
  | .error e => .error e

/-- Skip a run of ASCII digits. -/
def skipDigits : Nat → Cursor → Cursor
  | 0, c => c
  | fuel + 1, c =>
    match c.peek with
    | some ch => if '0' ≤ ch ∧ ch ≤ '9' then skipDigits fuel c.advance else c
    | none => c

/-- The digit at the cursor, if any. -/
def digitAhead (c : Cursor) : Option Nat :=
  match c.peek with
  | some ch => if '0' ≤ ch ∧ ch ≤ '9' then some (ch.toNat - 48) else none
  | none => none

/-- Read the digits of an exponent after its first one, stopping (with the digit
consumed) when the value would pass `2^31 - 1`. -/
def exponentDigits : Nat → Cursor → Nat → Option Nat × Cursor
  | 0, c, v => (some v, c)
  | fuel + 1, c, v =>
    match c.digitAhead with
    | some d =>
      let c := c.advance
      if overflows v d (Nat.pow 2 31 - 1) then (none, c) else exponentDigits fuel c (v * 10 + d)
    | none => (some v, c)

/-- Read an exponent part whose `e` is next. -/
def exponentPart (c : Cursor) (negative : Bool) (m : Nat) (start : Int) :
    Except Fault (NumberLit × Cursor) :=
  let c := c.advance
  let (minus, c) := match c.peek with
    | some '+' => (false, c.advance)
    | some '-' => (true, c.advance)
    | _ => (false, c)
  match c.peek with
  | none => c.fail Fault.eofValue
  | some ch =>
    if '0' ≤ ch ∧ ch ≤ '9' then
      match exponentDigits c.rest.length c.advance (ch.toNat - 48) with
      | (some x, c) =>
        -- the exponent saturates at the ends of the 32-bit range
        let e := if minus then max (start - x) (-(Nat.pow 2 31)) else min (start + x) (Nat.pow 2 31 - 1)
        c.fromParts negative m e
      | (none, c) =>
        if m ≠ 0 ∧ !minus then c.fail Fault.numberOutOfRange
        else .ok (.double (if negative then -0.0 else 0.0), skipDigits c.rest.length c)
    else c.advance.fail Fault.invalidNumber

/-- After the significand is full: skip further digits and read the rest. -/
def decimalOverflow (c : Cursor) (negative : Bool) (m : Nat) (e : Int) :
    Except Fault (NumberLit × Cursor) :=
  let c := skipDigits c.rest.length c
  match c.peek with
  | some 'e' | some 'E' => c.exponentPart negative m e
  | _ => c.fromParts negative m e

/-- Read a fraction whose point is next; `before` is the exponent carried from integer
digits that did not fit. At least one digit must follow the point. -/
def decimalPart (c : Cursor) (negative : Bool) (m : Nat) (before : Int) :
    Except Fault (NumberLit × Cursor) :=
  let rec loop : Nat → Cursor → Nat → Nat → Except Fault (NumberLit × Cursor)
    | 0, c, _, _ => c.fail Fault.eofValue
    | fuel + 1, c, m, k =>
      match c.digitAhead with
      | some d =>
        if overflows m d (Nat.pow 2 64 - 1) then c.decimalOverflow negative m (before - k)
        else loop fuel c.advance (m * 10 + d) (k + 1)
      | none =>
        if k = 0 then
          match c.peek with
          | some _ => c.failAhead Fault.invalidNumber
          | none => c.failAhead Fault.eofValue
        else
          match c.peek with
          | some 'e' | some 'E' => c.exponentPart negative m (before - k)
          | _ => c.fromParts negative m (before - k)
  let c := c.advance
  loop (c.rest.length + 1) c m 0

/-- Integer digits past the room of the significand raise the exponent instead. -/
def longInteger (c : Cursor) (negative : Bool) (m : Nat) : Except Fault (NumberLit × Cursor) :=
  let rec loop : Nat → Cursor → Int → Except Fault (NumberLit × Cursor)
    | 0, c, e => c.fromParts negative m e
    | fuel + 1, c, e =>
      match c.peek with
      | some '.' => c.decimalPart negative m e
      | some 'e' | some 'E' => c.exponentPart negative m e
      | some ch => if '0' ≤ ch ∧ ch ≤ '9' then loop fuel c.advance (e + 1) else c.fromParts negative m e
      | none => c.fromParts negative m e
  loop (c.rest.length + 1) c 0

/-- Read what follows the integer digits of a number. -/
def numberTail (c : Cursor) (negative : Bool) (m : Nat) : Except Fault (NumberLit × Cursor) :=
  match c.peek with
  | some '.' => c.decimalPart negative m 0
  | some 'e' | some 'E' => c.exponentPart negative m 0
  | _ =>
    if !negative then .ok (.unsigned m, c)
    else if m = 0 then .ok (.double (-0.0), c)
    else if m ≤ Nat.pow 2 63 then .ok (.signed (-(m : Int)), c)
    else .ok (.double (-(Binary64.ofInt m)), c)

/-- Read integer digits after the first, while the significand has room below `2^64`. -/
def integerDigits (negative : Bool) : Nat → Cursor → Nat → Except Fault (NumberLit × Cursor)
  | 0, c, m => c.numberTail negative m
  | fuel + 1, c, m =>
    match c.digitAhead with
    | some d =>
      if overflows m d (Nat.pow 2 64 - 1) then c.longInteger negative m
      else integerDigits negative fuel c.advance (m * 10 + d)
    | none => c.numberTail negative m

/-- Read a number whose sign, if any, is consumed. -/
def number (c : Cursor) (negative : Bool) : Except Fault (NumberLit × Cursor) :=
  match c.peek with
  | none => c.fail Fault.eofValue
  | some '0' =>
    let c := c.advance
    match c.digitAhead with
    | some _ => c.failAhead Fault.invalidNumber
    | none => c.numberTail negative 0
  | some ch =>
    if '1' ≤ ch ∧ ch ≤ '9' then integerDigits negative (c.rest.length + 1) c.advance (ch.toNat - 48)
    else c.advance.fail Fault.invalidNumber

end Cursor

/-! ## Whole values -/

namespace Cursor

mutual
/-- Read one value, blanks first. `fuel` bounds the work and is never the limit in
practice: every call consumes a character. -/
def value : Nat → Cursor → Except Fault (Json × Cursor)
  | 0, c => c.fail Fault.eofValue
  | fuel + 1, c =>
    let c := c.skipBlank
    match c.peek with
    | none => c.failAhead Fault.eofValue
    | some 'n' => do let c ← c.advance.expectWord "ull".toList; pure (.null, c)
    | some 't' => do let c ← c.advance.expectWord "rue".toList; pure (.bool true, c)
    | some 'f' => do let c ← c.advance.expectWord "alse".toList; pure (.bool false, c)
    | some '-' => do let (n, c) ← c.advance.number true; pure (n.toJson, c)
    | some '"' => do let (s, c) ← c.advance.string; pure (.str s, c)
    | some '[' =>
      if c.room ≤ 1 then c.failAhead Fault.recursionLimit else
      let inner := { c.advance with room := c.room - 1 }
      match items fuel inner true [] with
      | .ok (xs, c') => .ok (.arr xs, { c' with room := c.room })
      | .error f => .error f
    | some '\x7b' =>
      if c.room ≤ 1 then c.failAhead Fault.recursionLimit else
      let inner := { c.advance with room := c.room - 1 }
      match fields fuel inner true [] with
      | .ok (fs, c') => .ok (.obj fs, { c' with room := c.room })
      | .error f => .error f
    | some ch =>
      if '0' ≤ ch ∧ ch ≤ '9' then do let (n, c) ← c.number false; pure (n.toJson, c)
      else c.failAhead Fault.expectedValue
/-- Read the items of a list whose bracket is consumed, through the closing bracket. -/
def items : Nat → Cursor → Bool → List Json → Except Fault (List Json × Cursor)
  | 0, c, _, _ => c.fail Fault.eofList
  | fuel + 1, c, first, acc =>
    let c := c.skipBlank
    match c.peek with
    | none => c.failAhead Fault.eofList
    | some ']' => .ok (acc.reverse, c.advance)
    | some ',' =>
      if first then
        match value fuel c with
        | .ok (v, c) => items fuel c false (v :: acc)
        | .error f => .error f
      else
        let c := c.advance.skipBlank
        match c.peek with
        | some ']' => c.failAhead Fault.trailingComma
        | none => c.failAhead Fault.eofValue
        | some _ =>
          match value fuel c with
          | .ok (v, c) => items fuel c false (v :: acc)
          | .error f => .error f
    | some _ =>
      if first then
        match value fuel c with
        | .ok (v, c) => items fuel c false (v :: acc)
        | .error f => .error f
      else c.failAhead Fault.expectedListCommaOrEnd
/-- Read the fields of an object whose brace is consumed, through the closing brace.
Of two fields with one key the later wins. -/
def fields : Nat → Cursor → Bool → List (String × Json) → Except Fault (List (String × Json) × Cursor)
  | 0, c, _, _ => c.fail Fault.eofObject
  | fuel + 1, c, first, acc =>
    let c := c.skipBlank
    match c.peek with
    | none => c.failAhead Fault.eofObject
    | some '\x7d' => .ok (acc, c.advance)
    | some ch =>
      let start : Except Fault Cursor :=
        if first then
          if ch = '"' then .ok c else c.failAhead Fault.keyMustBeString
        else if ch = ',' then
          let c := c.advance.skipBlank
          match c.peek with
          | some '"' => .ok c
          | some '\x7d' => c.failAhead Fault.trailingComma
          | some _ => c.failAhead Fault.keyMustBeString
          | none => c.failAhead Fault.eofValue
        else c.failAhead Fault.expectedObjectCommaOrEnd
      match start with
      | .error f => .error f
      | .ok c =>
        match c.advance.string with
        | .error f => .error f
        | .ok (k, c) =>
          let c := c.skipBlank
          match c.peek with
          | some ':' =>
            match value fuel c.advance with
            | .ok (v, c) => fields fuel c false (Json.setField k v acc)
            | .error f => .error f
          | some _ => c.failAhead Fault.expectedColon
          | none => c.failAhead Fault.eofObject
end

/-- Fuel for reading a text: every step consumes a character. -/
def fuelFor (c : Cursor) : Nat := 2 * c.rest.length + 4

/-! ## Skipping values

A value that nobody keeps is skipped by a lighter reading: nesting is not limited,
numbers are checked for their form but not their range, escapes in strings are checked
but surrogates are not paired, and a comma must be followed by a value (so a trailing
comma is reported as a missing value or key). -/

/-- Skip a string whose opening quote is consumed, through its closing quote. A control
character is reported where it stands. -/
def skipString : Nat → Cursor → Except Fault Cursor
  | 0, c => c.fail Fault.eofString
  | fuel + 1, c =>
    match c.peek with
    | none => c.fail Fault.eofString
    | some '"' => .ok c.advance
    | some '\\' =>
      let c := c.advance
      match c.peek with
      | none => c.fail Fault.eofString
      | some e =>
        if "\"\\/bfnrt".toList.contains e then skipString fuel c.advance
        else if e = 'u' then
          match c.advance.hexQuad with
          | .ok (_, c) => skipString fuel c
          | .error f => .error f
        else c.advance.fail Fault.invalidEscape
    | some ch =>
      if ch.toNat < 32 then c.fail Fault.controlCharacter
      else skipString fuel c.advance

/-- Skip an exponent whose mark is next: a sign, then at least one digit. -/
def skipExponent (c : Cursor) : Except Fault Cursor :=
  let c := c.advance
  let c := match c.peek with
    | some '+' | some '-' => c.advance
    | _ => c
  match c.digitAhead with
  | some _ => .ok (skipDigits c.rest.length c.advance)
  | none => match c.peek with
    | some _ => c.advance.fail Fault.invalidNumber
    | none => c.fail Fault.invalidNumber

/-- Skip what may follow the integer part of a number: a fraction with at least one
digit, then an exponent. -/
def skipFraction (c : Cursor) : Except Fault Cursor :=
  match c.peek with
  | some '.' =>
    let c := c.advance
    match c.digitAhead with
    | none => c.failAhead Fault.invalidNumber
    | some _ =>
      let c := skipDigits c.rest.length c
      match c.peek with
      | some 'e' | some 'E' => c.skipExponent
      | _ => .ok c
  | some 'e' | some 'E' => c.skipExponent
  | _ => .ok c

/-- Skip a number whose sign, if any, is consumed. A leading zero is not followed by a
digit. -/
def skipNumber (c : Cursor) : Except Fault Cursor :=
  match c.peek with
  | none => c.fail Fault.invalidNumber
  | some '0' =>
    let c := c.advance
    match c.digitAhead with
    | some _ => c.failAhead Fault.invalidNumber
    | none => c.skipFraction
  | some ch =>
    if '1' ≤ ch ∧ ch ≤ '9' then (skipDigits c.rest.length c.advance).skipFraction
    else c.advance.fail Fault.invalidNumber

/-- The fault for a list or object left open at the end of the text. -/
def eofIn (frame : Char) : String :=
  if frame = '[' then Fault.eofList else Fault.eofObject

mutual
/-- Skip one value, blanks first, inside the open lists and objects of `stack` (the
innermost first, each by its opening bracket); return once the outermost one is closed,
or after the value when `stack` is empty. -/
def skipValue : Nat → Cursor → List Char → Except Fault Cursor
  | 0, c, _ => c.fail Fault.eofValue
  | fuel + 1, c, stack =>
    let c := c.skipBlank
    let scalar (r : Except Fault Cursor) : Except Fault Cursor :=
      match r with
      | .error f => .error f
      | .ok c =>
        match stack with
        | [] => .ok c
        | frame :: outer => skipClose fuel c true frame outer
    match c.peek with
    | none => c.failAhead Fault.eofValue
    | some 'n' => scalar (c.advance.expectWord "ull".toList)
    | some 't' => scalar (c.advance.expectWord "rue".toList)
    | some 'f' => scalar (c.advance.expectWord "alse".toList)
    | some '-' => scalar c.advance.skipNumber
    | some '"' => scalar (skipString c.rest.length c.advance)
    | some '[' => skipClose fuel c.advance false '[' stack
    | some '\x7b' => skipClose fuel c.advance false '\x7b' stack
    | some ch =>
      if '0' ≤ ch ∧ ch ≤ '9' then scalar c.skipNumber
      else c.failAhead Fault.expectedValue
termination_by fuel _ _ => (fuel, 0)
/-- Go on inside the open container `frame` (with `outer` around it): close it, or
pass a comma when one may stand here (`comma`), and skip its next entry. -/
def skipClose : Nat → Cursor → Bool → Char → List Char → Except Fault Cursor
  | 0, c, _, frame, _ => c.fail (eofIn frame)
  | fuel + 1, c, comma, frame, outer =>
    let c := c.skipBlank
    match c.peek with
    | none => c.failAhead (eofIn frame)
    | some ch =>
      if ch = ',' ∧ comma then skipEntry fuel c.advance frame outer
      else if (ch = ']' ∧ frame = '[') ∨ (ch = '\x7d' ∧ frame = '\x7b') then
        match outer with
        | [] => .ok c.advance
        | next :: rest => skipClose fuel c.advance true next rest
      else if comma then
        c.failAhead (if frame = '[' then Fault.expectedListCommaOrEnd
          else Fault.expectedObjectCommaOrEnd)
      else skipEntry fuel c frame outer
termination_by fuel _ _ _ _ => (fuel, 0)
/-- Skip the next entry of the open container `frame`: an item of a list, or a key,
its colon and its value in an object. -/
def skipEntry : Nat → Cursor → Char → List Char → Except Fault Cursor
  | fuel, c, frame, outer =>
    if frame = '[' then skipValue fuel c (frame :: outer) else
    let c := c.skipBlank
    match c.peek with
    | none => c.failAhead Fault.eofValue
    | some '"' =>
      match skipString c.rest.length c.advance with
      | .error f => .error f
      | .ok c =>
        let c := c.skipBlank
        match c.peek with
        | some ':' => skipValue fuel c.advance (frame :: outer)
        | some _ => c.failAhead Fault.expectedColon
        | none => c.failAhead Fault.eofObject
    | some _ => c.failAhead Fault.keyMustBeString
termination_by fuel _ _ _ => (fuel, 1)
end

/-- After the value, only blanks may remain. -/
def finish (c : Cursor) : Except Fault Unit :=
  let c := c.skipBlank
  match c.peek with
  | none => .ok ()
  | some _ => c.failAhead Fault.trailingCharacters

end Cursor

namespace Json

/-- Read a whole text as one JSON value. -/
def parse (s : String) : Except Fault Json := do
  let c := Cursor.start s
  let (v, c) ← Cursor.value c.fuelFor c
  c.finish
  pure v

end Json

end Storyboard
