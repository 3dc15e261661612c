import Storyboard.Decimal.Binary

/-!
# Reading number literals

Two literal forms, each read in full or not at all:

* a decimal literal `[+-]? digits [. digits] [(e|E) [+-]? digits]`, where the digits
  before and after the point may not both be empty and an exponent needs a digit; it
  reads as the nearest double, so a literal beyond the largest double reads as an
  infinity; the exponent's digits are read only until its value reaches `2^16`, which
  changes the value only of literals with tens of thousands of digits;
* an unsigned integer in a given base, with an optional leading `+`, below `2^64`.
-/

namespace Storyboard

namespace Decimal

/-- Whether a character is an ASCII digit. -/
def isDigitChar (c : Char) : Bool := '0' ≤ c && c ≤ '9'

/-- The value of a run of ASCII digits. -/
def digitsValue (ds : List Char) : Nat := ds.foldl (fun acc c => acc * 10 + (c.toNat - 48)) 0

/-- Read a sign: `true` for a minus, and the rest. -/
def readSign : List Char → Bool × List Char
  | '-' :: r => (true, r)
  | '+' :: r => (false, r)
  | r => (false, r)

/-- Read the digits of a decimal: the whole digits, the fraction digits after a point (none
without a point), and the rest. -/
def readMantissa (s : List Char) : List Char × List Char × List Char :=
  let intDigits := s.takeWhile isDigitChar
  match s.dropWhile isDigitChar with
  | '.' :: r => (intDigits, r.takeWhile isDigitChar, r.dropWhile isDigitChar)
  | r => (intDigits, [], r)

/-- The value of the digits of an exponent as far as they are read: once the value reaches
`2^16`, past every double, the digits after it are skipped. -/
def exponentValue (ds : List Char) : Nat :=
  ds.foldl (fun acc c => if acc < 65536 then acc * 10 + (c.toNat - 48) else acc) 0

/-- Read an optional exponent part, `e` or `E` and a signed run of digits: its value and the
rest; `none` for a mark without digits. -/
def readExponent? : List Char → Option (Int × List Char)
  | e :: r =>
    if e = 'e' || e = 'E' then
      let (minus, r) := readSign r
      let ds := r.takeWhile isDigitChar
      if ds.isEmpty then none
      else
        let x : Int := exponentValue ds
        some (if minus then -x else x, r.dropWhile isDigitChar)
    else some (0, e :: r)
  | [] => some (0, [])

/-- Read a decimal literal (the whole text) as the nearest double. -/
def readFloat? (s : List Char) : Option Float :=
  let (negative, s) := readSign s
  let (intDigits, fracDigits, s) := readMantissa s
  if intDigits.isEmpty && fracDigits.isEmpty then none else
  match readExponent? s with
  | some (x, []) =>
    some (Binary64.ofDecimal negative (digitsValue (intDigits ++ fracDigits)) (x - fracDigits.length))
  | _ => none

/-- The value of a digit in bases up to 36, letters in either case. -/
def digitIn (base : Nat) (c : Char) : Option Nat :=
  let v := if '0' ≤ c && c ≤ '9' then some (c.toNat - 48)
    else if 'a' ≤ c && c ≤ 'z' then some (c.toNat - 87)
    else if 'A' ≤ c && c ≤ 'Z' then some (c.toNat - 55)
    else none
  v.filter (· < base)

/-- Read an unsigned integer in `base` (the whole text), below `2^64`. -/
def readUnsigned? (base : Nat) (s : List Char) : Option Nat :=
  let s := match s with
    | '+' :: r => r
    | r => r
  if s.isEmpty then none else
  let v := s.foldlM (fun acc c => (digitIn base c).map (acc * base + ·)) 0
  v.filter (· < Nat.pow 2 64)

/-- Read a signed integer in base ten (the whole text) within the 64-bit signed range. -/
def readInt64? (s : List Char) : Option Int :=
  let (negative, r) := match s with
    | '-' :: r => (true, r)
    | '+' :: r => (false, r)
    | r => (false, r)
  if r.isEmpty || !r.all isDigitChar then none else
  let v : Int := if negative then -(digitsValue r : Int) else digitsValue r
  if -(Nat.pow 2 63) ≤ v && v < Nat.pow 2 63 then some v else none

/-- Read an index in base ten (the whole text): digits with an optional leading `+`,
below `2^64`. -/
def readIndex? (s : List Char) : Option Nat :=
  let r := match s with
    | '+' :: r => r
    | r => r
  if r.isEmpty || !r.all isDigitChar then none else
  let v := digitsValue r
  if v < Nat.pow 2 64 then some v else none

end Decimal

end Storyboard
