import Storyboard.Decimal.Shortest

/-!
# Laying out a number as text

The digits of a double come from `Decimal.shortest`; where the decimal point goes, and
whether an exponent is written, is a decision of each output format. A `NumberLayout`
holds those decisions, and `NumberLayout.render` applies them.

Three layouts are used:

* `NumberLayout.data`: numbers inside JSON text and in displayed values. Positional
  while the point lies after at most sixteen digits and before at most four leading
  zeros; an integral value keeps `.0`; otherwise `d.ddde±x`.
* `NumberLayout.plain`: always positional and no `.0`, as used when a number is spliced
  into an arithmetic expression or names a non-finite result.
* `NumberLayout.quoted`: `plain`, with `.0` added when no point was written; the form in
  which a number is quoted in a decoding error.
-/

namespace Storyboard

/-- The decisions of a number format. -/
structure NumberLayout where
  /-- Positional notation needs the point position above this bound, if any. -/
  pointAbove : Option Int
  /-- Positional notation needs the point position at most this bound, if any. -/
  pointAtMost : Option Int
  /-- Whether an integral value written positionally ends in `.0`. -/
  keepPointZero : Bool
  /-- Whether a non-negative exponent is written with `+`. -/
  plusExponent : Bool
  /-- Whether `.0` is added when no point was written at all. -/
  forcePoint : Bool
  /-- The text of NaN. -/
  nan : String
  /-- The text of positive infinity (negative infinity adds a minus sign). -/
  infinity : String

namespace NumberLayout

/-- Numbers in JSON text and displayed values. -/
def data : NumberLayout := ⟨some (-5), some 16, true, true, false, "NaN", "inf"⟩

/-- Plain positional text. -/
def plain : NumberLayout := ⟨none, none, false, false, false, "NaN", "inf"⟩

/-- Numbers quoted in decoding errors. -/
def quoted : NumberLayout := ⟨none, none, false, false, true, "NaN", "inf"⟩

/-- `n` zeros. -/
def zeros (n : Nat) : List Char := List.replicate n '0'

/-- The unsigned text of a decimal under a layout. -/
def body (l : NumberLayout) (d : Decimal) : List Char :=
  let ds := d.digitChars
  let k := d.pointPos
  let positional := l.pointAbove.all (· < k) && l.pointAtMost.all (k ≤ ·)
  if d.digits = 0 then (if l.keepPointZero then "0.0".toList else ['0'])
  else if positional then
    if 0 ≤ d.exponent then
      ds ++ zeros d.exponent.toNat ++ (if l.keepPointZero then ['.', '0'] else [])
    else if 0 < k then
      ds.take k.toNat ++ ['.'] ++ ds.drop k.toNat
    else
      ['0', '.'] ++ zeros (-k).toNat ++ ds
  else
    let e := k - 1
    let mant := match ds with
      | [c] => [c]
      | c :: rest => c :: '.' :: rest
      | [] => []
    let sign := if e < 0 then ['-'] else if l.plusExponent then ['+'] else []
    mant ++ ['e'] ++ sign ++ (toString e.natAbs).toList

/-- The text of a double under a layout. -/
def render (l : NumberLayout) (f : Float) : String :=
  if f.isNaN then l.nan
  else
    let p := Binary64.parts f
    let sign := if p.negative then "-" else ""
    if !p.isFinite then sign ++ l.infinity
    else
      let b := body l (Decimal.shortest f)
      let b := if l.forcePoint && !b.contains '.' then b ++ ['.', '0'] else b
      sign ++ String.ofList b

end NumberLayout

end Storyboard
