/-!
# Doubles as exact numbers

A double is read through its 64 bits: a sign, an 11-bit exponent field and a 52-bit
fraction field. A finite double is `± m · 2^e` with natural `m`, and everything this
library decides about doubles that arithmetic cannot answer (integrality, truncation,
the nearest double to a fraction) is decided on `m` and `e` in exact arithmetic.

Main definitions: `Binary64.parts` (the fields), `Binary64.ofRatio` (the double nearest
to a fraction, a tie going to the even significand), `Binary64.truncate?` (the integer
part), `Binary64.toInt64Clamped` (the integer part clamped to 64-bit signed range) and
`Binary64.roundToUInt64Clamped` (the nearest integer clamped to 64-bit unsigned range).
-/

namespace Storyboard

namespace Binary64

/-- The three fields of a double. -/
structure Parts where
  /-- The sign bit. -/
  negative : Bool
  /-- The biased exponent field, below `2^11`. -/
  exponent : Nat
  /-- The fraction field, below `2^52`. -/
  fraction : Nat

/-- The fields of a double, read off its bits. -/
def parts (f : Float) : Parts :=
  let b := f.toBits.toNat
  ⟨b / Nat.pow 2 63 % 2 = 1, b / Nat.pow 2 52 % Nat.pow 2 11, b % Nat.pow 2 52⟩

/-- The significand `m` of a finite double `± m · 2^e`. -/
def Parts.significand (p : Parts) : Nat :=
  if p.exponent = 0 then p.fraction else p.fraction + Nat.pow 2 52

/-- The binary exponent `e` of a finite double `± m · 2^e`. -/
def Parts.scale (p : Parts) : Int :=
  if p.exponent = 0 then -1074 else (p.exponent : Int) - 1075

/-- Whether the fields describe a finite number (the exponent field is not all ones). -/
def Parts.isFinite (p : Parts) : Bool := p.exponent != Nat.pow 2 11 - 1

/-- The double with the given fields. -/
def ofParts (negative : Bool) (exponent fraction : Nat) : Float :=
  Float.ofBits (UInt64.ofNat ((if negative then Nat.pow 2 63 else 0) + exponent * Nat.pow 2 52 + fraction))

/-- Round `n / d` to the nearest natural, a tie going to the even one. -/
def roundHalfEven (n d : Nat) : Nat :=
  let q := n / d
  let r := n % d
  if 2 * r < d then q else if d < 2 * r then q + 1 else if q % 2 = 0 then q else q + 1

/-- `a · 2^s` compared with `b · 2^t`, exactly. -/
def cmpPow2 (a : Nat) (s : Int) (b : Nat) (t : Int) : Ordering :=
  compare (a * Nat.pow 2 (s - t).toNat) (b * Nat.pow 2 (t - s).toNat)

/-- The exponent `k` with `2^k ≤ n / d < 2^(k+1)`, for `n, d > 0`. -/
def log2Ratio (n d : Nat) : Int :=
  let k : Int := (Nat.log2 n : Int) - Nat.log2 d
  if cmpPow2 n 0 d k = .lt then k - 1 else k

/-- The double nearest to `± n / d`, a tie going to the even significand; a fraction
beyond the largest double gives an infinity. `d` must be positive. -/
def ofRatio (negative : Bool) (n d : Nat) : Float :=
  if n = 0 then ofParts negative 0 0 else
  let k := log2Ratio n d
  -- the unit of the last significand bit: normal numbers keep 53 bits, subnormal ones
  -- share the unit of the smallest normal exponent
  let s : Int := max k (-1022) - 52
  let q := roundHalfEven (n * Nat.pow 2 (-s).toNat) (d * Nat.pow 2 s.toNat)
  let (q, s) := if q = Nat.pow 2 53 then (Nat.pow 2 52, s + 1) else (q, s)
  if q < Nat.pow 2 52 then ofParts negative 0 q
  else
    let biased := s + 1075
    if biased ≥ Nat.pow 2 11 - 1 then ofParts negative (Nat.pow 2 11 - 1) 0
    else ofParts negative biased.toNat (q - Nat.pow 2 52)

/-- The number of decimal digits of a natural (one for zero). -/
def digitCount (n : Nat) : Nat := (Nat.toDigits 10 n).length

/-- The double nearest to `± m · 10^e`. Values far outside the range of doubles are
decided by their digit count alone, so huge exponents cost nothing. -/
def ofDecimal (negative : Bool) (m : Nat) (e : Int) : Float :=
  if m = 0 then ofParts negative 0 0
  else if (digitCount m : Int) + e > 310 then ofParts negative (Nat.pow 2 11 - 1) 0
  else if (digitCount m : Int) + e < -330 then ofParts negative 0 0
  else if 0 ≤ e then ofRatio negative (m * Nat.pow 10 e.toNat) 1
  else ofRatio negative m (Nat.pow 10 (-e).toNat)

/-- The double nearest to an integer. -/
def ofInt (n : Int) : Float := ofRatio (n < 0) n.natAbs 1

/-- The exact value of a finite double as a signed fraction `± num / den`. -/
def Parts.ratio (p : Parts) : Int × Nat :=
  let m : Int := if p.negative then -(p.significand : Int) else p.significand
  if 0 ≤ p.scale then (m * Nat.pow 2 p.scale.toNat, 1) else (m, Nat.pow 2 (-p.scale).toNat)

/-- The integer part of a finite double, rounding toward zero; `none` for an infinity
or NaN. -/
def truncate? (f : Float) : Option Int :=
  let p := parts f
  if p.isFinite then
    let (num, den) := p.ratio
    some (num.tdiv den)
  else none

/-- Whether a double is finite and has no fractional part. -/
def isIntegral (f : Float) : Bool :=
  let p := parts f
  p.isFinite && (p.ratio.1 % (p.ratio.2 : Int) == 0)

/-- Clamp an integer into the 64-bit signed range. -/
def clampInt64 (n : Int) : Int := max (-(Nat.pow 2 63)) (min n (Nat.pow 2 63 - 1))

/-- The integer part of a double clamped into the 64-bit signed range: an infinity goes
to the nearer end of the range and NaN to zero. -/
def toInt64Clamped (f : Float) : Int :=
  match truncate? f with
  | some n => clampInt64 n
  | none => if f.isNaN then 0 else if f > 0 then Nat.pow 2 63 - 1 else -(Nat.pow 2 63)

/-- The integer part of a double clamped into the 64-bit unsigned range: negative
values and NaN go to zero. -/
def toUInt64Clamped (f : Float) : Nat :=
  match truncate? f with
  | some n => (min n (Nat.pow 2 64 - 1)).toNat
  | none => if f.isNaN then 0 else if f > 0 then Nat.pow 2 64 - 1 else 0

/-- The integer nearest to a finite double, a tie going away from zero; `none` for an
infinity or NaN. -/
def roundHalfAway? (f : Float) : Option Int :=
  let p := parts f
  if p.isFinite then
    let (num, den) := p.ratio
    let r : Int := ((2 * num.natAbs + den) / (2 * den) : Nat)
    some (if num < 0 then -r else r)
  else none

/-- A double rounded to the nearest integer, a tie going away from zero, then clamped into
the 64-bit unsigned range as `toUInt64Clamped` clamps. The rounding is done exactly on the
double's value: the nearest integer to a finite double is always a double itself. -/
def roundToUInt64Clamped (f : Float) : Nat :=
  match roundHalfAway? f with
  | some n => (min n (Nat.pow 2 64 - 1)).toNat
  | none => toUInt64Clamped f

end Binary64

/-! ## Operations that ignore NaN -/

/-- The smaller of two doubles; when one is NaN the other is returned. -/
def Float.minNum (a b : Float) : Float :=
  if a.isNaN then b else if b.isNaN then a else if b < a then b else a

/-- The larger of two doubles; when one is NaN the other is returned. -/
def Float.maxNum (a b : Float) : Float :=
  if a.isNaN then b else if b.isNaN then a else if a < b then b else a

end Storyboard
