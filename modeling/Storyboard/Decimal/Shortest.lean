import Storyboard.Decimal.Binary

/-!
# The shortest decimal that reads back

Every finite double `v = m · 2^e` owns an interval of reals that round to it. The text
of `v` uses the fewest significant digits of any decimal in that interval, and of those
decimals the one nearest to `v`; an exact tie between two goes to the even last digit.

The search is plain: for `n = 1, 2, …, 17` significant digits, `v` lies between two
neighbours on the grid of `n`-digit decimals, and the first `n` for which a neighbour
lies in the interval wins. The interval is convex and contains `v`, so if any `n`-digit
decimal lies in it, one of the two neighbours does. Seventeen digits always suffice.

All comparisons are exact: a decimal `c · 10^t` is compared with `k · 2^s` on naturals.
-/

namespace Storyboard

/-- A decimal number `digits · 10^exponent`. -/
structure Decimal where
  /-- The significant digits, as a natural with no trailing zero (or zero). -/
  digits : Nat
  /-- The power of ten of the last digit. -/
  exponent : Int
deriving Repr, DecidableEq

namespace Decimal

/-- `a · 10^s` compared with `b · 2^t`, exactly. -/
def cmpScaled (a : Nat) (s : Int) (b : Nat) (t : Int) : Ordering :=
  compare (a * Nat.pow 10 s.toNat * Nat.pow 2 (-t).toNat) (b * Nat.pow 2 t.toNat * Nat.pow 10 (-s).toNat)

/-- Drop trailing zeros of the digits, raising the exponent to match. -/
def trim (d : Nat) (t : Int) : Decimal :=
  if h : d ≠ 0 ∧ d % 10 = 0 then trim (d / 10) (t + 1) else ⟨d, t⟩
termination_by d
decreasing_by exact Nat.div_lt_self (Nat.pos_of_ne_zero h.1) (by decide)

/-- The rounding interval of the finite positive double `m · 2^e`, scaled by four so
that its ends are naturals times `2^(e-2)`: the value is `4m`, the upper end `4m + 2`,
and the lower end `4m - 1` when the next double below is twice as close (the lowest
significand of an exponent above the smallest), else `4m - 2`. -/
structure Interval where
  /-- The significand. -/
  m : Nat
  /-- The binary exponent of the value. -/
  e : Int
  /-- `1` when the lower gap is half the upper one, else `2`. -/
  lowGap : Nat

/-- Whether `c · 10^t` reads back as the double of the interval: inside, and on an end
only when the significand is even. -/
def Interval.contains (i : Interval) (c : Nat) (t : Int) : Bool :=
  let lo := cmpScaled c t (4 * i.m - i.lowGap) (i.e - 2)
  let hi := cmpScaled c t (4 * i.m + 2) (i.e - 2)
  if i.m % 2 = 0 then lo != .lt && hi != .gt else lo == .gt && hi == .lt

/-- The exponent `k` with `10^k ≤ m · 2^e < 10^(k+1)`, for `m > 0`. An estimate through
`log10 2 ≈ 78913 / 2^18` is off by at most one, so four candidates are tried. -/
def decimalExponent (m : Nat) (e : Int) : Int :=
  let bits : Int := (Nat.log2 m : Int) + e
  let guess := bits * 78913 / Nat.pow 2 18
  let fits (k : Int) : Bool := cmpScaled 1 k m e != .gt
  if fits (guess + 2) then guess + 2
  else if fits (guess + 1) then guess + 1
  else if fits guess then guess
  else guess - 1

/-- `⌊m · 2^e / 10^t⌋`. -/
def floorScaled (m : Nat) (e t : Int) : Nat :=
  (m * Nat.pow 2 e.toNat * Nat.pow 10 (-t).toNat) / (Nat.pow 2 (-e).toNat * Nat.pow 10 t.toNat)

/-- Search `n`, `n + 1`, … significant digits, at most `fuel` more, for a decimal in the
interval; `k` is the decimal exponent of the value. Past the last count the nearer
neighbour is taken. -/
def search (i : Interval) (k : Int) : Nat → Nat → Decimal
  | fuel, n =>
    let t := k - n + 1
    let q := floorScaled i.m i.e t
    let below := i.contains q t
    let above := i.contains (q + 1) t
    -- compare the midpoint `(2q + 1) · 10^t / 2` of the neighbours with the value `m · 2^e`
    let mid := cmpScaled (2 * q + 1) t (2 * i.m) i.e
    let nearer := if mid == .gt then q else if mid == .lt then q + 1
      else if q % 2 = 0 then q else q + 1
    let pick := if below && above then some nearer
      else if below then some q else if above then some (q + 1) else none
    match pick, fuel with
    | some c, _ => trim c t
    | none, 0 => trim nearer t
    | none, fuel + 1 => search i k fuel (n + 1)

/-- The shortest decimal that reads back as the finite positive double `m · 2^e`. -/
def shortestOf (m : Nat) (e : Int) (lowGap : Nat) : Decimal :=
  search ⟨m, e, lowGap⟩ (decimalExponent m e) 16 1

/-- The shortest decimal that reads back as the magnitude of a finite double; zero for
zero. -/
def shortest (f : Float) : Decimal :=
  let p := Binary64.parts f
  if p.significand = 0 then ⟨0, 0⟩
  else shortestOf p.significand p.scale (if p.fraction = 0 ∧ p.exponent > 1 then 1 else 2)

/-- The decimal digits of the significant part, as characters. -/
def digitChars (d : Decimal) : List Char := Nat.toDigits 10 d.digits

/-- The position of the decimal point relative to the first digit: the value is
`0.d₁d₂… · 10^pointPos`. -/
def pointPos (d : Decimal) : Int := (d.digitChars.length : Int) + d.exponent

end Decimal

end Storyboard
