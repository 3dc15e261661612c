/-!
# Punycode

The bootstring encoding that internationalised domain labels use: the ASCII characters
of a label are copied, then each other code point is written, in increasing order of
value, as a variable-length base-36 number giving its distance from the previous one and
where it goes. The thresholds of the digits follow an adaptive bias, so that labels of
one script stay short.

Every loop has a measure: the bias loop divides by 35, a digit run divides its quotient
by at least 10, the encoder visits each distinct code point once, and the decoder reads
at least one digit for each code point it inserts.
-/

namespace Storyboard

namespace Punycode

/-- The digit for a value below 36: `a` to `z`, then `0` to `9`. -/
def digit (d : Nat) : Char :=
  if d < 26 then Char.ofNat (0x61 + d) else Char.ofNat (0x30 + d - 26)

/-- The value of a digit; capital letters count as small ones. -/
def digitValue? (c : Char) : Option Nat :=
  if 'a' ≤ c && c ≤ 'z' then some (c.toNat - 0x61)
  else if 'A' ≤ c && c ≤ 'Z' then some (c.toNat - 0x41)
  else if '0' ≤ c && c ≤ '9' then some (c.toNat - 0x30 + 26)
  else none

/-- The threshold of the digit at position `k`: between 1 and 26, `k - bias` in between. -/
def threshold (k bias : Nat) : Nat :=
  if k ≤ bias then 1 else if bias + 26 ≤ k then 26 else k - bias

theorem one_le_threshold (k bias : Nat) : 1 ≤ threshold k bias := by
  unfold threshold; split <;> (try split) <;> omega

theorem threshold_le (k bias : Nat) : threshold k bias ≤ 26 := by
  unfold threshold; split <;> (try split) <;> omega

/-- Scale a delta down below 456, counting 36 for each division by 35. -/
def scaleDown (delta k : Nat) : Nat × Nat :=
  if 455 < delta then scaleDown (delta / 35) (k + 36) else (delta, k)
termination_by delta
decreasing_by exact Nat.div_lt_self (by omega) (by omega)

/-- The next bias, from the last delta and the number of code points so far. -/
def adapt (delta count : Nat) (first : Bool) : Nat :=
  let d := if first then delta / 700 else delta / 2
  let (d, k) := scaleDown (d + d / count) 0
  k + 36 * d / (d + 38)

/-- The digits of one delta, least significant first. -/
def digits (bias k q : Nat) : List Char :=
  let t := threshold k bias
  if q < t then [digit q]
  else digit (t + (q - t) % (36 - t)) :: digits bias (k + 36) ((q - t) / (36 - t))
termination_by q
decreasing_by
  have := one_le_threshold k bias
  have := threshold_le k bias
  have : (q - threshold k bias) / (36 - threshold k bias) ≤ q - threshold k bias := Nat.div_le_self _ _
  omega

/-- The state of the encoder: digits written, the running delta, the bias, and how many
code points are placed. -/
structure Encoder where
  /-- The digits written so far. -/
  out : List Char
  /-- The running delta. -/
  delta : Nat
  /-- The current bias. -/
  bias : Nat
  /-- How many code points are placed. -/
  placed : Nat

/-- Pass one code point of the label while placing the value `m`. -/
def Encoder.visit (basic m : Nat) (e : Encoder) (c : Char) : Encoder :=
  if c.toNat < m then { e with delta := e.delta + 1 }
  else if c.toNat = m then
    { out := e.out ++ digits e.bias 36 e.delta, delta := 0,
      bias := adapt e.delta (e.placed + 1) (e.placed == basic), placed := e.placed + 1 }
  else e

/-- Place the values `ms` (increasing), starting from the value `n`. -/
def Encoder.run (label : List Char) (basic : Nat) : List Nat → Nat → Encoder → Encoder
  | [], _, e => e
  | m :: ms, n, e =>
    let e := label.foldl (visit basic m) { e with delta := e.delta + (m - n) * (e.placed + 1) }
    run label basic ms (m + 1) { e with delta := e.delta + 1 }

/-- The distinct values of a list, in increasing order. -/
def ascending (xs : List Nat) : List Nat :=
  (xs.mergeSort (· ≤ ·)).eraseDups

/-- The encoding of a label: its ASCII characters, a hyphen if there are any, then the
digits that place the others. -/
def encode (label : List Char) : List Char :=
  let basic := label.filter (·.toNat < 0x80)
  let wide := ascending ((label.filter (0x80 ≤ ·.toNat)).map Char.toNat)
  let e := Encoder.run label basic.length wide 128 ⟨[], 0, 72, basic.length⟩
  basic ++ (if basic.isEmpty then [] else ['-']) ++ e.out

/-- Read one delta: the new position counter and the digits left, or `none` when the
digits end early or one is not a digit. -/
def readDelta (bias : Nat) : List Char → Nat → Nat → Nat → Option (Nat × List Char)
  | [], _, _, _ => none
  | c :: rest, k, w, i =>
    match digitValue? c with
    | none => none
    | some d =>
      if d < threshold k bias then some (i + d * w, rest)
      else readDelta bias rest (k + 36) (w * (36 - threshold k bias)) (i + d * w)

theorem readDelta_shorter (bias : Nat) :
    ∀ (cs : List Char) (k w i : Nat) (r : Nat × List Char),
      readDelta bias cs k w i = some r → r.2.length < cs.length
  | [], _, _, _, _, h => by simp [readDelta] at h
  | c :: rest, k, w, i, r, h => by
    rw [readDelta] at h
    split at h
    · simp at h
    · split at h
      · rw [← Option.some.inj h]; simp
      · have := readDelta_shorter bias rest _ _ _ r h
        simp <;> omega

/-- Insert the code points that the digits place into the decoded text. -/
def insertAll (bias n i : Nat) (out : List Char) : List Char → Option (List Char)
  | [] => some out
  | c :: rest =>
    match h : readDelta bias (c :: rest) 36 1 i with
    | none => none
    | some (i', left) =>
      let count := out.length + 1
      let n' := n + i' / count
      let pos := i' % count
      if n'.isValidChar then
        insertAll (adapt (i' - i) count (i == 0)) n' (pos + 1) (out.insertIdx pos (Char.ofNat n')) left
      else none
termination_by cs => cs.length
decreasing_by
  have := readDelta_shorter bias (c :: rest) 36 1 i (i', left) h
  simpa using this

/-- The decoding of a label: the part before the last hyphen is copied and must be
ASCII, the rest places the other code points. -/
def decode? (label : List Char) : Option (List Char) :=
  let (basic, rest) := match label.reverse.span (· != '-') with
    | (tail, []) => ([], tail.reverse)
    | (tail, _ :: head) => (head.reverse, tail.reverse)
  if basic.any (0x80 ≤ ·.toNat) then none else insertAll 72 128 0 basic rest

end Punycode

end Storyboard
