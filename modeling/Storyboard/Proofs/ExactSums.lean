import Storyboard.Proofs.Arithmetic

/-!
# Whole numbers under double addition

Adding two doubles rounds their exact sum to 53 significant bits. When both hold whole numbers
and the sum lies below `2^53` in magnitude, the rounding drops only zero bits, so the sum is
exact; and `Loose.numberValue` writes such a double as the integer it holds. Both are proved on
the logical model of doubles the core library gives (`Float.Model`, `UnpackedFloat`): a double
is read through its unpacked form, a sign, a mantissa and an exponent.

`valueOf` is the number an unpacked form stands for, `Canonical` the forms doubles take (zeros,
subnormal and normal numbers), and `HoldsWhole x X` says that the double `x` is finite with
value `X`. `Parts.unpacked` reads the unpacked form off the fields of a double, which ties
`HoldsWhole` to the integral test and the integer part this library computes on the fields.

Main statements:
* `Binary64.round_exact`: rounding `N · 2^E` is exact when the bits below the last one a double
  keeps are zero.
* `Binary64.holdsWhole_add`: the sum of two doubles that hold whole numbers holds their sum,
  when that lies below `2^53`.
* `Binary64.holdsWhole_iff`: a double holds a whole number exactly when it is integral, and the
  number is its integer part.
* `Loose.numberValue_of_holdsWhole`: a double that holds a whole number below `2^53` is written
  as that integer.
-/

namespace Storyboard

namespace Binary64

open Float.Model UnpackedFloat

/-! ## Rounding that drops only zero bits -/

/-- The exponent a double gives a number whose leading bit is at position `t`. -/
theorem targetExponent_binary64 (t : Int) :
    Format.binary64.targetExponent t = max (t - 53) (-1074) := by
  simp only [Format.targetExponent]; rfl

/-- Multiplying by `2^d` moves the leading bit up by `d`. -/
theorem log2_mul_two_pow {N : Nat} (hN : 0 < N) (d : Nat) : (N * 2 ^ d).log2 = N.log2 + d := by
  have h1 := Nat.log2_self_le (Nat.ne_of_gt hN)
  have h2 := @Nat.lt_log2_self N
  rw [Nat.log2_eq_iff (Nat.ne_of_gt (Nat.mul_pos hN (Nat.two_pow_pos d)))]
  constructor
  · rw [Nat.pow_add]; exact Nat.mul_le_mul_right _ h1
  · rw [show N.log2 + d + 1 = (N.log2 + 1) + d by omega, Nat.pow_add]
    exact Nat.mul_lt_mul_of_pos_right h2 (Nat.two_pow_pos d)

/-- Shifting a mantissa right by `k` bits when its low `k` bits are zero loses nothing. -/
theorem shiftRight_exact (N k : Nat) (h : 2 ^ k ∣ N) :
    (⟨N, false, false⟩ : ExtendedMantissa) >>> k = ⟨N / 2 ^ k, false, false⟩ := by
  induction k with
  | zero => simp [HShiftRight.hShiftRight, Nat.repeat]
  | succ k ih =>
    have hk : 2 ^ k ∣ N := (Nat.pow_dvd_pow 2 (Nat.le_succ k)).trans h
    show ExtendedMantissa.shiftRightOne ((⟨N, false, false⟩ : ExtendedMantissa) >>> k) = _
    rw [ih hk]
    -- the bit shifted out is bit `k` of `N`, which is zero
    have hbit : N / 2 ^ k % 2 = 0 := by
      obtain ⟨q, rfl⟩ := h
      rw [Nat.pow_succ, Nat.mul_assoc, Nat.mul_div_cancel_left _ (Nat.two_pow_pos k)]
      simp
    simp [ExtendedMantissa.shiftRightOne, hbit, Nat.div_div_eq_div_mul, Nat.pow_succ]

@[simp] theorem roundedMantissa_exact (q : Nat) :
    ExtendedMantissa.roundedMantissa ⟨q, false, false⟩ = q := rfl

@[simp] theorem shiftRight_zero (em : ExtendedMantissa) : em >>> 0 = em := rfl

/-- The exponent of the last bit a double keeps of `N · 2^E`: the 53rd bit from the leading
one, but not below the least exponent `-1074`. -/
def unitExponent (N : Nat) (E : Int) : Int := Format.binary64.targetExponent (totalExponent N E)

/-- Scaling a mantissa up by `2^d` and its exponent down by `d` keeps the position of the
leading bit. -/
theorem totalExponent_mul_two_pow {N : Nat} (hN : 0 < N) (d : Nat) (E : Int) :
    totalExponent (N * 2 ^ d) (E - d) = totalExponent N E := by
  unfold totalExponent
  rw [log2_mul_two_pow hN]
  push_cast
  ring

/-- Rounding a mantissa whose dropped bits are all zero, at an exponent at or below its unit
exponent, shifts it to the unit exponent exactly. -/
theorem roundWithAccuracy_exact (s : Sign) {M : Nat} {E : Int} (hM : 0 < M)
    (hE : E ≤ unitExponent M E) (hdvd : 2 ^ (unitExponent M E - E).toNat ∣ M) :
    ∃ h, roundWithAccuracy Format.binary64 s M E .exact
      = .finite s (M / 2 ^ (unitExponent M E - E).toNat) (unitExponent M E) h := by
  have hT0 : Format.binary64.targetExponent (totalExponent M E) = unitExponent M E := rfl
  generalize unitExponent M E = T at hT0 hE hdvd ⊢
  have hq : 0 < M / 2 ^ (T - E).toNat :=
    Nat.div_pos (Nat.le_of_dvd hM hdvd) (Nat.two_pow_pos _)
  -- the shifted mantissa is already at its unit exponent
  have hT1 : Format.binary64.targetExponent (totalExponent (M / 2 ^ (T - E).toNat) T) = T := by
    have h := totalExponent_mul_two_pow hq (T - E).toNat T
    rw [Nat.div_mul_cancel hdvd, show T - ((T - E).toNat : Int) = E by omega] at h
    rw [← h, hT0]
  have hET : E + ((T - E).toNat : Int) = T := by omega
  refine ⟨hq, ?_⟩
  unfold roundWithAccuracy shiftToTargetExponent shiftToExponent
  simp only [ExtendedMantissa.ofMantissaAndAccuracy, hT0, hET, shiftRight_exact M _ hdvd,
    roundedMantissa_exact, hT1, sub_self, Int.toNat_zero, shiftRight_zero, Int.natCast_zero,
    add_zero]
  rw [dif_neg (by omega)]

/-- Rounding `N · 2^E` is exact when the bits below the unit exponent are zero: the result is
`N · 2^E` written at the unit exponent. -/
theorem round_exact (s : Sign) {N : Nat} {E : Int} (hN : 0 < N)
    (hdvd : 2 ^ (unitExponent N E - E).toNat ∣ N) :
    ∃ h, UnpackedFloat.round Format.binary64 s N E
      = .finite s (N * 2 ^ (E - unitExponent N E).toNat / 2 ^ (unitExponent N E - E).toNat)
          (unitExponent N E) h := by
  have hT : Format.binary64.targetExponent (totalExponent N E) = unitExponent N E := rfl
  -- `round` first moves a mantissa that lies above its unit exponent down to it
  have hshift : unitExponent (N * 2 ^ (E - unitExponent N E).toNat)
      (E - (E - unitExponent N E).toNat) = unitExponent N E := by
    unfold unitExponent
    rw [totalExponent_mul_two_pow hN]
  unfold UnpackedFloat.round decreaseExponent
  simp only [hT, Nat.shiftLeft_eq]
  generalize unitExponent N E = T at hdvd hshift ⊢
  have hu : (T - (E - ((E - T).toNat : Int))).toNat = (T - E).toNat := by omega
  have hdvd' : 2 ^ (T - (E - ((E - T).toNat : Int))).toNat ∣ N * 2 ^ (E - T).toNat := by
    rw [hu]
    exact Dvd.dvd.mul_right hdvd _
  obtain ⟨h, heq⟩ := roundWithAccuracy_exact s (Nat.mul_pos hN (Nat.two_pow_pos _))
    (by rw [hshift]; omega) (by rw [hshift]; exact hdvd')
  simp only [hshift, hu] at h heq
  exact ⟨h, heq⟩

/-! ## The forms of doubles -/

/-- The unpacked forms doubles have: zeros, subnormal numbers (fewer than 53 bits at the least
exponent) and normal numbers (53 bits at an exponent the 11-bit field holds). -/
inductive Canonical : UnpackedFloat → Prop
  | zero (s : Sign) : Canonical (.zero s)
  | subnormal (s : Sign) {m : Nat} (h : 0 < m) (hm : m < 2 ^ 52) : Canonical (.finite s m (-1074) h)
  | normal (s : Sign) {m : Nat} {e : Int} (h : 0 < m) (hlo : 2 ^ 52 ≤ m) (hhi : m < 2 ^ 53)
      (helo : -1074 ≤ e) (hehi : e ≤ 971) : Canonical (.finite s m e h)

/-- The sign of a double's fields, as its unpacked form records it. -/
def Parts.sign (p : Parts) : Sign := if p.negative then .negative else .positive

/-- The unpacked form of a finite double's fields: a zero for a zero significand, else
`± significand · 2^scale`. -/
def Parts.unpacked (p : Parts) : UnpackedFloat :=
  if h : p.significand = 0 then .zero p.sign
  else .finite p.sign p.significand p.scale (Nat.pos_of_ne_zero h)

/-- The sign of a double's bits is its top bit. -/
theorem sign_unpack (b : BitVec 64) :
    Sign.ofBitVec (@unpackSign Format.binary64 b)
      = if b.toNat / 2^63 % 2 = 1 then .negative else .positive := by
  have h := unpackSign_toNat b
  have hb := b.isLt
  unfold Sign.ofBitVec
  by_cases h1 : b.toNat / 2^63 % 2 = 1
  · rw [if_pos h1, if_neg]
    intro h0
    rw [h0] at h
    simp at h
    omega
  · rw [if_neg h1, if_pos]
    apply BitVec.eq_of_toNat_eq
    rw [h]
    simp
    omega

/-- The fields of a double, read off the bits of its model. -/
theorem parts_eq (x : Float) : parts x =
    ⟨x.toModel.toBits.toBitVec.toNat / 2^63 % 2 = 1, x.toModel.toBits.toBitVec.toNat / 2^52 % 2^11,
      x.toModel.toBits.toBitVec.toNat % 2^52⟩ := rfl

/-- A finite double unpacks to the number its fields describe. -/
theorem toModel_unpack (x : Float) (hx : (parts x).isFinite = true) :
    x.toModel.unpack = (parts x).unpacked := by
  have hmant := unpackMantissa_toNat x.toModel.toBits.toBitVec
  have hexp := unpackExponent_toNat x.toModel.toBits.toBitVec
  have hsign := sign_unpack x.toModel.toBits.toBitVec
  rw [parts_eq] at hx ⊢
  unfold Float.Model.unpack UnpackedFloat.unpack
  generalize x.toModel.toBits.toBitVec = b at *
  simp only [Parts.isFinite, Parts.unpacked, Parts.significand, Parts.scale, Parts.sign, hsign,
    decide_eq_true_eq, Nat.pow_eq] at hx ⊢
  generalize (if b.toNat / 2 ^ 63 % 2 = 1 then Sign.negative else Sign.positive) = s
  have hbias : (Format.binary64.exponentBias : Int) = 1023 := rfl
  have hE1 : ¬ @unpackExponent Format.binary64 b = -1#11 := fun h => by
    rw [h] at hexp
    simp at hexp hx
    omega
  rw [if_neg hE1]
  by_cases hE0 : b.toNat / 2 ^ 52 % 2 ^ 11 = 0
  · -- a zero or a subnormal number: the fraction at the least exponent
    have h0 : @unpackExponent Format.binary64 b = 0#11 := BitVec.eq_of_toNat_eq (by rw [hexp, hE0]; rfl)
    rw [if_pos h0]
    simp only [hE0, if_true]
    by_cases hF : b.toNat % 2 ^ 52 = 0
    · have hm0 : @unpackMantissa Format.binary64 b = 0#52 := BitVec.eq_of_toNat_eq (by rw [hmant, hF]; rfl)
      rw [dif_pos hm0, dif_pos hF]
    · have hm0 : ¬ @unpackMantissa Format.binary64 b = 0#52 := fun h => hF (by rw [← hmant, h]; rfl)
      rw [dif_neg hm0, dif_neg hF]
      simp only [finite.injEq, hmant, hexp, hE0, hbias, true_and]
      omega
  · -- a normal number: the fraction under its leading bit
    have h0 : ¬ @unpackExponent Format.binary64 b = 0#11 := fun h => hE0 (by rw [← hexp, h]; rfl)
    rw [if_neg h0]
    simp only [hE0, if_false]
    rw [dif_neg (by omega)]
    have happ : (1#1 ++ @unpackMantissa Format.binary64 b).toNat = b.toNat % 2^52 + 2^52 := by
      rw [BitVec.toNat_append, hmant, ← Nat.shiftLeft_add_eq_or_of_lt (Nat.mod_lt _ (by decide))]
      simp [Nat.shiftLeft_eq]
      omega
    simp only [finite.injEq, happ, hexp, hbias, true_and]
    omega

/-- The fields of a finite double describe a canonical form. -/
theorem canonical_unpacked (x : Float) (hx : (parts x).isFinite = true) :
    Canonical (parts x).unpacked := by
  rw [parts_eq] at hx ⊢
  generalize x.toModel.toBits.toBitVec.toNat = b at *
  simp only [Parts.isFinite, Nat.pow_eq, bne_iff_ne, ne_eq] at hx
  have hE : b / 2 ^ 52 % 2 ^ 11 < 2 ^ 11 := Nat.mod_lt _ (by decide)
  have hF : b % 2 ^ 52 < 2 ^ 52 := Nat.mod_lt _ (by decide)
  unfold Parts.unpacked Parts.significand Parts.scale
  by_cases hE0 : b / 2 ^ 52 % 2 ^ 11 = 0
  · simp only [hE0, if_true, Nat.pow_eq]
    split
    · exact .zero _
    · exact .subnormal _ _ hF
  · simp only [hE0, if_false, Nat.pow_eq]
    rw [dif_neg (by omega)]
    exact .normal _ _ (by omega) (by omega) (by omega) (by omega)

theorem isFinite_unpacked (p : Parts) : p.unpacked.isFinite = true := by
  unfold Parts.unpacked
  split <;> rfl

/-- A double unpacks to a finite number exactly when its exponent field is not all ones. -/
theorem isFinite_toModel_unpack (x : Float) : x.toModel.unpack.isFinite = (parts x).isFinite := by
  by_cases hx : (parts x).isFinite = true
  · rw [toModel_unpack x hx, hx, isFinite_unpacked]
  · rw [Bool.not_eq_true] at hx
    have he : x.toModel.toBits.toBitVec.toNat / 2 ^ 52 % 2 ^ 11 = 2047 := by
      rw [parts_eq] at hx
      simpa [Parts.isFinite] using hx
    rw [hx]
    unfold Float.Model.unpack
    rw [unpack_of_allOnes he]
    split <;> rfl

/-- A finite double unpacks to a canonical form. -/
theorem canonical_toModel (x : Float) (hx : x.toModel.unpack.isFinite = true) :
    Canonical x.toModel.unpack := by
  rw [isFinite_toModel_unpack] at hx
  rw [toModel_unpack x hx]
  exact canonical_unpacked x hx

/-- Packing keeps the sign in the top bit. -/
theorem sign_packComponents (s : Sign) (e : BitVec 11) (m : BitVec 52) :
    Sign.ofBitVec (@unpackSign Format.binary64 (packComponents Format.binary64 s e m)) = s := by
  have h := unpackSign_toNat (packComponents Format.binary64 s e m)
  have he := e.isLt
  have hm := m.isLt
  have hs : s.toBitVec.toNat < 2 := s.toBitVec.isLt
  rw [packComponents_toNat] at h
  have h' : (@unpackSign Format.binary64 (packComponents Format.binary64 s e m)).toNat
      = s.toBitVec.toNat := by
    rw [h]
    omega
  cases s
  · unfold Sign.ofBitVec
    rw [if_neg]
    intro h0
    rw [h0] at h'
    exact absurd h' (by decide)
  · unfold Sign.ofBitVec
    rw [if_pos]
    exact BitVec.eq_of_toNat_eq h'

/-- Packing a canonical form and unpacking the bits gives it back. -/
theorem unpack_pack {u : UnpackedFloat} (hu : Canonical u) :
    unpack Format.binary64 (pack Format.binary64 u) = u := by
  have hbias : (Format.binary64.exponentBias : Int) = 1023 := rfl
  have hmb : Format.binary64.mantissaBits = 53 := rfl
  cases hu with
  | zero s => cases s <;> rfl
  | @subnormal s m h hm =>
    -- packed with a zero exponent field and the significand as the fraction
    have hlog : m.log2 < 52 := (Nat.log2_lt (by omega)).2 hm
    unfold UnpackedFloat.pack
    simp only [hbias]
    rw [if_neg (by decide), if_neg (by rw [hmb]; omega)]
    unfold UnpackedFloat.unpack
    simp only [unpackMantissa_packComponents, unpackExponent_packComponents, sign_packComponents]
    have hm0 : BitVec.ofNat 52 m ≠ 0#52 := fun h0 => by
      have := congrArg BitVec.toNat h0
      simp at this
      omega
    rw [if_neg (by decide), if_true, dif_neg hm0]
    simp only [finite.injEq, BitVec.toNat_ofNat, Nat.mod_eq_of_lt hm, hbias, true_and]
    omega
  | @normal s m e h hlo hhi helo hehi =>
    -- packed with the biased exponent and the significand without its leading bit
    have hlog : m.log2 = 52 := (Nat.log2_eq_iff (by omega)).2 ⟨hlo, hhi⟩
    unfold UnpackedFloat.pack
    simp only [hbias, Nat.cast_ofNat]
    rw [if_neg (by omega), if_pos (by rw [hmb, hlog])]
    unfold UnpackedFloat.unpack
    simp only [unpackMantissa_packComponents, unpackExponent_packComponents, sign_packComponents]
    have hE : (BitVec.ofNat 11 (e + 1023 + 52).toNat).toNat = (e + 1023 + 52).toNat := by
      rw [BitVec.toNat_ofNat]
      exact Nat.mod_eq_of_lt (by omega)
    have h1 : BitVec.ofNat 11 (e + 1023 + 52).toNat ≠ -1#11 := fun h1 => by
      have := congrArg BitVec.toNat h1
      rw [hE] at this
      simp at this
      omega
    have h0 : BitVec.ofNat 11 (e + 1023 + 52).toNat ≠ 0#11 := fun h0 => by
      have := congrArg BitVec.toNat h0
      rw [hE] at this
      simp at this
      omega
    have happ : (1#1 ++ BitVec.ofNat 52 m).toNat = m := by
      have hm : (BitVec.ofNat 52 m).toNat = m % 2 ^ 52 := BitVec.toNat_ofNat _ _
      rw [BitVec.toNat_append, hm, ← Nat.shiftLeft_add_eq_or_of_lt (Nat.mod_lt _ (by decide))]
      simp [Nat.shiftLeft_eq]
      omega
    rw [if_neg h1, if_neg h0]
    simp only [finite.injEq, happ, hE, hbias, true_and]
    omega

theorem Canonical.isFinite {u : UnpackedFloat} (h : Canonical u) : u.isFinite = true := by
  cases h <;> rfl

theorem Canonical.neg {u : UnpackedFloat} (h : Canonical u) : Canonical u.neg := by
  cases h with
  | zero s => exact .zero _
  | subnormal s h hm => exact .subnormal _ h hm
  | normal s h hlo hhi helo hehi => exact .normal _ h hlo hhi helo hehi

theorem Canonical.abs {u : UnpackedFloat} (h : Canonical u) : Canonical u.abs := by
  cases h with
  | zero s => exact .zero _
  | subnormal s h hm => exact .subnormal _ h hm
  | normal s h hlo hhi helo hehi => exact .normal _ h hlo hhi helo hehi

/-! ## Values -/

/-- The number an unpacked double stands for: `± m · 2^e` for a finite one and zero for a zero;
infinities and NaN stand for no number and are given zero. -/
def valueOf : UnpackedFloat → ℚ
  | .finite s m e _ => (s.apply m : ℚ) * 2 ^ e
  | _ => 0

theorem valueOf_zero (s : Sign) : valueOf (.zero s) = 0 := rfl

theorem valueOf_finite (s : Sign) (m : Nat) (e : Int) (h : 0 < m) :
    valueOf (.finite s m e h) = (s.apply m : ℚ) * 2 ^ e := rfl

/-- A zero holds only the whole number zero. -/
theorem eq_zero_of_valueOf_zero {s : Sign} {X : Int} (h : valueOf (.zero s) = X) : X = 0 := by
  rw [valueOf_zero] at h
  exact_mod_cast h.symm

theorem valueOf_neg (u : UnpackedFloat) : valueOf u.neg = -valueOf u := by
  cases u with
  | finite s m e h =>
    have hn : -Sign.negative = Sign.positive := rfl
    have hp : -Sign.positive = Sign.negative := rfl
    cases s <;> simp [valueOf_finite, UnpackedFloat.neg, Sign.apply, hn, hp]
  | _ => exact (neg_zero).symm

theorem sign_apply (p : Parts) (n : Nat) :
    (p.sign.apply n : Int) = if p.negative then -(n : Int) else n := by
  unfold Parts.sign
  cases p.negative <;> rfl

theorem Parts.ratio_den_pos (p : Parts) : 0 < p.ratio.2 := by
  unfold Parts.ratio
  dsimp only
  split <;> simp [Nat.pow_eq]

/-- The number a double's fields describe is the fraction `Parts.ratio` gives. -/
theorem valueOf_unpacked (p : Parts) : valueOf p.unpacked = (p.ratio.1 : ℚ) / p.ratio.2 := by
  unfold Parts.unpacked Parts.ratio
  split
  · next h =>
    simp only [valueOf_zero, h, Nat.cast_zero, neg_zero, ite_self]
    split <;> simp
  · simp only [valueOf_finite, sign_apply]
    generalize (if p.negative = true then -(p.significand : Int) else p.significand) = m
    by_cases hs : 0 ≤ p.scale
    · simp only [hs, if_true, Nat.pow_eq]
      obtain ⟨k, hk⟩ : ∃ k : Nat, p.scale = k := ⟨p.scale.toNat, by omega⟩
      rw [hk, Int.toNat_natCast, zpow_natCast]
      push_cast
      rw [div_one]
    · simp only [hs, if_false, Nat.pow_eq]
      obtain ⟨k, hk⟩ : ∃ k : Nat, p.scale = -(k : Int) := ⟨(-p.scale).toNat, by omega⟩
      rw [hk, Int.neg_neg, Int.toNat_natCast, zpow_neg, zpow_natCast]
      push_cast
      rw [div_eq_mul_inv]

theorem apply_mul (s : Sign) (a b : Int) : s.apply (a * b) = s.apply a * b := by
  cases s <;> simp [Sign.apply]

/-- Moving a mantissa down to a lower exponent keeps its value. -/
theorem valueOf_align (s : Sign) (m : Nat) {e E : Int} (hE : E ≤ e) :
    ((s.apply (m * 2 ^ (e - E).toNat : Nat) : Int) : ℚ) * 2 ^ E = (s.apply m : ℚ) * 2 ^ e := by
  have he : (2 : ℚ) ^ e = 2 ^ ((e - E).toNat : Nat) * 2 ^ E := by
    rw [← zpow_natCast, ← zpow_add₀ (by norm_num)]
    congr 1
    omega
  rw [Nat.cast_mul, apply_mul, Int.cast_mul, he]
  push_cast
  ring

/-! ## Whole sums -/

/-- `N · 2^E = n` moved into naturals: both sides times a power of two that clears the
exponent. -/
theorem mul_two_pow_eq {N n : Nat} {E : Int} (hval : (N : ℚ) * 2 ^ E = n) {a b : Nat}
    (hab : (a : Int) - E = b) : N * 2 ^ a = n * 2 ^ b := by
  have h : (N : ℚ) * 2 ^ (a : Int) = n * 2 ^ (b : Int) := by
    rw [show (a : Int) = E + b by omega, zpow_add₀ (by norm_num), ← mul_assoc, hval]
  exact_mod_cast h

/-- A positive mantissa whose value is the natural `n` has its leading bit where `n` has it. -/
theorem log2_of_value {N n : Nat} {E : Int} (hN : 0 < N) (hval : (N : ℚ) * 2 ^ E = n) :
    0 < n ∧ (N.log2 : Int) + E = n.log2 := by
  have h := mul_two_pow_eq hval (a := E.toNat) (b := (-E).toNat) (by omega)
  have hn : 0 < n := by
    rcases Nat.eq_zero_or_pos n with rfl | hn
    · simp at h; omega
    · exact hn
  have hlog := congrArg Nat.log2 h
  rw [log2_mul_two_pow hN, log2_mul_two_pow hn] at hlog
  exact ⟨hn, by omega⟩

/-- The sign of an integer, as an unpacked double records it; zero counts as positive. -/
def signOf (Z : Int) : Sign := if Z < 0 then .negative else .positive

theorem signOf_apply (Z : Int) : ((signOf Z).apply Z.natAbs : Int) = Z := by
  unfold signOf
  split
  · show -(Z.natAbs : Int) = Z
    omega
  · show (Z.natAbs : Int) = Z
    omega

theorem signOf_eq (n : Int) : signOf n = if decide (n < 0) then .negative else .positive := by
  unfold signOf
  by_cases h : n < 0 <;> simp [h]

/-- The form a double gives the whole number `n` with sign `s`: a zero, or 53 significant
bits with the leading bit of `n` at bit 52. -/
def wholeForm (s : Sign) (n : Nat) : UnpackedFloat :=
  if h : n = 0 then .zero s
  else .finite s (n * 2 ^ (52 - n.log2)) ((n.log2 : Int) - 52)
    (Nat.mul_pos (Nat.pos_of_ne_zero h) (Nat.two_pow_pos _))

/-- A positive whole number below `2^53`, shifted to put its leading bit at bit 52, has 53
bits. -/
theorem wholeMantissa_bounds {n : Nat} (h : n ≠ 0) (hn : n < 2 ^ 53) :
    2 ^ 52 ≤ n * 2 ^ (52 - n.log2) ∧ n * 2 ^ (52 - n.log2) < 2 ^ 53 := by
  have hk : n.log2 < 53 := (Nat.log2_lt h).2 hn
  have hlo := Nat.log2_self_le h
  have hhi := @Nat.lt_log2_self n
  constructor
  · calc 2 ^ 52 = 2 ^ n.log2 * 2 ^ (52 - n.log2) := by rw [← Nat.pow_add]; congr 1; omega
      _ ≤ n * 2 ^ (52 - n.log2) := Nat.mul_le_mul_right _ hlo
  · calc n * 2 ^ (52 - n.log2) < 2 ^ (n.log2 + 1) * 2 ^ (52 - n.log2) :=
        Nat.mul_lt_mul_of_pos_right hhi (Nat.two_pow_pos _)
      _ = 2 ^ 53 := by rw [← Nat.pow_add]; congr 1; omega

theorem canonical_wholeForm (s : Sign) {n : Nat} (hn : n < 2 ^ 53) : Canonical (wholeForm s n) := by
  unfold wholeForm
  split
  · exact .zero s
  · next h =>
    have hk : n.log2 < 53 := (Nat.log2_lt h).2 hn
    obtain ⟨hlo, hhi⟩ := wholeMantissa_bounds h hn
    exact .normal s _ hlo hhi (by omega) (by omega)

theorem valueOf_wholeForm (s : Sign) {n : Nat} (hn : n < 2 ^ 53) :
    valueOf (wholeForm s n) = (s.apply n : Int) := by
  unfold wholeForm
  split
  · next h =>
    subst h
    cases s <;> simp [valueOf_zero, Sign.apply]
  · next h =>
    have hk : n.log2 < 53 := (Nat.log2_lt h).2 hn
    have hj : (n.log2 : Int) - 52 = -((52 - n.log2 : Nat) : Int) := by omega
    simp only [valueOf_finite, hj, zpow_neg, zpow_natCast]
    cases s <;> simp [Sign.apply]

/-- Rounding a positive whole number below `2^53` keeps it exactly, with 53 significant bits:
the leading bit of `n` moves to bit 52. -/
theorem round_whole (s : Sign) {N n : Nat} {E : Int} (hN : 0 < N) (hval : (N : ℚ) * 2 ^ E = n)
    (hn : n < 2 ^ 53) :
    UnpackedFloat.round Format.binary64 s N E = wholeForm s n := by
  obtain ⟨hn0, hlog⟩ := log2_of_value hN hval
  have hk : n.log2 < 53 := (Nat.log2_lt (Nat.ne_of_gt hn0)).2 hn
  have hT : unitExponent N E = (n.log2 : Int) - 52 := by
    unfold unitExponent
    rw [targetExponent_binary64]
    unfold totalExponent
    omega
  -- the bits dropped lie below the unit of `n`, which is at least one
  have hdvd : 2 ^ (unitExponent N E - E).toNat ∣ N := by
    rw [hT]
    by_cases hE : E < (n.log2 : Int) - 52
    · have h := mul_two_pow_eq hval (a := 0) (b := (-E).toNat) (by omega)
      rw [Nat.pow_zero, Nat.mul_one] at h
      rw [h]
      exact Dvd.dvd.mul_left (Nat.pow_dvd_pow 2 (by omega)) n
    · rw [show ((n.log2 : Int) - 52 - E).toNat = 0 by omega]
      exact Nat.one_dvd N
  obtain ⟨h, heq⟩ := round_exact s hN hdvd
  have hmant : N * 2 ^ (E - unitExponent N E).toNat
      = n * 2 ^ (52 - n.log2) * 2 ^ (unitExponent N E - E).toNat := by
    rw [Nat.mul_assoc, ← Nat.pow_add, hT]
    exact mul_two_pow_eq hval (by omega)
  simp only [hmant] at h heq
  simp only [Nat.mul_div_cancel _ (Nat.two_pow_pos _), hT] at h heq
  rw [heq, wholeForm, dif_neg (by omega)]

/-- Scaling by a power of two commutes with taking magnitudes. -/
theorem natAbs_value {M Z E : Int} (hval : (M : ℚ) * 2 ^ E = Z) :
    ((M.natAbs : Nat) : ℚ) * 2 ^ E = (Z.natAbs : Nat) := by
  have hp : (0 : ℚ) < 2 ^ E := zpow_pos (by norm_num) E
  rw [Nat.cast_natAbs, Nat.cast_natAbs, Int.cast_abs, Int.cast_abs, ← hval, abs_mul, abs_of_pos hp]

/-- Normalizing a signed mantissa whose value is a whole number below `2^53` gives that
number's form; an exact zero is a positive zero. -/
theorem normalize_whole {M Z E : Int} (hval : (M : ℚ) * 2 ^ E = Z) (hZ : Z.natAbs < 2 ^ 53) :
    UnpackedFloat.normalize Format.binary64 M E .positive = wholeForm (signOf Z) Z.natAbs := by
  have hp : (0 : ℚ) < 2 ^ E := zpow_pos (by norm_num) E
  unfold UnpackedFloat.normalize
  rcases lt_trichotomy M 0 with hM | rfl | hM
  · -- a negative sum rounds its magnitude, signed negative
    have hZ0 : Z < 0 := by
      have : (Z : ℚ) < 0 := by rw [← hval]; exact mul_neg_of_neg_of_pos (by exact_mod_cast hM) hp
      exact_mod_cast this
    rw [Int.compare_eq_lt.mpr hM, show (-M).toNat = M.natAbs by omega,
      round_whole _ (by omega) (natAbs_value hval) hZ]
    simp only [signOf, hZ0, if_true]
  · -- an exact cancellation
    have hZ0 : Z = 0 := by
      have : (Z : ℚ) = 0 := by rw [← hval]; simp
      exact_mod_cast this
    subst hZ0
    rfl
  · have hZ0 : 0 < Z := by
      have : (0 : ℚ) < Z := by rw [← hval]; exact mul_pos (by exact_mod_cast hM) hp
      exact_mod_cast this
    rw [Int.compare_eq_gt.mpr hM, show M.toNat = M.natAbs by omega,
      round_whole _ (by omega) (natAbs_value hval) hZ]
    simp only [signOf, not_lt.mpr hZ0.le, if_false]

/-- Adding two finite doubles whose values are whole, with a sum below `2^53`, gives the form
of the exact sum. -/
theorem add_finite_whole {s₁ s₂ : Sign} {m₁ m₂ : Nat} {e₁ e₂ : Int} (h₁ : 0 < m₁) (h₂ : 0 < m₂)
    {X Y : Int} (hX : valueOf (.finite s₁ m₁ e₁ h₁) = X) (hY : valueOf (.finite s₂ m₂ e₂ h₂) = Y)
    (h : (X + Y).natAbs < 2 ^ 53) :
    UnpackedFloat.add Format.binary64 (.finite s₁ m₁ e₁ h₁) (.finite s₂ m₂ e₂ h₂)
      = wholeForm (signOf (X + Y)) (X + Y).natAbs := by
  simp only [UnpackedFloat.add, decreaseExponent, Nat.shiftLeft_eq]
  apply normalize_whole _ h
  -- both mantissas are moved to the lower exponent, where they add exactly
  simp only [valueOf_finite] at hX hY
  rw [Int.cast_add, add_mul, valueOf_align _ _ (min_le_left e₁ e₂),
    valueOf_align _ _ (min_le_right e₁ e₂), hX, hY]
  push_cast
  rfl

/-- Adding two doubles whose values are whole, with a sum below `2^53`, is exact: the sum is
canonical and its value is the sum of the values. -/
theorem add_whole {u v : UnpackedFloat} (hu : Canonical u) (hv : Canonical v) {X Y : Int}
    (hX : valueOf u = X) (hY : valueOf v = Y) (h : (X + Y).natAbs < 2 ^ 53) :
    Canonical (UnpackedFloat.add Format.binary64 u v) ∧
      valueOf (UnpackedFloat.add Format.binary64 u v) = X + Y := by
  have hsum : ∀ {s₁ s₂ : Sign} {m₁ m₂ : Nat} {e₁ e₂ : Int} (h₁ : 0 < m₁) (h₂ : 0 < m₂),
      valueOf (.finite s₁ m₁ e₁ h₁) = X → valueOf (.finite s₂ m₂ e₂ h₂) = Y →
      Canonical (UnpackedFloat.add Format.binary64 (.finite s₁ m₁ e₁ h₁) (.finite s₂ m₂ e₂ h₂)) ∧
        valueOf (UnpackedFloat.add Format.binary64 (.finite s₁ m₁ e₁ h₁) (.finite s₂ m₂ e₂ h₂))
          = X + Y := fun h₁ h₂ hX hY => by
    rw [add_finite_whole h₁ h₂ hX hY h, valueOf_wholeForm _ h, signOf_apply]
    exact ⟨canonical_wholeForm _ h, Int.cast_add X Y⟩
  cases hu with
  | zero s₁ =>
    -- a zero operand: the sum is the other operand, or a zero
    obtain rfl := eq_zero_of_valueOf_zero hX
    rw [Int.cast_zero, zero_add]
    cases hv with
    | zero s₂ =>
      obtain rfl := eq_zero_of_valueOf_zero hY
      simp only [UnpackedFloat.add]
      split
      · exact ⟨.zero _, by rw [valueOf_zero]; simp⟩
      · exact ⟨.zero _, by rw [valueOf_zero]; simp⟩
    | subnormal s₂ h₂ hm => exact ⟨.subnormal s₂ h₂ hm, hY⟩
    | normal s₂ h₂ hlo hhi helo hehi => exact ⟨.normal s₂ h₂ hlo hhi helo hehi, hY⟩
  | subnormal s₁ h₁ hm =>
    cases hv with
    | zero s₂ =>
      obtain rfl := eq_zero_of_valueOf_zero hY
      rw [Int.cast_zero, add_zero]
      exact ⟨.subnormal s₁ h₁ hm, hX⟩
    | subnormal s₂ h₂ _ => exact hsum h₁ h₂ hX hY
    | normal s₂ h₂ _ _ _ _ => exact hsum h₁ h₂ hX hY
  | normal s₁ h₁ hlo hhi helo hehi =>
    cases hv with
    | zero s₂ =>
      obtain rfl := eq_zero_of_valueOf_zero hY
      rw [Int.cast_zero, add_zero]
      exact ⟨.normal s₁ h₁ hlo hhi helo hehi, hX⟩
    | subnormal s₂ h₂ _ => exact hsum h₁ h₂ hX hY
    | normal s₂ h₂ _ _ _ _ => exact hsum h₁ h₂ hX hY

/-! ## Doubles that hold whole numbers -/

/-- A double holds the whole number `X`: it is finite and its value is exactly `X`. -/
def HoldsWhole (x : Float) (X : Int) : Prop :=
  x.toModel.unpack.isFinite = true ∧ valueOf x.toModel.unpack = X

/-- IEEE addition of two doubles that hold whole numbers is exact when the sum is below `2^53`. -/
theorem holdsWhole_add {x y : Float} {X Y : Int} (hx : HoldsWhole x X) (hy : HoldsWhole y Y)
    (h : (X + Y).natAbs < 2 ^ 53) : HoldsWhole (x + y) (X + Y) := by
  obtain ⟨hc, hv⟩ := add_whole (canonical_toModel x hx.1) (canonical_toModel y hy.1) hx.2 hy.2 h
  have hu : (x + y).toModel.unpack
      = UnpackedFloat.add Format.binary64 x.toModel.unpack y.toModel.unpack := unpack_pack hc
  rw [HoldsWhole, hu, hv]
  exact ⟨hc.isFinite, by push_cast; rfl⟩

/-- Negating a double negates the whole number it holds. -/
theorem holdsWhole_neg {x : Float} {X : Int} (hx : HoldsWhole x X) : HoldsWhole (-x) (-X) := by
  have hc := canonical_toModel x hx.1
  have hu : (-x).toModel.unpack = x.toModel.unpack.neg := unpack_pack hc.neg
  rw [HoldsWhole, hu, valueOf_neg, hx.2]
  exact ⟨hc.neg.isFinite, by push_cast; rfl⟩

/-- A double read from its fields holds the number they describe. -/
theorem holdsWhole_of_parts {x : Float} {X : Int} (hf : (parts x).isFinite = true)
    (hv : valueOf (parts x).unpacked = X) : HoldsWhole x X := by
  unfold HoldsWhole
  rw [isFinite_toModel_unpack, toModel_unpack x hf]
  exact ⟨hf, hv⟩

/-- A double holds a whole number exactly when it is integral, and that number is its integer
part. -/
theorem holdsWhole_iff (x : Float) (X : Int) :
    HoldsWhole x X ↔ isIntegral x = true ∧ truncate? x = some X := by
  have hd := Parts.ratio_den_pos (parts x)
  unfold HoldsWhole isIntegral truncate?
  rw [isFinite_toModel_unpack]
  by_cases hf : (parts x).isFinite = true
  · rw [toModel_unpack x hf, valueOf_unpacked]
    simp only [hf, Bool.true_and, if_true, beq_iff_eq, Option.some.injEq, true_and]
    generalize (parts x).ratio = q at hd ⊢
    obtain ⟨num, den⟩ := q
    dsimp only at hd ⊢
    have hdq : (den : ℚ) ≠ 0 := by exact_mod_cast hd.ne'
    rw [div_eq_iff hdq]
    constructor
    · intro h
      have h' : num = X * den := by exact_mod_cast h
      subst h'
      exact ⟨Int.mul_emod_left _ _, Int.mul_tdiv_cancel _ (by exact_mod_cast hd.ne')⟩
    · rintro ⟨hmod, htdiv⟩
      obtain ⟨q, rfl⟩ := Int.dvd_of_emod_eq_zero hmod
      rw [Int.mul_tdiv_cancel_left _ (by exact_mod_cast hd.ne')] at htdiv
      subst htdiv
      push_cast
      ring
  · simp [hf]

/-- The double nearest a positive whole number below `2^53` is that number: the fields of
`wholeForm`. -/
theorem ofRatio_whole (neg : Bool) {k : Nat} (hk : k ≠ 0) (h : k < 2 ^ 53) :
    ofRatio neg k 1 = ofParts neg (k.log2 + 1023) (k * 2 ^ (52 - k.log2) - 2 ^ 52) := by
  have hlog : k.log2 < 53 := (Nat.log2_lt hk).2 h
  obtain ⟨hlo, hhi⟩ := wholeMantissa_bounds hk h
  unfold ofRatio
  rw [if_neg hk, log2Ratio_one (Nat.pos_of_ne_zero hk)]
  have hs : max (k.log2 : Int) (-1022) - 52 = (k.log2 : Int) - 52 := by omega
  have h1 : (-((k.log2 : Int) - 52)).toNat = 52 - k.log2 := by omega
  have h2 : ((k.log2 : Int) - 52).toNat = 0 := by omega
  have hq : k * 2 ^ (52 - k.log2) ≠ 2 ^ 53 := by omega
  simp only [hs, h1, h2, Nat.pow_eq, Nat.pow_zero, Nat.mul_one, roundHalfEven_one, hq, if_false]
  rw [if_neg (by omega), if_neg (by omega)]
  congr 1
  omega

/-- An integer below `2^53` in magnitude is held exactly by the double it is read as. -/
theorem holdsWhole_ofInt {n : Int} (h : n.natAbs < 2 ^ 53) : HoldsWhole (ofInt n) n := by
  unfold ofInt
  by_cases hk : n.natAbs = 0
  · have hn : n = 0 := Int.natAbs_eq_zero.1 hk
    subst hn
    rw [hk, ofRatio, if_pos rfl]
    apply holdsWhole_of_parts
    · rw [parts_ofParts (by decide) (by decide)]
      rfl
    · rw [parts_ofParts (by decide) (by decide)]
      rfl
  · have hlog : n.natAbs.log2 < 53 := (Nat.log2_lt hk).2 h
    obtain ⟨hlo, hhi⟩ := wholeMantissa_bounds hk h
    have he : n.natAbs.log2 + 1023 < 2047 := by omega
    have hf : n.natAbs * 2 ^ (52 - n.natAbs.log2) - 2 ^ 52 < 2 ^ 52 := by omega
    rw [ofRatio_whole _ hk h]
    apply holdsWhole_of_parts
    · rw [parts_ofParts he hf]
      simp [Parts.isFinite]
      omega
    · -- the fields are those of the whole form of `n`
      have hu : (parts (ofParts (decide (n < 0)) (n.natAbs.log2 + 1023)
          (n.natAbs * 2 ^ (52 - n.natAbs.log2) - 2 ^ 52))).unpacked = wholeForm (signOf n) n.natAbs := by
        rw [parts_ofParts he hf]
        unfold Parts.unpacked wholeForm
        rw [dif_neg (by simp [Parts.significand]), dif_neg hk]
        simp only [finite.injEq, Parts.sign, Parts.significand, Parts.scale, signOf_eq]
        refine ⟨trivial, by simp; omega, by simp; omega⟩
      rw [hu, valueOf_wholeForm _ h, signOf_apply]

/-- A double that holds a whole number is not NaN. -/
theorem isNaN_of_holdsWhole {x : Float} {X : Int} (hx : HoldsWhole x X) : x.isNaN = false := by
  have hc := canonical_toModel x hx.1
  show x.toModel.unpack.isNaN = false
  generalize x.toModel.unpack = u at hc
  cases hc <;> rfl

/-- `2^53`, the bound under which whole doubles are written as integers. -/
theorem toModel_unpack_two_pow_53 :
    (9007199254740992 : Float).toModel.unpack = .finite .positive (2 ^ 52) 1 (by decide) := rfl

/-- The magnitude of a finite form. -/
theorem abs_valueOf_finite (s : Sign) {m : Nat} (e : Int) (h : 0 < m) :
    |valueOf (.finite s m e h)| = (m : ℚ) * 2 ^ e := by
  have hp : (0 : ℚ) ≤ (m : ℚ) * 2 ^ e := by positivity
  cases s <;> simp [valueOf_finite, Sign.apply, abs_of_nonneg hp]

/-- A canonical form holding a number below `2^53` in magnitude has an exponent of at most
zero: 53 bits at a higher exponent reach `2^53`. -/
theorem exponent_nonpos {s : Sign} {m : Nat} {e : Int} {h : 0 < m} (hc : Canonical (.finite s m e h))
    (hv : |valueOf (.finite s m e h)| < 2 ^ 53) : e ≤ 0 := by
  cases hc with
  | subnormal => omega
  | normal _ _ hlo =>
    by_contra he
    have h2e : (2 : ℚ) ≤ 2 ^ e := by
      calc (2 : ℚ) = 2 ^ (1 : Int) := by norm_num
        _ ≤ 2 ^ e := zpow_le_zpow_right₀ (by norm_num) (by omega)
    have hm : (2 ^ 52 : ℚ) ≤ m := by exact_mod_cast hlo
    have : (2 : ℚ) ^ 53 ≤ (m : ℚ) * 2 ^ e := by
      calc (2 : ℚ) ^ 53 = 2 ^ 52 * 2 := by norm_num
        _ ≤ (m : ℚ) * 2 ^ e := mul_le_mul hm h2e (by norm_num) (by positivity)
    rw [abs_valueOf_finite] at hv
    linarith

theorem abs_lt_two_pow_53 {x : Float} {X : Int} (hx : HoldsWhole x X) (h : X.natAbs < 2 ^ 53) :
    x.abs < 9007199254740992 := by
  have hc := canonical_toModel x hx.1
  have hu : x.abs.toModel.unpack = x.toModel.unpack.abs := unpack_pack hc.abs
  have hX : |(X : ℚ)| < 2 ^ 53 := by
    rw [← Int.cast_abs, Int.abs_eq_natAbs]
    exact_mod_cast h
  show Float.lt x.abs 9007199254740992 = true
  simp only [Float.lt, decide_eq_true_eq]
  show x.abs.toModel.unpack.lt (9007199254740992 : Float).toModel.unpack = true
  rw [hu, toModel_unpack_two_pow_53]
  have hv := hx.2
  generalize x.toModel.unpack = u at hc hv
  cases hc with
  | zero s => rfl
  | subnormal s h hm => rfl
  | @normal s m e h hlo hhi helo hehi =>
    have he := exponent_nonpos (.normal s h hlo hhi helo hehi) (by rw [hv]; exact hX)
    simp only [UnpackedFloat.abs, UnpackedFloat.lt, UnpackedFloat.compare,
      Int.compare_eq_lt.mpr (by omega : e < 1)]
    rfl

end Binary64

namespace Loose

open Binary64

/-- A double holding a whole number below `2^53` is written as that integer. -/
theorem numberValue_of_holdsWhole {x : Float} {X : Int} (hx : HoldsWhole x X)
    (h : X.natAbs < 2 ^ 53) : numberValue x = some (.int X) := by
  have hfin : x.isFinite = true := hx.1
  obtain ⟨hint, htr⟩ := (holdsWhole_iff x X).1 hx
  have hlt := abs_lt_two_pow_53 hx h
  have hclamp : clampInt64 X = X := by
    unfold clampInt64
    simp only [Nat.pow_eq]
    omega
  simp [numberValue, hfin, hint, hlt, toInt64Clamped, htr, hclamp]

/-- A value whose number holds a whole number reads as that number, NaN playing no part. -/
theorem toNumberOrZero_of_holdsWhole {v : Option Json} {X : Int} (h : HoldsWhole (toNumber v) X) :
    toNumberOrZero v = toNumber v := by
  unfold toNumberOrZero
  dsimp only
  rw [isNaN_of_holdsWhole h]
  rfl

end Loose

end Storyboard
