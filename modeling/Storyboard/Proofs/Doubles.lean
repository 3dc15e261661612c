import Mathlib
import Storyboard.Project.Read

/-!
# Whole numbers through doubles

The duration of a toast is read as a double, rounded half away from zero and clamped into
64 bits (`Read.lenientDuration`); it is written back as an integer. For the written value to
read back as itself, every duration the reader can produce must be a whole number that the
conversion to a double keeps exactly, or the clamp's top value, which rounds up to `2^64`
and is clamped back.

The proofs read the fields of a double off its bits through the unpacked form the core
library gives floats (`UnpackedFloat.unpack`), and compute `ofRatio` on whole numbers, where
dividing by one leaves only the rounding of the significand.

Main statements:
* `Binary64.parts_ofParts`: a double built from fields of a finite number has those fields.
* `Binary64.isFinite_ofInt`: an integer of at most 64 bits is a finite double.
* `Binary64.roundToUInt64Clamped_ofInt`: a whole double below `2^64` rounds and clamps to
  itself.
* `Binary64.roundToUInt64Clamped_cases`: rounding and clamping any double gives a whole double
  below `2^64` or the top value.
* `Read.lenientDuration_roundToUInt64Clamped`: every duration the reader produces, written as
  an integer, reads back as itself.
-/

namespace Storyboard

namespace Binary64

open Float.Model

/-! ## Fields and bits -/

/-- The fraction field of a double's bits. -/
theorem unpackMantissa_toNat (b : BitVec 64) :
    (@UnpackedFloat.unpackMantissa Format.binary64 b).toNat = b.toNat % 2^52 := by
  simp [UnpackedFloat.unpackMantissa]

/-- The exponent field of a double's bits. -/
theorem unpackExponent_toNat (b : BitVec 64) :
    (@UnpackedFloat.unpackExponent Format.binary64 b).toNat = b.toNat / 2^52 % 2^11 := by
  simp [UnpackedFloat.unpackExponent, Nat.shiftRight_eq_div_pow]

/-- The sign bit of a double's bits. -/
theorem unpackSign_toNat (b : BitVec 64) :
    (@UnpackedFloat.unpackSign Format.binary64 b).toNat = b.toNat / 2^63 := by
  have := b.isLt
  simp [UnpackedFloat.unpackSign, Nat.shiftRight_eq_div_pow]
  omega

theorem packComponents_toNat (s : UnpackedFloat.Sign) (e : BitVec 11) (m : BitVec 52) :
    (UnpackedFloat.packComponents Format.binary64 s e m).toNat
      = (s.toBitVec.toNat * 2^11 + e.toNat) * 2^52 + m.toNat := by
  have he := e.isLt
  have hm := m.isLt
  simp only [UnpackedFloat.packComponents, BitVec.toNat_append]
  rw [← Nat.shiftLeft_add_eq_or_of_lt hm, ← Nat.shiftLeft_add_eq_or_of_lt he]
  simp [Nat.shiftLeft_eq]

theorem toNat_sign_toBitVec_ofBitVec (v : BitVec 1) :
    (UnpackedFloat.Sign.ofBitVec v).toBitVec.toNat = v.toNat := by
  have := v.isLt
  unfold UnpackedFloat.Sign.ofBitVec
  split
  · next h => rw [h]; rfl
  · next h =>
    have h1 : v.toNat ≠ 0 := fun h' => h (BitVec.eq_of_toNat_eq h')
    show 1 = v.toNat
    omega

theorem bits_split (n : Nat) (h : n < 2^64) :
    n = ((n / 2^63) * 2^11 + n / 2^52 % 2^11) * 2^52 + n % 2^52 := by
  omega

/-- Unpacking the bits of a finite double and packing them again gives the bits back. -/
theorem pack_unpack_of_exponent_ne (b : BitVec 64) (hb : b.toNat / 2^52 % 2^11 ≠ 2047) :
    UnpackedFloat.pack Format.binary64 (UnpackedFloat.unpack Format.binary64 b) = b := by
  have hmant := unpackMantissa_toNat b
  have hexp := unpackExponent_toNat b
  have hsign := unpackSign_toNat b
  have hlt := b.isLt
  have hsplit := bits_split b.toNat hlt
  unfold UnpackedFloat.unpack
  dsimp only
  split
  · next h =>
    exact absurd (by rw [← hexp, h]; rfl) hb
  · split
    · next h0 =>
      have he0 : b.toNat / 2^52 % 2^11 = 0 := by rw [← hexp, h0]; rfl
      split
      · next hm0 =>
        have hm0' : b.toNat % 2^52 = 0 := by rw [← hmant, hm0]; rfl
        apply BitVec.eq_of_toNat_eq
        simp only [UnpackedFloat.pack, UnpackedFloat.packedZero, packComponents_toNat,
          toNat_sign_toBitVec_ofBitVec, hsign]
        simp
        omega
      · next hm0 =>
        -- a subnormal double: exponent field zero, the significand is the fraction
        have hpos : b.toNat % 2^52 ≠ 0 := fun h => hm0 (BitVec.eq_of_toNat_eq (by rw [hmant, h]; rfl))
        have hlog : (b.toNat % 2^52).log2 < 52 := (Nat.log2_lt hpos).2 (Nat.mod_lt _ (by decide))
        apply BitVec.eq_of_toNat_eq
        simp only [UnpackedFloat.pack, hmant, hexp, he0, Format.exponentBias, Format.mantissaBits]
        norm_num
        have hlog' : (b.toNat % 4503599627370496).log2 + 1 ≠ 53 := by
          norm_num at hlog
          omega
        rw [if_neg hlog', packComponents_toNat, toNat_sign_toBitVec_ofBitVec, hsign, BitVec.toNat_ofNat]
        simp
        omega
    · next hne h0 =>
      -- a normal double: the significand has its leading bit back
      have hne0 : b.toNat / 2^52 % 2^11 ≠ 0 := fun h => h0 (BitVec.eq_of_toNat_eq (by rw [hexp, h]; rfl))
      have happ : (1#1 ++ @UnpackedFloat.unpackMantissa Format.binary64 b).toNat
          = 2^52 + b.toNat % 2^52 := by
        rw [BitVec.toNat_append, hmant, ← Nat.shiftLeft_add_eq_or_of_lt (Nat.mod_lt _ (by decide))]
        simp [Nat.shiftLeft_eq]
      have hlog : (2^52 + b.toNat % 2^52).log2 = 52 := by
        rw [Nat.log2_eq_iff (by omega)]
        constructor <;> omega
      apply BitVec.eq_of_toNat_eq
      simp only [UnpackedFloat.pack, happ, hlog, hexp, Format.exponentBias, Format.mantissaBits]
      norm_num
      have hbias : ((b.toNat : Int) / 4503599627370496 % 2048 - 1075 + 1023 + 52).toNat
          = b.toNat / 2^52 % 2^11 := by
        omega
      rw [hbias, if_neg (by omega), packComponents_toNat, toNat_sign_toBitVec_ofBitVec, hsign,
        BitVec.toNat_ofNat, BitVec.toNat_ofNat]
      omega

/-- The bits of a finite double are the bits it was made from. -/
theorem toBits_ofBits {u : UInt64} (hu : u.toNat / 2^52 % 2^11 ≠ 2047) :
    (Float.ofBits u).toBits = u := by
  show UInt64.ofBitVec (UnpackedFloat.pack Format.binary64
    (UnpackedFloat.unpack Format.binary64 u.toBitVec)) = u
  rw [pack_unpack_of_exponent_ne u.toBitVec hu]

/-- The bits of a double with the given fields. -/
theorem toNat_ofParts_bits {neg : Bool} {e f : Nat} (he : e < 2047) (hf : f < 2^52) :
    (UInt64.ofNat ((if neg then Nat.pow 2 63 else 0) + e * Nat.pow 2 52 + f)).toNat
      = (if neg then 2^63 else 0) + e * 2^52 + f := by
  rw [UInt64.toNat_ofNat', Nat.pow_eq, Nat.pow_eq]
  apply Nat.mod_eq_of_lt
  split <;> omega

/-- The bits of a double built from fields that describe a finite number are those fields. -/
theorem toBits_ofParts {neg : Bool} {e f : Nat} (he : e < 2047) (hf : f < 2^52) :
    (ofParts neg e f).toBits.toNat = (if neg then 2^63 else 0) + e * 2^52 + f := by
  have hbits := @toNat_ofParts_bits neg e f he hf
  rw [ofParts, toBits_ofBits (by rw [hbits]; split <;> omega), hbits]

/-- A double built from the fields of a finite number has those fields. -/
theorem parts_ofParts {neg : Bool} {e f : Nat} (he : e < 2047) (hf : f < 2^52) :
    parts (ofParts neg e f) = ⟨neg, e, f⟩ := by
  simp only [parts, toBits_ofParts he hf, Nat.pow_eq]
  cases neg <;> simp <;> omega

theorem unpack_isFinite (b : BitVec 64) (hb : b.toNat / 2^52 % 2^11 ≠ 2047) :
    (UnpackedFloat.unpack Format.binary64 b).isFinite = true := by
  have hexp := unpackExponent_toNat b
  unfold UnpackedFloat.unpack
  dsimp only
  split
  · next h => exact absurd (by rw [← hexp, h]; rfl) hb
  · split
    · split <;> rfl
    · rfl

theorem unpack_sign (b : BitVec 64) (hs : b.toNat < 2^63) :
    UnpackedFloat.Sign.ofBitVec (@UnpackedFloat.unpackSign Format.binary64 b) = .positive := by
  have h := unpackSign_toNat b
  have h0 : @UnpackedFloat.unpackSign Format.binary64 b = 0#1 :=
    BitVec.eq_of_toNat_eq (by rw [h]; simp; omega)
  rw [h0]
  rfl

theorem zero_le_unpack (b : BitVec 64) (hb : b.toNat / 2^52 % 2^11 ≠ 2047)
    (hs : b.toNat < 2^63) :
    (UnpackedFloat.zero .positive).le (UnpackedFloat.unpack Format.binary64 b) = true := by
  have hexp := unpackExponent_toNat b
  unfold UnpackedFloat.unpack
  dsimp only
  rw [unpack_sign b hs]
  split
  · next h => exact absurd (by rw [← hexp, h]; rfl) hb
  · split
    · split <;> rfl
    · rfl

/-- A double built from fields whose exponent is not all ones is finite. -/
theorem isFinite_ofParts {neg : Bool} {e f : Nat} (he : e < 2047) (hf : f < 2^52) :
    (ofParts neg e f).isFinite = true := by
  have hb := @toBits_ofParts neg e f he hf
  show (UnpackedFloat.unpack Format.binary64 (ofParts neg e f).toBits.toBitVec).isFinite = true
  apply unpack_isFinite
  rw [UInt64.toNat_toBitVec, hb]
  split <;> omega

/-- A double built with a clear sign bit is at least zero. -/
theorem zero_le_ofParts {e f : Nat} (he : e < 2047) (hf : f < 2^52) :
    (0 : Float) ≤ ofParts false e f := by
  have hb := @toBits_ofParts false e f he hf
  have h0 : (0 : Float).toModel.unpack = .zero .positive := by rfl
  show Float.le 0 (ofParts false e f) = true
  simp only [Float.le, decide_eq_true_eq]
  show (Float.toModel 0).unpack.le (UnpackedFloat.unpack Format.binary64
    (ofParts false e f).toBits.toBitVec) = true
  rw [h0]
  apply zero_le_unpack <;> rw [UInt64.toNat_toBitVec, hb] <;> simp <;> omega

/-! ## Whole numbers -/

theorem log2Ratio_one {n : Nat} (hn : 0 < n) : log2Ratio n 1 = (Nat.log2 n : Int) := by
  have hle : 2 ^ n.log2 ≤ n := Nat.log2_self_le (by omega)
  have h1 : Nat.log2 1 = 0 := by decide
  simp only [log2Ratio, cmpPow2, h1, Nat.cast_zero, sub_zero, zero_sub, Int.toNat_neg_natCast,
    Int.toNat_natCast, Nat.pow_eq, Nat.pow_zero, Nat.mul_one, Nat.one_mul]
  rw [if_neg]
  rw [Nat.compare_eq_lt]
  omega

theorem roundHalfEven_one (n : Nat) : roundHalfEven n 1 = n := by
  simp [roundHalfEven, Nat.mod_one]

theorem roundHalfEven_of_dvd {n d : Nat} (hd : 0 < d) (h : d ∣ n) :
    roundHalfEven n d = n / d := by
  simp [roundHalfEven, Nat.mod_eq_zero_of_dvd h, hd]

theorem roundHalfEven_bounds (n d : Nat) :
    n / d ≤ roundHalfEven n d ∧ roundHalfEven n d ≤ n / d + 1 := by
  unfold roundHalfEven
  dsimp only
  split
  · omega
  · split
    · omega
    · split <;> omega

/-- The significand `ofRatio` rounds a positive whole number to, before it renormalises,
lies between `2^52` and `2^53`. -/
theorem roundedSignificand_bounds {n : Nat} (hn : 0 < n) :
    2^52 ≤ roundHalfEven (n * Nat.pow 2 (-((n.log2 : Int) - 52)).toNat)
        (1 * Nat.pow 2 ((n.log2 : Int) - 52).toNat) ∧
      roundHalfEven (n * Nat.pow 2 (-((n.log2 : Int) - 52)).toNat)
        (1 * Nat.pow 2 ((n.log2 : Int) - 52).toNat) ≤ 2^53 := by
  have hlo : 2 ^ n.log2 ≤ n := Nat.log2_self_le (by omega)
  have hhi : n < 2 ^ (n.log2 + 1) := Nat.lt_log2_self
  simp only [Nat.pow_eq, Nat.one_mul]
  by_cases hk : 52 ≤ n.log2
  · -- the number is wider than a significand: it is divided by `2^(k-52)` and rounded
    have h1 : (-((n.log2 : Int) - 52)).toNat = 0 := by omega
    have h2 : ((n.log2 : Int) - 52).toNat = n.log2 - 52 := by omega
    rw [h1, h2, Nat.pow_zero, Nat.mul_one]
    have hsplit : 2 ^ n.log2 = 2^52 * 2 ^ (n.log2 - 52) := by
      rw [← Nat.pow_add]; congr 1; omega
    have hsplit' : 2 ^ (n.log2 + 1) = 2^53 * 2 ^ (n.log2 - 52) := by
      rw [← Nat.pow_add]; congr 1; omega
    have hpos : 0 < 2 ^ (n.log2 - 52) := Nat.two_pow_pos _
    have hdlo : 2^52 ≤ n / 2 ^ (n.log2 - 52) := (Nat.le_div_iff_mul_le hpos).2 (by rw [← hsplit]; exact hlo)
    have hdhi : n / 2 ^ (n.log2 - 52) < 2^53 := (Nat.div_lt_iff_lt_mul hpos).2 (by rw [← hsplit']; exact hhi)
    have := roundHalfEven_bounds n (2 ^ (n.log2 - 52))
    omega
  · -- the number is narrower: it is shifted up to 53 bits, exactly
    have h1 : (-((n.log2 : Int) - 52)).toNat = 52 - n.log2 := by omega
    have h2 : ((n.log2 : Int) - 52).toNat = 0 := by omega
    rw [h1, h2, Nat.pow_zero, roundHalfEven_one]
    have hsplit : 2^52 = 2 ^ n.log2 * 2 ^ (52 - n.log2) := by
      rw [← Nat.pow_add]; congr 1; omega
    have hsplit' : 2^53 = 2 ^ (n.log2 + 1) * 2 ^ (52 - n.log2) := by
      rw [← Nat.pow_add]; congr 1; omega
    constructor
    · rw [hsplit]; exact Nat.mul_le_mul_right _ hlo
    · rw [hsplit']; exact Nat.mul_le_mul_right _ hhi.le

/-- A positive whole number below `2^64` rounds to a finite double: its biased exponent is
below the all-ones field. -/
theorem ofRatio_one_eq (neg : Bool) {n : Nat} (hn : 0 < n) (h64 : n < 2^64) :
    ∃ e f, e < 2047 ∧ f < 2^52 ∧ ofRatio neg n 1 = ofParts neg e f := by
  have hk : n.log2 < 64 := (Nat.log2_lt (by omega)).2 h64
  obtain ⟨hqlo, hqhi⟩ := roundedSignificand_bounds hn
  unfold ofRatio
  rw [if_neg (by omega), log2Ratio_one hn]
  have hs : max (n.log2 : Int) (-1022) - 52 = (n.log2 : Int) - 52 := by omega
  simp only [hs, Nat.pow_eq]
  generalize roundHalfEven (n * 2 ^ (-((n.log2 : Int) - 52)).toNat)
    (1 * 2 ^ ((n.log2 : Int) - 52).toNat) = q at hqlo hqhi ⊢
  by_cases h53 : q = 2^53
  · -- a significand rounded up to `2^53` moves to the next exponent
    simp only [h53, if_true]
    rw [if_neg (by omega), if_neg (by omega)]
    exact ⟨_, _, by omega, by omega, rfl⟩
  · simp only [h53, if_false]
    rw [if_neg (by omega), if_neg (by omega)]
    exact ⟨_, _, by omega, by omega, rfl⟩

/-- A natural is a double when it is a significand of at most 53 bits times a power of
two. -/
def IsDouble (n : Nat) : Prop := ∃ m x, m < 2^53 ∧ n = m * 2^x

/-- A double that is a positive whole number is rounded to itself: the significand `ofRatio`
computes for it is exact. -/
theorem roundedSignificand_exact {n : Nat} (hn : 0 < n) (hd : IsDouble n) :
    roundHalfEven (n * 2 ^ (-((n.log2 : Int) - 52)).toNat) (1 * 2 ^ ((n.log2 : Int) - 52).toNat)
        * 2 ^ ((n.log2 : Int) - 52).toNat = n * 2 ^ (-((n.log2 : Int) - 52)).toNat := by
  obtain ⟨m, x, hm, rfl⟩ := hd
  by_cases hk : 52 ≤ (m * 2^x).log2
  · have h1 : (-(((m * 2^x).log2 : Int) - 52)).toNat = 0 := by omega
    have h2 : (((m * 2^x).log2 : Int) - 52).toNat = (m * 2^x).log2 - 52 := by omega
    rw [h1, h2, Nat.pow_zero, Nat.mul_one, Nat.one_mul]
    -- the low `k - 52` bits of the number are zero, so the division is exact
    have hdvd : 2 ^ ((m * 2^x).log2 - 52) ∣ m * 2^x := by
      by_cases hx : (m * 2^x).log2 - 52 ≤ x
      · exact Dvd.dvd.mul_left (Nat.pow_dvd_pow 2 hx) m
      · exfalso
        have hlo : 2 ^ (m * 2^x).log2 ≤ m * 2^x := Nat.log2_self_le (by omega)
        have : m * 2^x < 2^(x + 53) := by
          rw [Nat.pow_add, Nat.mul_comm (2^x)]
          exact Nat.mul_lt_mul_of_pos_right hm (Nat.two_pow_pos x)
        have : 2^(x + 53) ≤ 2 ^ (m * 2^x).log2 := Nat.pow_le_pow_right (by decide) (by omega)
        omega
    rw [roundHalfEven_of_dvd (Nat.two_pow_pos _) hdvd]
    exact Nat.div_mul_cancel hdvd
  · have h2 : (((m * 2^x).log2 : Int) - 52).toNat = 0 := by omega
    rw [h2, Nat.pow_zero, Nat.mul_one, Nat.mul_one, roundHalfEven_one]

/-- A normal double whose value is the natural `n` rounds to `n`. -/
theorem roundHalfAway?_ofParts {e f n : Nat} (he0 : 0 < e) (he : e < 2047) (hf : f < 2^52)
    (hexact : (f + 2^52) * 2 ^ ((e : Int) - 1075).toNat = n * 2 ^ (-((e : Int) - 1075)).toNat) :
    roundHalfAway? (ofParts false e f) = some (n : Int) := by
  have he0' : e ≠ 0 := by omega
  have hfin : (e != 2 ^ 11 - 1) = true := by simp; omega
  unfold roundHalfAway?
  rw [parts_ofParts he hf]
  simp only [Parts.isFinite, Parts.ratio, Parts.significand, Parts.scale, Nat.pow_eq, he0',
    if_false, Bool.false_eq_true, hfin, if_true]
  by_cases hs : 0 ≤ (e : Int) - 1075
  · have h0 : (-((e : Int) - 1075)).toNat = 0 := by omega
    rw [h0, Nat.pow_zero, Nat.mul_one] at hexact
    simp only [hs, if_true]
    have hnum : ((f + 2^52 : Nat) : Int) * ((2 ^ ((e : Int) - 1075).toNat : Nat) : Int) = n := by
      rw [← hexact, Nat.cast_mul]
    rw [hnum, if_neg (by omega), Int.natAbs_natCast]
    congr 2
    omega
  · -- below one: the significand is the number shifted up, over the power of two
    have h0 : ((e : Int) - 1075).toNat = 0 := by omega
    rw [h0, Nat.pow_zero, Nat.mul_one] at hexact
    simp only [hs, if_false]
    have hnum : ((f + 2^52 : Nat) : Int) = ((n * 2 ^ (-((e : Int) - 1075)).toNat : Nat) : Int) := by
      rw [hexact]
    rw [hnum, if_neg (by omega), Int.natAbs_natCast]
    congr 2
    have hpos : 0 < 2 ^ (-((e : Int) - 1075)).toNat := Nat.two_pow_pos _
    rw [Nat.mul_comm 2 (n * _), Nat.mul_assoc, Nat.mul_comm _ 2, ← Nat.add_comm,
      Nat.add_mul_div_right _ _ (by omega), Nat.div_eq_of_lt (by omega), Nat.zero_add]
/-- A positive whole number that is a double rounds to itself, and reads back as itself. -/
theorem roundHalfAway?_ofRatio_one {n : Nat} (hn : 0 < n) (h64 : n < 2^64) (hd : IsDouble n) :
    roundHalfAway? (ofRatio false n 1) = some (n : Int) := by
  have hk : n.log2 < 64 := (Nat.log2_lt (by omega)).2 h64
  have hhi : n < 2 ^ (n.log2 + 1) := Nat.lt_log2_self
  obtain ⟨hqlo, hqhi⟩ := roundedSignificand_bounds hn
  have hexact := roundedSignificand_exact hn hd
  unfold ofRatio
  rw [if_neg (by omega), log2Ratio_one hn]
  have hs : max (n.log2 : Int) (-1022) - 52 = (n.log2 : Int) - 52 := by omega
  simp only [hs, Nat.pow_eq]
  generalize roundHalfEven (n * 2 ^ (-((n.log2 : Int) - 52)).toNat)
    (1 * 2 ^ ((n.log2 : Int) - 52).toNat) = q at hqlo hqhi hexact ⊢
  -- an exact significand stays below `2^53`
  have h53 : q ≠ 2^53 := by
    intro h
    subst h
    by_cases hk52 : 52 ≤ n.log2
    · have h1 : (-((n.log2 : Int) - 52)).toNat = 0 := by omega
      have h2 : ((n.log2 : Int) - 52).toNat = n.log2 - 52 := by omega
      rw [h1, h2, Nat.pow_zero, Nat.mul_one] at hexact
      have : 2 ^ (n.log2 + 1) = 2^53 * 2 ^ (n.log2 - 52) := by
        rw [← Nat.pow_add]; congr 1; omega
      omega
    · have h1 : (-((n.log2 : Int) - 52)).toNat = 52 - n.log2 := by omega
      have h2 : ((n.log2 : Int) - 52).toNat = 0 := by omega
      rw [h1, h2, Nat.pow_zero, Nat.mul_one] at hexact
      have : 2^53 = 2 ^ (n.log2 + 1) * 2 ^ (52 - n.log2) := by
        rw [← Nat.pow_add]; congr 1; omega
      have := Nat.mul_lt_mul_of_pos_right hhi (Nat.two_pow_pos (52 - n.log2))
      omega
  simp only [h53, if_false]
  rw [if_neg (by omega), if_neg (by omega)]
  apply roundHalfAway?_ofParts (by omega) (by omega) (by omega)
  have he : (((n.log2 : Int) - 52 + 1075).toNat : Int) - 1075 = (n.log2 : Int) - 52 := by omega
  rw [he, Nat.sub_add_cancel hqlo]
  exact hexact
theorem ofInt_natCast (n : Nat) : ofInt n = ofRatio false n 1 := by
  have h : ¬ (n : Int) < 0 := by omega
  simp [ofInt, h]

theorem roundHalfAway?_zero : roundHalfAway? (ofParts false 0 0) = some 0 := by
  unfold roundHalfAway?
  rw [parts_ofParts (by decide) (by decide)]
  have hfin : (0 != Nat.pow 2 11 - 1) = true := by decide
  have hneg : ¬ (0 : Int) ≤ -1074 := by decide
  simp only [Parts.isFinite, Parts.ratio, Parts.significand, Parts.scale, if_true, hfin, hneg,
    if_false, Bool.false_eq_true, Nat.pow_eq]
  -- the value is `0 / 2^1074`, which rounds to zero
  have hd : 0 < 2 ^ (- -1074 : Int).toNat := Nat.two_pow_pos _
  generalize 2 ^ (- -1074 : Int).toNat = d at hd ⊢
  have hq : d / (2 * d) = 0 := Nat.div_eq_of_lt (by omega)
  simp only [Nat.cast_zero, Int.natAbs_zero, Nat.mul_zero, Nat.zero_add, hq, lt_irrefl, if_false]

/-- A whole double below `2^64` rounds and clamps back to itself. -/
theorem roundToUInt64Clamped_ofInt {n : Nat} (h64 : n < 2^64) (hd : IsDouble n) :
    roundToUInt64Clamped (ofInt n) = n := by
  have hr : roundHalfAway? (ofInt n) = some (n : Int) := by
    rw [ofInt_natCast]
    rcases Nat.eq_zero_or_pos n with rfl | hn
    · rw [ofRatio, if_pos rfl]
      exact roundHalfAway?_zero
    · exact roundHalfAway?_ofRatio_one hn h64 hd
  rw [roundToUInt64Clamped, hr]
  simp only [Nat.pow_eq]
  omega

/-- The top 64-bit value is not a double: it rounds up to `2^64`, which the clamp brings
back. -/
theorem roundToUInt64Clamped_ofInt_max : roundToUInt64Clamped (ofInt (2^64 - 1)) = 2^64 - 1 := by
  decide

/-- An integer of at most 64 bits is a finite double. -/
theorem isFinite_ofInt {i : Int} (h : i.natAbs < 2^64) : (ofInt i).isFinite = true := by
  unfold ofInt
  rcases Nat.eq_zero_or_pos i.natAbs with h0 | hn
  · rw [h0, ofRatio, if_pos rfl]
    exact isFinite_ofParts (by decide) (by decide)
  · obtain ⟨e, f, he, hf, heq⟩ := ofRatio_one_eq (decide (i < 0)) hn h
    rw [heq]
    exact isFinite_ofParts he hf

/-- A natural of at most 64 bits is a double at least zero. -/
theorem zero_le_ofInt {n : Nat} (h : n < 2^64) : (0 : Float) ≤ ofInt n := by
  rw [ofInt_natCast]
  rcases Nat.eq_zero_or_pos n with rfl | hn
  · rw [ofRatio, if_pos rfl]
    exact zero_le_ofParts (by decide) (by decide)
  · obtain ⟨e, f, he, hf, heq⟩ := ofRatio_one_eq false hn h
    rw [heq]
    exact zero_le_ofParts he hf

/-- The significand of a double has at most 53 bits. -/
theorem Parts.significand_lt_of_parts (f : Float) : (parts f).significand < 2^53 := by
  have h : (parts f).fraction < 2^52 := by
    simp only [parts, Nat.pow_eq]
    exact Nat.mod_lt _ (Nat.two_pow_pos 52)
  simp only [Parts.significand, Nat.pow_eq]
  split <;> omega

/-- The exact value of a finite double: its significand shifted left, over one, or over a
power of two when the scale is negative. -/
theorem Parts.ratio_cases (p : Parts) :
    (0 ≤ p.scale ∧ p.ratio.1.natAbs = p.significand * 2 ^ p.scale.toNat ∧ p.ratio.2 = 1) ∨
      (p.scale < 0 ∧ p.ratio.1.natAbs = p.significand ∧ 2 ≤ p.ratio.2) := by
  unfold Parts.ratio
  by_cases hs : 0 ≤ p.scale
  · left
    refine ⟨hs, ?_, by simp [hs]⟩
    cases p.negative <;> simp [hs, Int.natAbs_mul, Nat.pow_eq]
  · right
    refine ⟨by omega, by cases p.negative <;> simp [hs], ?_⟩
    simp only [hs, if_false, Nat.pow_eq]
    calc 2 = 2 ^ 1 := rfl
      _ ≤ 2 ^ (-p.scale).toNat := Nat.pow_le_pow_right (by decide) (by omega)

/-- Rounding a double to the nearest integer gives zero or less, or a whole double. -/
theorem roundHalfAway?_eq_some {f : Float} {n : Int} (h : roundHalfAway? f = some n) :
    n ≤ 0 ∨ ∃ r : Nat, n = r ∧ IsDouble r := by
  have hsig := Parts.significand_lt_of_parts f
  have hcases := Parts.ratio_cases (parts f)
  unfold roundHalfAway? at h
  dsimp only at h
  split at h
  · generalize (parts f).ratio = q at h hcases
    obtain ⟨num, den⟩ := q
    simp only [Option.some.injEq] at h
    subst h
    generalize hq : (2 * num.natAbs + den) / (2 * den) = r
    split
    · left
      omega
    · right
      refine ⟨r, rfl, ?_⟩
      subst hq
      rcases hcases with ⟨-, hnum, hden⟩ | ⟨-, hnum, hden⟩
      · -- a whole number already: rounding keeps it
        dsimp only at hnum hden
        rw [hnum, hden]
        have hk : (2 * ((parts f).significand * 2 ^ (parts f).scale.toNat) + 1) / (2 * 1)
            = (parts f).significand * 2 ^ (parts f).scale.toNat := by omega
        rw [hk]
        exact ⟨_, _, hsig, rfl⟩
      · -- a fraction over at least two: it rounds to less than `2^53`
        dsimp only at hnum hden
        rw [hnum]
        refine ⟨_, 0, ?_, (Nat.mul_one _).symm⟩
        apply (Nat.div_lt_iff_lt_mul (by omega)).2
        omega
  · simp at h

/-- A double with no nearest integer has no integer part either. -/
theorem truncate?_eq_none {f : Float} (h : roundHalfAway? f = none) : truncate? f = none := by
  unfold roundHalfAway? at h
  unfold truncate?
  dsimp only at h ⊢
  split at h
  · simp at h
  · rw [if_neg (by assumption)]

/-- What rounding and clamping a double gives: a whole double below `2^64`, or the largest
64-bit value. -/
theorem roundToUInt64Clamped_cases (f : Float) :
    (IsDouble (roundToUInt64Clamped f) ∧ roundToUInt64Clamped f < 2^64) ∨
      roundToUInt64Clamped f = 2^64 - 1 := by
  have h0 : IsDouble 0 := ⟨0, 0, by decide, rfl⟩
  unfold roundToUInt64Clamped
  cases hr : roundHalfAway? f with
  | some n =>
    simp only [Nat.pow_eq]
    rcases roundHalfAway?_eq_some hr with hn | ⟨r, rfl, hd⟩
    · left
      have h : (min n ((2 ^ 64 : Nat) - 1 : Int)).toNat = 0 := by omega
      rw [h]
      exact ⟨h0, by decide⟩
    · by_cases hbig : r < 2^64 - 1
      · left
        have h : (min (r : Int) ((2 ^ 64 : Nat) - 1 : Int)).toNat = r := by omega
        rw [h]
        exact ⟨hd, by omega⟩
      · right
        omega
  | none =>
    -- an infinity or NaN: the integer part is missing too, and the clamp picks an end
    simp only [toUInt64Clamped, truncate?_eq_none hr, Nat.pow_eq]
    split_ifs
    · exact .inl ⟨h0, by decide⟩
    · exact .inr rfl
    · exact .inl ⟨h0, by decide⟩
end Binary64

namespace Read

/-- A duration written back as an integer reads as itself. -/
theorem lenientDuration_int {d : Nat}
    (hd : (Binary64.IsDouble d ∧ d < 2^64) ∨ d = 2^64 - 1) :
    lenientDuration (some (.int d)) = some d := by
  have h64 : d < 2^64 := by omega
  have hfin : (Binary64.ofInt d).isFinite = true := Binary64.isFinite_ofInt (by simpa using h64)
  have hpos : (0 : Float) ≤ Binary64.ofInt d := Binary64.zero_le_ofInt h64
  have hround : Binary64.roundToUInt64Clamped (Binary64.ofInt d) = d := by
    rcases hd with ⟨hd, h64⟩ | rfl
    · exact Binary64.roundToUInt64Clamped_ofInt h64 hd
    · exact Binary64.roundToUInt64Clamped_ofInt_max
  simp [lenientDuration, lenientNumber, Loose.toNumberOf, hfin, hpos, hround]

/-- Every duration the reader produces, written as an integer, reads back as itself. -/
theorem lenientDuration_roundToUInt64Clamped (f : Float) :
    lenientDuration (some (.int (Binary64.roundToUInt64Clamped f)))
      = some (Binary64.roundToUInt64Clamped f) :=
  lenientDuration_int (Binary64.roundToUInt64Clamped_cases f)

end Read

end Storyboard
